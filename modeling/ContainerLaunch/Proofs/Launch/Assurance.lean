import ContainerLaunch.Launch.Course
/-!
# What a procedure assures

`Procedure.Assures out p post x`: from the state `x` of its surroundings on, the procedure ends as `post`
says, whatever it is answered. Between two questions the surroundings may drift, by what others do to
them; `Assures` takes every drift into account, before each question and after the last one, so that it
is kept when others act (`Assures.drift`). The rules follow the ways in which procedures are put together.

Most questions of a launch go to the log and to the roster. A `Quiet` procedure asks only such questions
and ends with a value; `Quiet.bind` drops it.
-/

namespace ContainerLaunch.Launch

/-- What surrounds a procedure: how it changes by itself, and how it answers. -/
structure Surroundings (σ : Type) where
  drift : σ → σ → Prop
  answers : σ → (q : Question) → q.Answer → σ → Prop
  refl : ∀ x, drift x x
  trans : ∀ {x y z}, drift x y → drift y z → drift x z

/-- The log, the roster, a subscription and the start of a listener change nothing for the rest of the
surroundings. A subscription fails only in ordinary ways, and there is a thread for every listener. -/
structure Surroundings.Discreet {σ : Type} (out : Surroundings σ) : Prop where
  log : ∀ {x record a y}, out.answers x (.log record) a y → y = x
  act : ∀ {x action a y}, out.answers x (.act action) a y → y = x
  subscribe : ∀ {x url id removal a y}, out.answers x (.subscribe url id removal) a y →
    y = x ∧ ∀ f, a = .error f → f.isOrdinary
  spawn : ∀ {x id a y}, out.answers x (.spawn id) a y → y = x ∧ a = .ok ()

namespace Procedure

variable {σ ε ε' α β : Type} {out : Surroundings σ}

/-- From a state of the surroundings on, every run ends as `post` says. -/
def Assures (out : Surroundings σ) : Procedure ε α → (Except ε α → σ → Prop) → σ → Prop
  | .done value, post, x => ∀ y, out.drift x y → post (.ok value) y
  | .fail fault, post, x => ∀ y, out.drift x y → post (.error fault) y
  | .ask q next, post, x => ∀ y, out.drift x y → ∀ a z, out.answers y q a z → Assures out (next a) post z

section Rules
variable {p : Procedure ε α} {post post' : Except ε α → σ → Prop} {x y : σ}

theorem assures_ofExcept {r : Except ε α} :
    Assures out (ofExcept r) post x ↔ ∀ y, out.drift x y → post r y := by
  cases r <;> rfl

theorem Assures.drift (h : Assures out p post x) (hxy : out.drift x y) : Assures out p post y := by
  cases p with
  | done value => exact fun z hz => h z (out.trans hxy hz)
  | fail fault => exact fun z hz => h z (out.trans hxy hz)
  | ask q next => exact fun z hz => h z (out.trans hxy hz)

theorem Assures.mono (h : Assures out p post x) (hpost : ∀ r z, post r z → post' r z) :
    Assures out p post' x := by
  induction p generalizing x with
  | done value => exact fun z hz => hpost _ _ (h z hz)
  | fail fault => exact fun z hz => hpost _ _ (h z hz)
  | ask q next ih => exact fun z hz a w hw => ih a (h z hz a w hw)

/-- What holds at the end goes on holding. -/
theorem Assures.settled (h : Assures out p post x) :
    Assures out p (fun r y => Assures out (ofExcept r) post y) x := by
  induction p generalizing x with
  | done value => exact fun z hz => assures_ofExcept.2 fun w hw => h w (out.trans hz hw)
  | fail fault => exact fun z hz => assures_ofExcept.2 fun w hw => h w (out.trans hz hw)
  | ask q next ih => exact fun z hz a w hw => ih a (h z hz a w hw)

theorem assures_bind {next : α → Procedure ε β} {post : Except ε β → σ → Prop} :
    Assures out (p >>= next) post x ↔
      Assures out p (fun r y => match r with
        | .ok value => Assures out (next value) post y
        | .error fault => Assures out (.fail fault) post y) x := by
  induction p generalizing x with
  | done value => exact ⟨fun h y hy => h.drift hy, fun h => h x (out.refl x)⟩
  | fail fault => exact ⟨fun h y hy => Assures.drift h hy, fun h => h x (out.refl x)⟩
  | ask q more ih =>
    constructor
    · exact fun h y hy a z hz => (ih a).1 (h y hy a z hz)
    · exact fun h y hy a z hz => (ih a).2 (h y hy a z hz)

theorem assures_attempt {post : Except ε' (Except ε α) → σ → Prop} :
    Assures out (p.attempt : Procedure ε' (Except ε α)) post x ↔
      Assures out p (fun r y => post (.ok r) y) x := by
  induction p generalizing x with
  | done value => rfl
  | fail fault => rfl
  | ask q more ih => exact forall₂_congr fun y _ => forall₃_congr fun a z _ => ih a

theorem assures_mapFault {f : ε → ε'} {post : Except ε' α → σ → Prop} :
    Assures out (p.mapFault f) post x ↔ Assures out p (fun r y => post (r.mapError f) y) x := by
  induction p generalizing x with
  | done value => rfl
  | fail fault => rfl
  | ask q more ih => exact forall₂_congr fun y _ => forall₃_congr fun a z _ => ih a

/-- A run against a state that answers each question at once ends as is assured of the surroundings that
answer alike. `view` is what they see of the state. -/
theorem Assures.run {τ : Type} {answer : (q : Question) → StateM τ q.Answer} (view : τ → σ) {s : τ}
    (ha : ∀ s q, out.answers (view s) q ((answer q).run s).1 (view ((answer q).run s).2))
    (h : Assures out p post (view s)) :
    post ((p.run answer).run s).1 (view ((p.run answer).run s).2) := by
  induction p generalizing s with
  | done value => exact h _ (out.refl _)
  | fail fault => exact h _ (out.refl _)
  | ask q next ih => exact ih _ (h _ (out.refl _) _ _ (ha s q))

end Rules

/-! ## Quiet procedures -/

/-- The procedure ends with a value and leaves the surroundings to themselves. -/
def Quiet (out : Surroundings σ) (p : Procedure ε α) : Prop :=
  ∀ post x, (∀ value y, out.drift x y → post (.ok value) y) → Assures out p post x

section Quiet
variable {p : Procedure ε α} {x : σ}

theorem quiet_done (value : α) : Quiet out (.done value : Procedure ε α) :=
  fun _ _ h y hy => h value y hy

theorem Quiet.bind {next : α → Procedure ε β} {post : Except ε β → σ → Prop} (hp : Quiet out p)
    (h : ∀ value, Assures out (next value) post x) : Assures out (p >>= next) post x :=
  assures_bind.2 (hp _ _ fun value _ hy => (h value).drift hy)

theorem Quiet.andThen {next : α → Procedure ε β} (hp : Quiet out p)
    (hnext : ∀ value, Quiet out (next value)) : Quiet out (p >>= next) :=
  fun post x h => hp.bind fun value => hnext value post x h

theorem Quiet.ask {q : Question} {next : q.Answer → Procedure ε α}
    (h : ∀ x a y, out.answers x q a y → y = x ∧ Quiet out (next a)) : Quiet out (.ask q next) := by
  intro post x hpost y hy a z hz
  obtain ⟨rfl, hnext⟩ := h y a z hz
  exact hnext post z fun value w hw => hpost value w (out.trans hy hw)

theorem Quiet.ensuring {last : Procedure ε Unit} {post : Except ε α → σ → Prop} (hl : Quiet out last)
    (h : Assures out p post x) : Assures out (p.ensuring last) post x := by
  refine assures_bind.2 (assures_attempt.2 (h.settled.mono fun r y hr => ?_))
  exact hl.bind fun _ => hr

end Quiet

/-! ## Outlines -/

/-- Whatever `outline` assures, the procedure assures. -/
def OutlinedBy (out : Surroundings σ) (p outline : Procedure ε α) : Prop :=
  ∀ post x, Assures out outline post x → Assures out p post x

section Outlines
variable {p p' : Procedure ε α}

theorem OutlinedBy.refl (p : Procedure ε α) : OutlinedBy out p p := fun _ _ h => h

theorem OutlinedBy.trans {p'' : Procedure ε α} (h : OutlinedBy out p p') (h' : OutlinedBy out p' p'') :
    OutlinedBy out p p'' :=
  fun post x hp => h post x (h' post x hp)

theorem OutlinedBy.bind {next next' : α → Procedure ε β} (hp : OutlinedBy out p p')
    (hnext : ∀ value, OutlinedBy out (next value) (next' value)) :
    OutlinedBy out (p >>= next) (p' >>= next') := by
  refine fun post x h => assures_bind.2 (hp _ _ ((assures_bind.1 h).mono fun r y hr => ?_))
  cases r with
  | ok value => exact hnext value post y hr
  | error fault => exact hr

theorem OutlinedBy.quiet {q : Procedure ε β} {next : β → Procedure ε α} (hq : Quiet out q)
    (hp : ∀ value, OutlinedBy out (next value) p') : OutlinedBy out (q >>= next) p' :=
  fun post x h => hq.bind fun value => hp value post x h

theorem OutlinedBy.ensuring {last : Procedure ε Unit} (hp : OutlinedBy out p p') (hl : Quiet out last) :
    OutlinedBy out (p.ensuring last) p' :=
  fun post x h => hl.ensuring (hp post x h)

theorem OutlinedBy.mapFault {f : ε → ε'} (hp : OutlinedBy out p p') :
    OutlinedBy out (p.mapFault f) (p'.mapFault f) :=
  fun _ x h => assures_mapFault.2 (hp _ x (assures_mapFault.1 h))

end Outlines

end Procedure

end ContainerLaunch.Launch

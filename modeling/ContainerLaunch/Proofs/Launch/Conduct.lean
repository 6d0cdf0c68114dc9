import ContainerLaunch.Launch.Course
import ContainerLaunch.Proofs.Cleanup.Deeds
/-!
# How a launch conducts itself

`Conducts told id p post s asked`: whatever the roster tells it, the procedure does nothing on the roster that
a launch about the container `id` may not do, and it ends as `post` says. Outside it is told what `told` says,
which goes by what it asked there before.

A launch ends with the same result and asks the same whatever the roster tells it, and it ends without a
watcher or with one that it has let go, unless there was no thread for the listener (`uniform_work`,
`uniform_launch`). So it comes to what it comes to when it has the roster for itself (`alone`).
-/

namespace ContainerLaunch.Launch

open Cleanup
open Procedure

/-- A question to the framework, the helper, the daemon, the source of notices or the system. -/
def Question.goesOut : Question → Bool
  | .log _ | .act _ => false
  | _ => true

/-- What was asked outside, with one question more. -/
def Question.noted (q : Question) (asked : List Question) : List Question :=
  bif q.goesOut then asked ++ [q] else asked

/-- What a launch is told outside, given what it asked there before. -/
abbrev Told := List Question → (q : Question) → q.Answer

/-- Whether a question asks for a thread. -/
def Question.spawns : Question → Bool
  | .spawn _ => true
  | _ => false

/-- A listener was asked for, and there was no thread for it. -/
def Unspawned (told : Told) (asked : List Question) : Prop :=
  ∃ before containerId after f, asked = before ++ .spawn containerId :: after ∧
    told before (.spawn containerId) = Except.error f

theorem not_unspawned_nil (told : Told) : ¬ Unspawned told [] := by
  rintro ⟨before, containerId, after, f, h, -⟩
  cases before <;> cases h

theorem unspawned_concat {told : Told} {asked : List Question} {q : Question} :
    Unspawned told (asked ++ [q]) ↔
      Unspawned told asked ∨ ∃ containerId f, q = .spawn containerId ∧ told asked (.spawn containerId) = Except.error f := by
  constructor
  · rintro ⟨before, containerId, after, f, h, ht⟩
    rcases List.eq_nil_or_concat after with rfl | ⟨after, last, rfl⟩
    · obtain ⟨rfl, hq⟩ := List.append_inj' h rfl
      exact .inr ⟨containerId, f, (List.cons.inj hq).1, ht⟩
    · rw [List.concat_eq_append, ← List.cons_append, ← List.append_assoc] at h
      obtain ⟨rfl, -⟩ := List.append_inj' h rfl
      exact .inl ⟨before, containerId, after, f, rfl, ht⟩
  · rintro (⟨before, containerId, after, f, rfl, ht⟩ | ⟨containerId, f, rfl, ht⟩)
    · exact ⟨before, containerId, after ++ [q], f, by simp, ht⟩
    · exact ⟨asked, containerId, [], f, rfl, ht⟩

theorem unspawned_concat_of_spawns {told : Told} {asked : List Question} {q : Question} (h : q.spawns = false) :
    Unspawned told (asked ++ [q]) ↔ Unspawned told asked := by
  refine unspawned_concat.trans (or_iff_left ?_)
  rintro ⟨containerId, f, rfl, -⟩
  cases h

/-- The answer to a question, and the roster after it. -/
def Question.reply (r : Roster) (outside : (q : Question) → q.Answer) : (q : Question) → q.Answer × Roster
  | .act a => ((r.perform a).reply, (r.perform a).roster)
  | .log _ => ((), r)
  | q => (outside q, r)

/-! ## A launch that has the roster for itself -/

/-- Answers a question with the roster at hand and what is told outside. -/
def respond (told : Told) (q : Question) : StateM (Roster × List Question) q.Answer := do
  let (r, asked) ← get
  let (a, r') := q.reply r (told asked)
  set (r', q.noted asked)
  return a

/-- How a procedure ends that has the roster for itself, and what it asks outside. -/
def alone {ε α : Type} (told : Told) (p : Procedure ε α) : Except ε α × List Question :=
  let (result, _, asked) := (p.run (respond told)).run ({}, [])
  (result, asked)

/-! ## Conduct -/

/-- What follows a question: any reply of the roster, to an action that the launch may take, or what is told. -/
def Asking (told : Told) (id : String) (s : Standing) (asked : List Question) :
    (q : Question) → (q.Answer → Standing → List Question → Prop) → Prop
  | .act a, k => ∀ reply, ∃ s', s.Step id a reply s' ∧ k reply s' asked
  | .log _, k => k () s asked
  | q, k => k (told asked q) s (asked ++ [q])

theorem Asking.mono {told : Told} {id : String} {s : Standing} {asked : List Question} {q : Question}
    {k k' : q.Answer → Standing → List Question → Prop} (h : Asking told id s asked q k)
    (hk : ∀ a s asked, k a s asked → k' a s asked) : Asking told id s asked q k' := by
  cases q with
  | act a =>
    intro reply
    obtain ⟨s', hs, h⟩ := h reply
    exact ⟨s', hs, hk _ _ _ h⟩
  | _ => exact hk _ _ _ h

namespace Procedure

variable {ε ε' α β : Type}

/-- Whatever the roster tells it, the procedure only does what its standing allows, and ends as `post` says. -/
def Conducts (told : Told) (id : String) :
    Procedure ε α → (Except ε α → Standing → List Question → Prop) → Standing → List Question → Prop
  | .done value, post, s, asked => post (.ok value) s asked
  | .fail fault, post, s, asked => post (.error fault) s asked
  | .ask q next, post, s, asked =>
    Asking told id s asked q fun a s' asked' => Conducts told id (next a) post s' asked'

section Rules
variable {told : Told} {id : String} {p : Procedure ε α} {post post' : Except ε α → Standing → List Question → Prop}
  {s : Standing} {asked : List Question}

theorem conducts_ofExcept {r : Except ε α} : Conducts told id (ofExcept r) post s asked ↔ post r s asked := by
  cases r <;> rfl

theorem Conducts.mono (h : Conducts told id p post s asked) (hpost : ∀ r s asked, post r s asked → post' r s asked) :
    Conducts told id p post' s asked := by
  induction p generalizing s asked with
  | done value => exact hpost _ _ _ h
  | fail fault => exact hpost _ _ _ h
  | ask q next ih => exact Asking.mono h fun a _ _ h => ih a h

theorem Conducts.bind {next : α → Procedure ε β} {post : Except ε β → Standing → List Question → Prop}
    (h : Conducts told id p (fun r s asked => match r with
      | .ok value => Conducts told id (next value) post s asked
      | .error fault => post (.error fault) s asked) s asked) :
    Conducts told id (p >>= next) post s asked := by
  induction p generalizing s asked with
  | done value => exact h
  | fail fault => exact h
  | ask q more ih => exact Asking.mono h fun a _ _ h => ih a h

theorem Conducts.attempt {post : Except ε' (Except ε α) → Standing → List Question → Prop}
    (h : Conducts told id p (fun r => post (.ok r)) s asked) :
    Conducts told id (p.attempt : Procedure ε' (Except ε α)) post s asked := by
  induction p generalizing s asked with
  | done value => exact h
  | fail fault => exact h
  | ask q more ih => exact Asking.mono h fun a _ _ h => ih a h

theorem Conducts.mapFault {f : ε → ε'} {post : Except ε' α → Standing → List Question → Prop}
    (h : Conducts told id p (fun r => post (r.mapError f)) s asked) :
    Conducts told id (p.mapFault f) post s asked := by
  induction p generalizing s asked with
  | done value => exact h
  | fail fault => exact h
  | ask q more ih => exact Asking.mono h fun a _ _ h => ih a h

theorem Conducts.ensuring {last : Procedure ε Unit}
    (h : Conducts told id p (fun r s asked => Conducts told id last (fun r' s asked => match r' with
      | .ok _ => post r s asked
      | .error fault => post (.error fault) s asked) s asked) s asked) :
    Conducts told id (p.ensuring last) post s asked := by
  refine Conducts.bind (Conducts.attempt (h.mono fun r s asked h => ?_))
  refine Conducts.bind (h.mono fun r' s asked h => ?_)
  cases r' with
  | ok _ => exact conducts_ofExcept.2 h
  | error fault => exact h

/-- With a roster of its own the procedure ends as it does with any. -/
theorem Conducts.run (h : Conducts told id p post s asked) (r : Roster) :
    ∃ s' more, post ((p.run (respond told)).run (r, asked)).1 s' (asked ++ more) ∧
      ((p.run (respond told)).run (r, asked)).2.2 = asked ++ more := by
  induction p generalizing s asked r with
  | done value => exact ⟨s, [], (List.append_nil asked).symm ▸ h, (List.append_nil asked).symm⟩
  | fail fault => exact ⟨s, [], (List.append_nil asked).symm ▸ h, (List.append_nil asked).symm⟩
  | ask q next ih =>
    have hask : ∀ s' asked', Conducts told id (next (q.reply r (told asked)).1) post s' asked' →
        asked' = q.noted asked → asked <+: asked' →
        ∃ s' more, post (((Procedure.ask q next).run (respond told)).run (r, asked)).1 s' (asked ++ more) ∧
          (((Procedure.ask q next).run (respond told)).run (r, asked)).2.2 = asked ++ more := by
      rintro s' asked' h rfl ⟨one, hone⟩
      obtain ⟨s'', more, hpost, hmore⟩ := ih _ h (q.reply r (told asked)).2
      refine ⟨s'', one ++ more, ?_, ?_⟩
      · rw [← List.append_assoc, hone]
        exact hpost
      · rw [← List.append_assoc, hone]
        exact hmore
    cases q with
    | act a =>
      obtain ⟨s', -, h⟩ := h (r.perform a).reply
      exact hask _ _ h rfl (List.prefix_refl _)
    | log record => exact hask _ _ h rfl (List.prefix_refl _)
    | _ => exact hask _ _ h rfl (List.prefix_append _ _)

end Rules

/-! ## Ends that the roster has no say in -/

/-- Procedures that differ in the watcher that they are about, say: from standings of the kind `P` they all end
with one result and with standings of the kind `Q`, having asked the same. A kind may go by what was asked. -/
def Uniform {ι : Type} (told : Told) (id : String) (P : ι → Standing → List Question → Prop)
    (p : ι → Procedure ε α) (Q : ι → Standing → List Question → Prop) : Prop :=
  ∀ asked, ∃ result asked', ∀ i s, P i s asked →
    Conducts told id (p i) (fun r s' more => r = result ∧ Q i s' more ∧ more = asked') s asked

section Uniform
variable {ι : Type} {told : Told} {id : String} {P Q R : ι → Standing → List Question → Prop}

theorem uniform_ofExcept (r : Except ε α) : Uniform told id P (fun _ => ofExcept r) P :=
  fun asked => ⟨r, asked, fun _ _ hs => conducts_ofExcept.2 ⟨rfl, hs, rfl⟩⟩

theorem uniform_done (value : α) : Uniform told id P (fun _ => (.done value : Procedure ε α)) P :=
  uniform_ofExcept (.ok value)

theorem uniform_logs (records : List LogRecord) :
    Uniform told id P (fun _ => (logs records : Procedure ε Unit)) P := by
  induction records with
  | nil => exact uniform_done ()
  | cons record records ih => exact ih

theorem uniform_question {q : Question} (h : q.goesOut = true)
    (hP : ∀ i s asked, P i s asked → P i s (asked ++ [q])) :
    Uniform told id P (fun _ => (question q : Procedure ε q.Answer)) P := by
  intro asked
  cases q with
  | log _ => cases h
  | act _ => cases h
  | _ => exact ⟨_, _, fun i s hs => ⟨rfl, hP i s asked hs, rfl⟩⟩

theorem Uniform.imp {p : ι → Procedure ε α} (hp : Uniform told id P p Q)
    (hQ : ∀ i s asked, Q i s asked → R i s asked) : Uniform told id P p R := by
  intro asked
  obtain ⟨result, asked', hp⟩ := hp asked
  exact ⟨result, asked', fun i s hs => (hp i s hs).mono fun _ _ _ ⟨hr, hs, ha⟩ => ⟨hr, hQ _ _ _ hs, ha⟩⟩

theorem Uniform.bind {p : ι → Procedure ε α} {next : ι → α → Procedure ε β} (hp : Uniform told id P p Q)
    (hQ : ∀ i s asked, Q i s asked → R i s asked)
    (hnext : ∀ value, Uniform told id Q (fun i => next i value) R) :
    Uniform told id P (fun i => p i >>= next i) R := by
  intro asked
  obtain ⟨result, asked₁, hp⟩ := hp asked
  cases result with
  | error fault =>
    refine ⟨.error fault, asked₁, fun i s hs => Conducts.bind ((hp i s hs).mono ?_)⟩
    rintro _ s' _ ⟨rfl, hs', rfl⟩
    exact ⟨rfl, hQ i s' _ hs', rfl⟩
  | ok value =>
    obtain ⟨result, asked₂, hnext⟩ := hnext value asked₁
    refine ⟨result, asked₂, fun i s hs => Conducts.bind ((hp i s hs).mono ?_)⟩
    rintro _ s' _ ⟨rfl, hs', rfl⟩
    exact hnext i s' hs'

theorem Uniform.andThen {p : ι → Procedure ε α} {next : ι → α → Procedure ε β} (hp : Uniform told id P p Q)
    (hnext : ∀ value, Uniform told id Q (fun i => next i value) Q) :
    Uniform told id P (fun i => p i >>= next i) Q :=
  hp.bind (fun _ _ _ hs => hs) hnext

theorem Uniform.mapFault {f : ε → ε'} {p : ι → Procedure ε α} (hp : Uniform told id P p Q) :
    Uniform told id P (fun i => (p i).mapFault f) Q := by
  intro asked
  obtain ⟨result, asked', hp⟩ := hp asked
  refine ⟨result.mapError f, asked', fun i s hs => Conducts.mapFault ((hp i s hs).mono ?_)⟩
  rintro _ s' _ ⟨rfl, hs', rfl⟩
  exact ⟨rfl, hs', rfl⟩

theorem Uniform.ensuring {p : ι → Procedure ε α} {last : ι → Procedure ε Unit} (hp : Uniform told id P p Q)
    (hl : Uniform told id Q last R) : Uniform told id P (fun i => (p i).ensuring (last i)) R := by
  intro asked
  obtain ⟨result, asked₁, hp⟩ := hp asked
  obtain ⟨result', asked₂, hl⟩ := hl asked₁
  refine ⟨result'.bind fun _ => result, asked₂, fun i s hs => Conducts.ensuring ((hp i s hs).mono ?_)⟩
  rintro _ s' _ ⟨rfl, hs', rfl⟩
  refine (hl i s' hs').mono ?_
  rintro r' s'' _ ⟨rfl, hs'', rfl⟩
  cases r' with
  | ok _ => exact ⟨rfl, hs'', rfl⟩
  | error _ => exact ⟨rfl, hs'', rfl⟩

end Uniform

end Procedure

/-! ## Launches -/

/-- A launch with a watcher in charge, or without one. -/
def Served (told : Told) (watcher : Option Ticket) (s : Standing) (asked : List Question) : Prop :=
  s = watcher.elim .unwatched .inCharge ∧ ¬ Unspawned told asked

/-- Before anything was done on the roster. -/
def Fresh (told : Told) (_ : Unit) (s : Standing) (asked : List Question) : Prop :=
  s = .unwatched ∧ ¬ Unspawned told asked

/-- A launch that has come to its end left its watcher in charge only if there was no thread for the listener. -/
def Finished {ι : Type} (told : Told) (_ : ι) (s : Standing) (asked : List Question) : Prop :=
  s.IsOver ∧ (s.IsStranded ↔ Unspawned told asked)

section Launches
variable {told : Told} {id : String}

theorem Fresh.finished {u : Unit} {s : Standing} {asked : List Question} (h : Fresh told u s asked) :
    Finished told u s asked := by
  obtain ⟨rfl, hno⟩ := h
  exact ⟨trivial, iff_of_false not_false hno⟩

section Steady
variable {ι : Type} {P : ι → Standing → List Question → Prop}

/-- Standings of this kind are not affected by what is asked outside, other than for a thread. -/
def Steady (P : ι → Standing → List Question → Prop) : Prop :=
  ∀ q : Question, q.spawns = false → ∀ i s asked, P i s asked → P i s (asked ++ [q])

theorem uniform_carryOut (hP : Steady P) (o : Helper.Order) : Uniform told id P (fun _ => carryOut o) P := by
  refine (uniform_logs _).andThen fun _ => (uniform_question rfl (hP _ rfl)).andThen fun answer => ?_
  exact (uniform_ofExcept answer).andThen fun _ => (uniform_logs _).andThen fun _ => uniform_done _

theorem steady_served : Steady (Served told) :=
  fun _ hq _ _ _ ⟨hs, hno⟩ => ⟨hs, mt (unspawned_concat_of_spawns hq).1 hno⟩

theorem steady_fresh : Steady (Fresh told) :=
  fun _ hq _ _ _ ⟨hs, hno⟩ => ⟨hs, mt (unspawned_concat_of_spawns hq).1 hno⟩

end Steady

namespace Watch

theorem uniform_markRemoved :
    Uniform told id (Served told) (markRemoved : Option Ticket → Procedure ε Unit) (Served told) := by
  refine fun asked => ⟨.ok (), asked, fun watcher s ⟨hs, hno⟩ => ?_⟩
  subst hs
  cases watcher with
  | none => exact ⟨rfl, ⟨rfl, hno⟩, rfl⟩
  | some t => exact fun _ => ⟨_, .markRemoved t, rfl, ⟨rfl, hno⟩, rfl⟩

theorem uniform_release :
    Uniform told id (Served told) (release id : Option Ticket → Procedure ε Unit) (Finished told) := by
  refine fun asked => ⟨.ok (), asked, fun watcher s ⟨hs, hno⟩ => ?_⟩
  subst hs
  have hfinished : ∀ {s : Standing}, s.IsOver → ¬ s.IsStranded → Finished told watcher s asked :=
    fun hover hnot => ⟨hover, iff_of_false hnot hno⟩
  cases watcher with
  | none => exact ⟨rfl, hfinished trivial not_false, rfl⟩
  | some t =>
    exact fun found => ⟨_, .deregister t found, fun _ => ⟨_, .leave t, rfl, hfinished trivial not_false, rfl⟩⟩

/-- Where a launch stands whose watcher was to get a listener. -/
def enlisted (t : Ticket) : Except Failure Unit → Standing
  | .ok () => .inCharge t
  | .error _ => .stranded t

/-- A subscription begun after `asked`: there was a thread for its listener, or the launch is stranded. -/
def Begun (told : Told) (id : String) (asked : List Question) (r : Except Failure Ticket) (s : Standing)
    (more : List Question) : Prop :=
  ∃ t, r = (told asked (.spawn id) : Except Failure Unit).map (fun _ => t) ∧
    s = enlisted t (told asked (.spawn id)) ∧ more = asked ++ [.spawn id]

theorem conducts_listen (t : Ticket) (asked : List Question) :
    Conducts told id (listen t id)
      (fun r s more => r = told asked (.spawn id) ∧ s = enlisted t r ∧ more = asked ++ [.spawn id])
      (.inCharge t) asked := by
  unfold listen
  simp only [question, ask_bind, Conducts, Asking]
  rcases told asked (.spawn id) with f | ⟨⟩
  · exact fun _ => ⟨_, .giveUp t, rfl, rfl, rfl⟩
  · exact fun _ => ⟨_, .start t, rfl, rfl, rfl⟩

theorem conducts_begin (told : Told) (id : String) (source : Source) (asked : List Question) :
    Conducts told id (begin id source) (Begun told id asked) .unwatched asked := by
  intro t
  have hlisten : Conducts told id (listen t id >>= fun _ => .done t) (Begun told id asked) (.inCharge t) asked := by
    refine Conducts.bind ((conducts_listen t asked).mono ?_)
    rintro _ s more ⟨rfl, rfl, rfl⟩
    rcases hspawn : (told asked (.spawn id) : Except Failure Unit) with f | ⟨⟩
    · exact ⟨t, hspawn ▸ rfl, hspawn ▸ rfl, rfl⟩
    · exact ⟨t, hspawn ▸ rfl, hspawn ▸ rfl, rfl⟩
  refine ⟨.enrolled t, .enrol source t, fun displaced? => ?_⟩
  cases displaced? with
  | none => exact ⟨_, .register t, hlisten⟩
  | some displaced => exact ⟨_, .replace t displaced, fun _ => ⟨_, .close t displaced, hlisten⟩⟩

/-- Whether a launch gets a watcher does not hang on the roster, but which one does. -/
theorem conducts_subscribe (told : Told) (origin : Origin) (url : String) (removal : Helper.Order)
    (asked : List Question) (hno : ¬ Unspawned told asked) :
    ∃ asked', (∃ f, Conducts told removal.containerId (subscribe origin url removal)
        (fun r s more => r = .error f ∧ Finished told () s more ∧ more = asked') .unwatched asked) ∨
      Conducts told removal.containerId (subscribe origin url removal)
        (fun r s more => ∃ watcher, r = .ok watcher ∧ Served told watcher s more ∧ more = asked') .unwatched asked := by
  unfold subscribe
  dsimp only
  split
  · exact ⟨asked, .inr ⟨none, rfl, ⟨rfl, hno⟩, rfl⟩⟩
  · split
    · exact ⟨asked, .inr ⟨none, rfl, ⟨rfl, hno⟩, rfl⟩⟩
    · have hno' : ¬ Unspawned told (asked ++ [.subscribe url removal.containerId removal]) :=
        mt (unspawned_concat_of_spawns rfl).1 hno
      simp only [question, ask_bind, Conducts, Asking]
      rcases told asked (.subscribe url removal.containerId removal) with f | source
      · refine ⟨asked ++ [.subscribe url removal.containerId removal], ?_⟩
        by_cases hf : f.isOrdinary
        · refine .inr ?_
          show Conducts told _ (if f.isOrdinary then _ else _) _ _ _
          rw [if_pos hf]
          exact ⟨none, rfl, ⟨rfl, hno'⟩, rfl⟩
        · refine .inl ⟨f, ?_⟩
          show Conducts told _ (if f.isOrdinary then _ else _) _ _ _
          rw [if_neg hf]
          exact ⟨rfl, ⟨trivial, iff_of_false not_false hno'⟩, rfl⟩
      · refine ⟨asked ++ [.subscribe url removal.containerId removal] ++ [.spawn removal.containerId], ?_⟩
        have hbegin := conducts_begin told removal.containerId source
          (asked ++ [.subscribe url removal.containerId removal])
        rcases hspawn : (told _ (.spawn removal.containerId) : Except Failure Unit) with f | ⟨⟩
        · refine .inl ⟨f, ?_⟩
          show Conducts told _ (begin _ source >>= fun t => .done (some t)) _ _ _
          refine Conducts.bind (hbegin.mono ?_)
          rintro _ s _ ⟨t, rfl, rfl, rfl⟩
          rw [hspawn]
          exact ⟨rfl, ⟨trivial, iff_of_true trivial (unspawned_concat.2 (.inr ⟨_, f, rfl, hspawn⟩))⟩, rfl⟩
        · refine .inr ?_
          show Conducts told _ (begin _ source >>= fun t => .done (some t)) _ _ _
          refine Conducts.bind (hbegin.mono ?_)
          rintro _ s _ ⟨t, rfl, rfl, rfl⟩
          rw [hspawn]
          refine ⟨some t, rfl, ⟨rfl, fun h => ?_⟩, rfl⟩
          rcases unspawned_concat.1 h with h | ⟨_, f, h, hf⟩
          · exact hno' h
          · cases h
            cases hspawn.symm.trans hf

end Watch

theorem uniform_startAndRemove (order : Helper.Task → Helper.Order) :
    Uniform told id (Served told) (startAndRemove order) (Served told) := by
  refine (uniform_carryOut steady_served _).andThen fun started => ?_
  refine (uniform_carryOut steady_served _).andThen fun removed => ?_
  by_cases hr : removed.succeeded
  · simp only [hr, if_true]
    exact Watch.uniform_markRemoved.andThen fun _ => uniform_done _
  · simp only [hr]
    exact uniform_done _

theorem uniform_subscribe_bind {next : Option Ticket → Procedure Failure β} (origin : Watch.Origin) (url : String)
    (removal : Helper.Order)
    (hnext : Uniform told removal.containerId (Served told) next fun _ => Finished told ()) :
    Uniform told removal.containerId (Fresh told) (fun _ => Watch.subscribe origin url removal >>= next)
      (Finished told) := by
  intro asked
  by_cases hno : Unspawned told asked
  · exact ⟨.error default, asked, fun _ _ hfresh => absurd hno hfresh.2⟩
  · obtain ⟨asked₁, ⟨f, hs⟩ | hs⟩ := Watch.conducts_subscribe told origin url removal asked hno
    · refine ⟨.error f, asked₁, fun _ s hfresh => ?_⟩
      obtain ⟨rfl, -⟩ := hfresh
      refine Conducts.bind (hs.mono ?_)
      rintro _ _ _ ⟨rfl, hfinished, rfl⟩
      exact ⟨rfl, hfinished, rfl⟩
    · obtain ⟨result, asked₂, hnext⟩ := hnext asked₁
      refine ⟨result, asked₂, fun _ s hfresh => ?_⟩
      obtain ⟨rfl, -⟩ := hfresh
      refine Conducts.bind (hs.mono ?_)
      rintro _ s _ ⟨watcher, rfl, hserved, rfl⟩
      exact hnext watcher s hserved

theorem uniform_createStartRemove (origin : Watch.Origin) (url : String) (order : Helper.Task → Helper.Order)
    (hid : (order .remove).containerId = id) :
    Uniform told id (Fresh told) (fun _ => createStartRemove origin url id order) (Finished told) := by
  subst hid
  refine (uniform_carryOut steady_fresh _).bind (fun _ _ _ => Fresh.finished) fun created => ?_
  by_cases hc : created.succeeded
  · simp only [hc]
    refine (uniform_logs _).bind (fun _ _ _ => Fresh.finished) fun _ => uniform_subscribe_bind _ _ _ ?_
    refine ((uniform_startAndRemove order).ensuring Watch.uniform_release).andThen fun results => ?_
    exact (uniform_logs _).andThen fun _ => uniform_done _
  · simp only [hc]
    exact (uniform_done created).imp fun _ _ _ => Fresh.finished

theorem uniform_work (client : Client) (origin : Watch.Origin) (helperPath : String) (r : Request) (plan : Plan) :
    Uniform told r.containerId (Fresh told)
      (fun _ => Pipeline.work ⟨client, .createStart, origin⟩ helperPath r plan) (Finished told) := by
  unfold Pipeline.work
  let order := fun task => Helper.order ⟨helperPath, client⟩ task r plan
  exact uniform_createStartRemove origin plan.dockerUrl order rfl

/-- What ends uniformly ends as it does alone. -/
theorem conducts_alone {p : Procedure ε α} (hp : Uniform told id (Fresh told) (fun _ => p) (Finished told)) :
    Conducts told id p (fun r s asked => (r, asked) = alone told p ∧ Finished told () s asked) .unwatched [] := by
  obtain ⟨result, asked', hp⟩ := hp []
  have h := hp () .unwatched ⟨rfl, not_unspawned_nil told⟩
  obtain ⟨_, more, ⟨hr, -, ha⟩, hmore⟩ := h.run {}
  have halone : alone told p = (result, asked') := Prod.ext hr (hmore.trans ha)
  refine h.mono ?_
  rintro _ s _ ⟨rfl, hs, rfl⟩
  exact ⟨halone.symm, hs⟩

end Launches

end ContainerLaunch.Launch

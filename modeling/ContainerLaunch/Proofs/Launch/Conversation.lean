import ContainerLaunch.Proofs.Launch.Asking
/-!
# Conversations

An `Exchange` is a question with the answer to it. `p.Goes talk r`: the procedure, told what `talk` says, asks what
`talk` says and ends with `r`. Since a procedure is a finite tree, it comes to its end under every `Oracle`, that
is whatever answers it, and goes as its conversation says (`goes_run`). What is put together from parts goes as
the parts do, one after the other (`goes_bind`).
-/

namespace ContainerLaunch.Launch

/-- A question and its answer. -/
structure Exchange where
  question : Question
  answer : question.Answer

/-- What answers each question, given all that was said before. -/
abbrev Oracle := List Exchange → (q : Question) → q.Answer

/-- The answer of an oracle, who remembers it. -/
def Oracle.answer (o : Oracle) (q : Question) : StateM (List Exchange) q.Answer := do
  let past ← get
  set (past ++ [⟨q, o past q⟩])
  return o past q

namespace Procedure

variable {ε ε' α β : Type}

/-- The procedure can go through this talk and end with this result. -/
inductive Goes : Procedure ε α → List Exchange → Except ε α → Prop where
  | done (value : α) : Goes (.done value) [] (.ok value)
  | fail (fault : ε) : Goes (.fail fault) [] (.error fault)
  | ask {q : Question} {next : q.Answer → Procedure ε α} {a talk r} (h : Goes (next a) talk r) :
    Goes (.ask q next) (⟨q, a⟩ :: talk) r

section Rules
variable {p : Procedure ε α} {talk : List Exchange}

theorem goes_run (o : Oracle) (p : Procedure ε α) (past : List Exchange) :
    ∃ r talk, (p.run o.answer).run past = (r, past ++ talk) ∧ p.Goes talk r := by
  induction p generalizing past with
  | done value => exact ⟨_, [], Prod.ext rfl (List.append_nil past).symm, .done value⟩
  | fail fault => exact ⟨_, [], Prod.ext rfl (List.append_nil past).symm, .fail fault⟩
  | ask q next ih =>
    obtain ⟨r, talk, hrun, hgoes⟩ := ih (o past q) (past ++ [⟨q, o past q⟩])
    refine ⟨r, ⟨q, o past q⟩ :: talk, ?_, .ask hgoes⟩
    rw [List.append_cons, ← hrun]
    rfl

theorem Asks.of_goes {P : Question → Prop} {r : Except ε α} (hp : p.Asks P) (h : p.Goes talk r) :
    ∀ x ∈ talk, P x.question := by
  induction h with
  | done _ => exact fun _ hx => nomatch hx
  | fail _ => exact fun _ hx => nomatch hx
  | ask _ ih => exact List.forall_mem_cons.2 ⟨hp.1, ih (hp.2 _)⟩

theorem goes_done {value : α} {r : Except ε α} :
    (Procedure.done value : Procedure ε α).Goes talk r ↔ talk = [] ∧ r = .ok value :=
  ⟨fun h => by cases h; exact ⟨rfl, rfl⟩, fun ⟨ht, hr⟩ => ht ▸ hr ▸ .done value⟩

theorem goes_fail {fault : ε} {r : Except ε α} :
    (Procedure.fail fault : Procedure ε α).Goes talk r ↔ talk = [] ∧ r = .error fault :=
  ⟨fun h => by cases h; exact ⟨rfl, rfl⟩, fun ⟨ht, hr⟩ => ht ▸ hr ▸ .fail fault⟩

theorem goes_ask {q : Question} {next : q.Answer → Procedure ε α} {r : Except ε α} :
    (Procedure.ask q next).Goes talk r ↔ ∃ a rest, talk = ⟨q, a⟩ :: rest ∧ (next a).Goes rest r :=
  ⟨fun h => by cases h with | ask h => exact ⟨_, _, rfl, h⟩, fun ⟨_, _, ht, h⟩ => ht ▸ .ask h⟩

theorem goes_ofExcept {e r : Except ε α} : (ofExcept e).Goes talk r ↔ talk = [] ∧ r = e := by
  cases e with
  | ok value => exact goes_done
  | error fault => exact goes_fail

theorem goes_bind {next : α → Procedure ε β} {r : Except ε β} :
    (p >>= next).Goes talk r ↔
      (∃ value first rest, talk = first ++ rest ∧ p.Goes first (.ok value) ∧ (next value).Goes rest r) ∨
        ∃ fault, r = .error fault ∧ p.Goes talk (.error fault) := by
  induction p generalizing talk with
  | done value =>
    constructor
    · exact fun h => .inl ⟨value, [], talk, rfl, .done value, h⟩
    · rintro (⟨_, _, _, rfl, ⟨⟩, h⟩ | ⟨_, -, ⟨⟩⟩)
      exact h
  | fail fault =>
    constructor
    · rintro ⟨⟩
      exact .inr ⟨fault, rfl, .fail fault⟩
    · rintro (⟨_, _, _, -, ⟨⟩, -⟩ | ⟨_, rfl, ⟨⟩⟩)
      exact .fail fault
  | ask q more ih =>
    simp only [ask_bind, goes_ask, ih]
    constructor
    · rintro ⟨a, rest, rfl, ⟨value, first, rest, rfl, hp, hnext⟩ | ⟨fault, rfl, hp⟩⟩
      · exact .inl ⟨value, _, rest, rfl, ⟨a, first, rfl, hp⟩, hnext⟩
      · exact .inr ⟨fault, rfl, a, _, rfl, hp⟩
    · rintro (⟨value, _, rest, rfl, ⟨a, first, rfl, hp⟩, hnext⟩ | ⟨fault, rfl, a, rest, rfl, hp⟩)
      · exact ⟨a, first ++ rest, rfl, .inl ⟨value, first, rest, rfl, hp, hnext⟩⟩
      · exact ⟨a, rest, rfl, .inr ⟨fault, rfl, hp⟩⟩

theorem goes_bind_ok {next : α → Procedure ε β} {value : β} :
    (p >>= next).Goes talk (.ok value) ↔
      ∃ v first rest, talk = first ++ rest ∧ p.Goes first (.ok v) ∧ (next v).Goes rest (.ok value) :=
  goes_bind.trans (or_iff_left fun ⟨_, hr, _⟩ => nomatch hr)

theorem ok_of_goes_logs {records : List LogRecord} {r : Except ε Unit} (h : (logs records).Goes talk r) :
    r = .ok () := by
  induction records generalizing talk with
  | nil => exact (goes_done.1 h).2
  | cons record records ih =>
    obtain ⟨_, _, -, h⟩ := goes_ask.1 h
    exact ih h

theorem goes_attempt {r : Except ε' (Except ε α)} :
    (p.attempt : Procedure ε' (Except ε α)).Goes talk r ↔ ∃ r', r = .ok r' ∧ p.Goes talk r' := by
  induction p generalizing talk with
  | done value =>
    constructor
    · rintro ⟨⟩
      exact ⟨_, rfl, .done value⟩
    · rintro ⟨_, rfl, ⟨⟩⟩
      exact .done _
  | fail fault =>
    constructor
    · rintro ⟨⟩
      exact ⟨_, rfl, .fail fault⟩
    · rintro ⟨_, rfl, ⟨⟩⟩
      exact .done _
  | ask q more ih =>
    simp only [attempt, goes_ask, ih]
    constructor
    · rintro ⟨a, rest, rfl, r', rfl, h⟩
      exact ⟨r', rfl, a, rest, rfl, h⟩
    · rintro ⟨r', rfl, a, rest, rfl, h⟩
      exact ⟨a, rest, rfl, r', rfl, h⟩

theorem goes_mapFault {f : ε → ε'} {r : Except ε' α} :
    (p.mapFault f).Goes talk r ↔ ∃ r', r = r'.mapError f ∧ p.Goes talk r' := by
  induction p generalizing talk with
  | done value =>
    constructor
    · rintro ⟨⟩
      exact ⟨_, rfl, .done value⟩
    · rintro ⟨_, rfl, ⟨⟩⟩
      exact .done value
  | fail fault =>
    constructor
    · rintro ⟨⟩
      exact ⟨_, rfl, .fail fault⟩
    · rintro ⟨_, rfl, ⟨⟩⟩
      exact .fail (f fault)
  | ask q more ih =>
    simp only [mapFault, goes_ask, ih]
    constructor
    · rintro ⟨a, rest, rfl, r', rfl, h⟩
      exact ⟨r', rfl, a, rest, rfl, h⟩
    · rintro ⟨r', rfl, a, rest, rfl, h⟩
      exact ⟨a, rest, rfl, r', rfl, h⟩

end Rules

end Procedure

end ContainerLaunch.Launch

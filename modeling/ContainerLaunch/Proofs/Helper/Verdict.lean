import ContainerLaunch.Helper.Order
/-!
# What the results of helper calls stand for

`counted` says what the result of a removal counts as, and `verdict` what a deciding result stands for, each
in terms of the result alone. `settleRemoval_eq_counted` and `classify_eq_verdict` say that the launch
takes results so, `succeeds_settle_iff` which results fulfil an order.
-/

namespace ContainerLaunch.Helper.Result

/-- The helper ran and ended well. -/
def Succeeds (r : Result) : Prop := r.startError = none ∧ r.exitCode = 0

/-- The helper ran and ended badly, and one of the markers stands in its output. -/
def FindsGone (r : Result) : Prop :=
  r.startError = none ∧ r.exitCode ≠ 0 ∧ ∃ marker ∈ goneMarkers, marker.toList <:+: r.output.toList

instance (r : Result) : Decidable r.Succeeds := inferInstanceAs (Decidable (_ ∧ _))

instance (r : Result) : Decidable r.FindsGone := inferInstanceAs (Decidable (_ ∧ _ ∧ _))

/-- What the result of a removal counts as: to find the container gone is a success. -/
def counted (r : Result) : Result :=
  if r.FindsGone then { exitCode := 0, output := r.output, startError := none } else r

/-- What the framework is told about a result: nothing if the helper did not run, or if all went well. -/
def diagnosis (containerId : String) (r : Result) : Option String :=
  if r.startError ≠ none ∨ r.exitCode = 0 then none
  else if r.exitCode = 137 ∨ r.exitCode = 143 then some (killText r.exitCode)
  else some (failureText containerId r)

/-- The class that a result stands for. -/
def verdictClass (r : Result) : ExitClass :=
  if r.startError ≠ none then .invocationFailure
  else if r.exitCode = 0 then .normal
  else if r.exitCode = 137 then .forcedKill
  else if r.exitCode = 143 then .requestedTermination
  else .invocationFailure

/-- What the framework is told about a result. -/
def verdict (containerId : String) (r : Result) : Outcome where
  exitCode := if r.startError = none then r.exitCode else -1
  exitClass := r.verdictClass
  diagnostics := r.diagnosis containerId

theorem occursIn_iff (part s : List Char) : occursIn part s = true ↔ part <:+: s := by
  induction s with
  | nil => simp [occursIn]
  | cons c s ih => rw [occursIn, Bool.or_eq_true, ih, List.isPrefixOf_iff_prefix, List.infix_cons_iff]

theorem started_iff (r : Result) : r.started = true ↔ r.startError = none := Option.isNone_iff_eq_none

theorem succeeded_iff (r : Result) : r.succeeded = true ↔ r.Succeeds := by
  rw [succeeded, Bool.and_eq_true, started_iff, beq_iff_eq, Succeeds]

theorem saysGone_iff (r : Result) : r.saysGone = true ↔ r.FindsGone := by
  simp only [saysGone, FindsGone, Bool.and_eq_true, started_iff, bne_iff_ne, List.any_eq_true,
    occursIn_iff, and_assoc]

theorem settleRemoval_eq_counted (r : Result) : r.settleRemoval = r.counted := by
  unfold settleRemoval counted
  simp only [saysGone_iff]

theorem succeeds_counted_iff (r : Result) : r.counted.Succeeds ↔ r.Succeeds ∨ r.FindsGone := by
  by_cases hr : r.FindsGone
  · rw [counted, if_pos hr]
    exact iff_of_true ⟨rfl, rfl⟩ (.inr hr)
  · rw [counted, if_neg hr]
    exact (or_iff_left hr).symm

theorem classify_eq_verdict (containerId : String) (r : Result) :
    (r.classify containerId).1 = r.verdict containerId := by
  obtain ⟨code, output, startError⟩ := r
  cases startError with
  | some message => simp [classify, verdict, verdictClass, diagnosis, ExitCode.startFailure]
  | none =>
    by_cases h0 : code = 0
    · simp [classify, verdict, verdictClass, diagnosis, ExitClass.ofCode, ExitCode.success, h0]
    · by_cases h137 : code = 137
      · subst h137
        rfl
      · by_cases h143 : code = 143
        · subst h143
          rfl
        · simp [classify, verdict, verdictClass, diagnosis, ExitClass.ofCode, ExitClass.isKill,
            ExitCode.success, ExitCode.forceKilled, ExitCode.terminated, h0, h137, h143]

end ContainerLaunch.Helper.Result

namespace ContainerLaunch.Helper.Order

/-- What was ordered is the case: the helper ended well, or there was nothing left to remove. -/
def FulfilledBy (o : Order) (r : Result) : Prop := r.Succeeds ∨ o.task = .remove ∧ r.FindsGone

instance (o : Order) (r : Result) : Decidable (o.FulfilledBy r) := inferInstanceAs (Decidable (_ ∨ _ ∧ _))

theorem succeeds_settle_iff (o : Order) (r : Result) : (o.settle r).Succeeds ↔ o.FulfilledBy r := by
  unfold settle FulfilledBy
  by_cases ho : o.task = .remove
  · simp only [ho, true_and]
    rw [Result.settleRemoval_eq_counted, Result.succeeds_counted_iff]
  · simp only [ho, false_and, or_false]

end ContainerLaunch.Helper.Order

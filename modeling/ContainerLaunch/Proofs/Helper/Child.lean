import ContainerLaunch.Helper.Child
/-!
# What a child comes to

`comesTo` says what a child comes to for the one who called for it, in terms of its script alone, and
`LeftInOrder` that a child is left in order. `result_run` and `leftInOrder_run` say that a call is run so.
-/

namespace ContainerLaunch.Helper

namespace ChildScript

/-- An error of the operating system or a bad value keeps the helper from starting, which is a result. Any other
error of the spawning, and any error of the waiting, is passed on. -/
def comesTo (child : ChildScript) : Except Failure Result :=
  match child.spawnFailure, child.waitFailure with
  | some f, _ =>
    if f.kind ∈ [.os, .notFound, .permission, .badValue] then
      .ok { exitCode := -1, output := "", startError := some f.message }
    else .error f
  | none, some f => .error f
  | none, none => .ok { exitCode := child.exitCode, output := child.output.getD "", startError := none }

/-- The context of a child that was spawned is closed once, last of all. The child is killed before that if and
only if waiting for it failed. -/
structure LeftInOrder (child : ChildScript) (steps : List ChildStep) : Prop where
  closed : child.spawnFailure = none →
    ∃ earlier, steps = earlier ++ [.closeContext child.waitFailure] ∧ ∀ f, .closeContext f ∉ earlier
  killed : .kill ∈ steps ↔ child.spawnFailure = none ∧ child.waitFailure ≠ none
  unspawned : child.spawnFailure ≠ none → steps = []

end ChildScript

theorem mem_refusals_iff (f : Failure) :
    f.kind ∈ [.os, .notFound, .permission, .badValue] ↔ f.isSpawnRefusal = true := by
  obtain ⟨kind, message⟩ := f
  cases kind <;> simp [Failure.isSpawnRefusal, Failure.isSystem]

namespace Call
variable (call : Call) (child : ChildScript)

theorem result_run : (call.run child).result = child.comesTo := by
  obtain ⟨spawnFailure, waitFailure, exitCode, output⟩ := child
  simp only [run, ChildScript.comesTo, mem_refusals_iff]
  cases spawnFailure with
  | none => cases waitFailure <;> rfl
  | some f => dsimp only; split <;> rfl

theorem steps_run_of_unspawned (h : child.spawnFailure ≠ none) : (call.run child).steps = [] := by
  obtain ⟨f, hf⟩ := Option.ne_none_iff_exists'.1 h
  simp only [run, hf]
  split <;> rfl

theorem steps_run_of_spawned (h : child.spawnFailure = none) :
    (call.run child).steps =
      [.openContext, .wait] ++ child.waitFailure.toList.map (fun _ => .kill) ++ [.closeContext child.waitFailure] := by
  simp only [run, h]
  cases child.waitFailure <;> rfl

theorem leftInOrder_run : child.LeftInOrder (call.run child).steps := by
  by_cases hspawn : child.spawnFailure = none
  · rw [steps_run_of_spawned call child hspawn]
    refine ⟨fun _ => ⟨_, rfl, fun f hf => ?_⟩, ?_, fun h => (h hspawn).elim⟩
    · simp at hf
    · cases child.waitFailure <;> simp [hspawn]
  · rw [steps_run_of_unspawned call child hspawn]
    exact ⟨fun h => (hspawn h).elim, by simp [hspawn], fun _ => rfl⟩

end Call

end ContainerLaunch.Helper

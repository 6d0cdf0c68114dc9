import ContainerLaunch.Proofs.Launch.Law
import ContainerLaunch.Rehearsal.Launch
/-!
# Launches that fail in silence

A launch that comes to -1 without any diagnostics has met a helper that could not be started. Nothing in the
outcome says at which call: the container may have been created by then, and its workload may even have run to
its end. `silent_launch_iff` says when that is so.
-/

namespace ContainerLaunch

/-- The framework is told that the helper could not be started, and nothing else. -/
def Outcome.Silent (o : Outcome) : Prop := o.exitCode = -1 ∧ o.diagnostics = none

namespace Helper.Result

/-- The helper could not be started. -/
def Unstarted (r : Result) : Prop := r.startError ≠ none

theorem Unstarted.not_succeeds {r : Result} (h : r.Unstarted) : ¬ r.Succeeds := fun hs => h hs.1

theorem silent_verdict_iff (containerId : String) (r : Result) :
    (r.verdict containerId).Silent ↔ r.Unstarted := by
  obtain ⟨code, output, startError⟩ := r
  cases startError with
  | some message => simp [Outcome.Silent, verdict, diagnosis, Unstarted]
  | none =>
    simp only [Outcome.Silent, verdict, diagnosis, Unstarted, ne_eq, not_true_eq_false, iff_false, if_true]
    -- A call that ran and came to -1 is reported like every other failure.
    rintro ⟨rfl, hd⟩
    cases hd

theorem unstarted_counted_iff (r : Result) : r.counted.Unstarted ↔ r.Unstarted := by
  unfold counted
  split
  · next hgone => exact iff_of_false (fun h => h rfl) fun h => h hgone.1
  · exact Iff.rfl

end Helper.Result

namespace Launch

open Helper (Task Result)
open Procedure

theorem unstarted_deciding_iff (started removed : Result) :
    (deciding started removed).Unstarted ↔ started.Unstarted ∨ started.Succeeds ∧ removed.Unstarted := by
  rw [deciding_eq]
  split
  · next h =>
    refine ⟨.inl, fun hu => hu.resolve_right fun ⟨hs, hu⟩ => ?_⟩
    rcases h with h | h
    · exact h hs
    · exact hu.not_succeeds h
  · next h =>
    have hs : started.Succeeds := Decidable.of_not_not fun hs => h (.inl hs)
    exact ⟨fun hu => .inr ⟨hs, hu⟩, fun hu => (hu.resolve_left fun hu => hu.not_succeeds hs).2⟩

/-! ## Calls -/

/-- The helper was called for a task. -/
def Called (task : Task) (asked : List Question) : Prop := ∃ o, .invoke o ∈ asked ∧ o.task = task

namespace Answers

/-- The helper was called for the container to be created, and created it. -/
def Created (a : Answers) (asked : List Question) : Prop :=
  Called .create asked ∧ (a.results .create).Succeeds

/-- The helper was called for a task and could not be started. -/
def Stuck (a : Answers) (task : Task) (asked : List Question) : Prop :=
  Called task asked ∧ (a.results task).Unstarted

end Answers

section Law
variable {setup : Helper.Setup} {r : Request} {plan : Plan} {results : Task → Result} {task : Task}

theorem not_called_askedIn_inactive : ¬ Called task (askedIn setup r plan false results) := by
  rintro ⟨o, ho, -⟩
  cases List.mem_singleton.1 ho

theorem called_askedIn_iff : Called task (askedIn setup r plan true results) ↔ task ∈ tasks results := by
  constructor
  · rintro ⟨o, ho, rfl⟩
    rcases List.mem_cons.1 ho with ho | ho
    · cases ho
    · rcases List.mem_append.1 ho with ho | ho
      · obtain ⟨task, htask, ho⟩ := List.mem_map.1 ho
        cases ho
        exact htask
      · obtain ⟨message, -, ho⟩ := List.mem_map.1 ho
        cases ho
  · intro htask
    exact ⟨_, List.mem_cons_of_mem _ (List.mem_append_left _ (List.mem_map_of_mem htask)), rfl⟩

theorem mem_tasks_of_created (hc : (results .create).Succeeds) (ht : task ≠ .run) : task ∈ tasks results := by
  rw [tasks, if_pos hc]
  cases task <;> simp_all

theorem mem_tasks_iff_of_not_created (hc : ¬ (results .create).Succeeds) :
    task ∈ tasks results ↔ task = .create := by
  rw [tasks, if_neg hc, List.mem_singleton]

end Law

/-- The launch fails in silence after its container was created if and only if the start could not be called
for, or went well and the removal could not be called for; and it does so without having created one if and only
if that could not be called for. -/
theorem silent_launch_iff (a : Answers) (client : Client) (origin : Watch.Origin) (s : Settings) (r : Request) :
    let (result, asked) := a.transcript (Pipeline.launch ⟨client, .createStart, origin⟩ s r)
    ((∃ outcome, result = .ok outcome ∧ outcome.Silent) ∧ a.Created asked ↔
      a.Stuck .start asked ∨ (a.results .start).Succeeds ∧ a.Stuck .remove asked) ∧
    ((∃ outcome, result = .ok outcome ∧ outcome.Silent) ∧ ¬ a.Created asked ↔ a.Stuck .create asked) := by
  have hlaw : a.transcript (Pipeline.launch ⟨client, .createStart, origin⟩ s r) = law client s r a.active a.results :=
    (Answers.transcript_of_assures (a.assures_launch client origin s r)).1
  rw [hlaw, law]
  cases fault? r.imageReference with
  | some e => simp [Answers.Created, Answers.Stuck, Called]
  | none =>
    simp only [Except.ok.injEq, exists_eq_left']
    cases a.active with
    | false =>
      have hsilent : ¬ (outcomeOf r false a.results).Silent := by
        simp [outcomeOf, Outcome.Silent]
      simp [Answers.Created, Answers.Stuck, not_called_askedIn_inactive, hsilent]
    | true =>
      have hsilent : (outcomeOf r true a.results).Silent ↔ (decisive a.results).Unstarted :=
        Result.silent_verdict_iff _ _
      simp only [Answers.Created, Answers.Stuck, called_askedIn_iff, hsilent]
      by_cases hc : (a.results .create).Succeeds
      · have hu := mt Result.Unstarted.not_succeeds (not_not_intro hc)
        rw [decisive_of_created hc, unstarted_deciding_iff, Result.unstarted_counted_iff]
        simp [mem_tasks_of_created hc, hc, hu]
      · rw [decisive_of_not_created hc]
        simp [mem_tasks_iff_of_not_created hc, hc]

/-! ## Silence after the container was created -/

/-- The helper does well until it is called for a task. -/
def stuckAt (task : Task) : Rehearsal.Outside where
  calls := fun other => [{ answer := .ok (if other = task then .failedToStart "no helper" else {}) }]

/-- A launch whose helper cannot be started any more once the container was created, or after the whole workload
has run, says no more than one that has not created anything. -/
theorem silent_launch_created :
    let r : Request := { (default : Request) with imageReference := some "i" }
    let run (task : Task) := Rehearsal.Scene.run { outside := stuckAt task }
      (Pipeline.launch ⟨.docker, .createStart, .nowhere⟩ default r)
    let silent : Outcome := { exitCode := -1, exitClass := .invocationFailure, diagnostics := none }
    ((run .start).1 = .ok silent ∧ (run .start).2.transcript.orders.map (·.task) = [.create, .start, .remove]) ∧
    ((run .remove).1 = .ok silent ∧ (run .remove).2.transcript.orders.map (·.task) = [.create, .start, .remove]) ∧
    ((run .create).1 = .ok silent ∧ (run .create).2.transcript.orders.map (·.task) = [.create]) ∧
    ((stuckAt .start).call .create).answer = .ok {} ∧ ((stuckAt .remove).call .start).answer = .ok {} ∧
    Result.Succeeds {} :=
  ⟨⟨rfl, rfl⟩, ⟨rfl, rfl⟩, ⟨rfl, rfl⟩, rfl, rfl, rfl, rfl⟩

end Launch

end ContainerLaunch

import ContainerLaunch.Proofs.Launch.Race
/-!
# Watchers do no harm

Whatever creating and starting come to, and however the turns of the watchers fall, a launch gets the result
and has the outcome that it has when nobody acts beside it. A removal that comes second finds the container
gone, and that counts as success for the launch and for a watcher alike.
-/

namespace ContainerLaunch.Launch

open Cleanup
open Helper (Task Result)
open Procedure
open Relation (ReflTransGen)

variable {ε α : Type}

namespace Circumstances

/-- The results of a launch that nobody acts beside. -/
def results (c : Circumstances) : Task → Result
  | .create => c.created
  | .start => c.started
  | _ => { exitCode := 0 }

variable {c : Circumstances}

theorem attentive_surroundings (c : Circumstances) : c.surroundings.Attentive c.active where
  log := fun ⟨_, _, h⟩ => congrArg Shared.daemon h.2
  act := fun ⟨_, _, h⟩ => congrArg Shared.daemon h.2
  subscribe := by
    rintro d url containerId removal a d' ⟨roster, roster', h, hs⟩
    refine ⟨congrArg Shared.daemon hs, fun f hf => ?_⟩
    rcases h with ⟨source, rfl⟩ | ⟨f', rfl, hf'⟩
    · cases hf
    · cases hf
      exact hf'
  spawn := fun ⟨_, _, h⟩ => ⟨congrArg Shared.daemon h.2, h.1⟩
  isActive := fun ⟨_, _, h⟩ => ⟨h.1, congrArg Shared.daemon h.2⟩
  report := fun ⟨_, _, h⟩ => ⟨h.1, congrArg Shared.daemon h.2⟩

theorem deciding_of_succeeds {started removed : Result} (hr : removed.Succeeds) :
    deciding started removed = started := by
  rw [deciding_eq, if_pos (.inr hr)]

theorem carries_of_answers {o : Helper.Order} {P : Result → Daemon → Prop} {x : Daemon}
    (h : ∀ y, ReflTransGen Daemon.Slips x y → ∀ r z, y.Answers c o.task r z → P r z) :
    c.surroundings.Carries o P x := by
  intro y hy a z ha
  obtain ⟨_, _, r, rfl, hr, -⟩ := ha
  exact ⟨r, rfl, h y hy r z hr⟩

/-- The calls of a launch go by its law although others remove the container: created, it is there until it
is removed, by whomever. -/
theorem callsGoByLaw_surroundings (c : Circumstances) (setup : Helper.Setup) (r : Request) (plan : Plan) :
    CallsGoByLaw c.surroundings setup r plan c.results Daemon.Clear {} := by
  refine callsGoByLaw_of_carries Daemon.Once Daemon.Once (carries_of_answers ?_) (fun x hx => ?_) fun x hx => ?_
  · intro y hy created z hz
    obtain rfl := Daemon.eq_of_slips_absent hy
    cases hz
    refine ⟨rfl, fun hc => ?_, fun hc => ?_⟩
    · rw [if_pos hc]
      rfl
    · rw [if_neg hc]
      exact fun w => Daemon.clear_of_slips
  · refine carries_of_answers fun y hy started z hz => ?_
    cases hz
    exact ⟨rfl, Daemon.once_of_slips hy hx⟩
  · refine carries_of_answers fun y hy removed z hz => ?_
    obtain ⟨hr, rfl⟩ := hz.remove_once (Daemon.once_of_slips hy hx)
    have hr' : (c.results .remove).counted.Succeeds := ⟨rfl, rfl⟩
    refine ⟨?_, fun w hw => ?_⟩
    · rw [deciding_of_succeeds hr, deciding_of_succeeds hr']
    · obtain rfl := Daemon.eq_of_slips_absent hw
      exact ⟨rfl, Nat.le_refl 1⟩

/-- What a launch is told that nobody acts beside. -/
def alone (c : Circumstances) : Answers where
  active := c.active
  results := c.results
  aside := fun _ q => match q with
    | .log _ => ()
    | .probe .. => .answered
    | .isActive _ => .ok c.active
    | .invoke o => .ok (c.results o.task)
    | .report .. => .ok ()
    | .subscribe .. => .ok {}
    | .spawn _ => .ok ()
    | .act a => (Roster.perform {} a).reply
  ordinary := fun _ _ _ _ f hf => by cases hf
  listens := fun _ _ => rfl

end Circumstances

end ContainerLaunch.Launch

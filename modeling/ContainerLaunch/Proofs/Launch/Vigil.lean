import ContainerLaunch.Proofs.Cleanup.History
import ContainerLaunch.Proofs.Launch.Asking
import ContainerLaunch.Proofs.Launch.Run
/-!
# A watcher and those who handle notices for it

Any number of notices are handled at once, each by `Watch.handle`. In between others record a removal of
their own, close the watcher, or act on the rest of the roster. `Turn` is one step of a handling; to call
the helper and to be answered are two. `Step` is a step of anyone.
-/

namespace ContainerLaunch.Launch

open Cleanup
open Lifecycle (Notice)
open Procedure
open Relation (ReflTransGen)

/-! ## What is left of a handling -/

namespace Watch

/-- A removal that is under way, and what comes of it. -/
def conclusion (t : Ticket) (remove : Removal) : Procedure Failure Unit := do
  match interrupt? (← conclude t remove) with
  | some f => .fail f
  | none => return ()

/-- How a handling ends whose removal has ended. Only interrupts get out. -/
def verdict (answer : Except Failure Helper.Result) : Except Failure Unit :=
  match interrupt? answer with
  | some f => .error f
  | none => .ok ()

theorem handle_eq (t : Ticket) (n : Notice) (remove : Removal) :
    handle t n remove =
      .ask (.act (.observe t n)) fun begun => bif begun then conclusion t remove else .done () := by
  refine congrArg (Procedure.ask _) (funext fun begun => ?_)
  change Bool at begun
  cases begun <;> rfl

theorem conclusion_fail (t : Ticket) (f : Failure) :
    conclusion t (.fail f) = .ask (.act (.settle t (.error f))) fun _ => ofExcept (verdict (.error f)) := by
  refine congrArg (Procedure.ask _) (funext fun _ => ?_)
  show (match interrupt? (.error f) with
    | some f => (.fail f : Procedure Failure Unit)
    | none => .done ()) = ofExcept (verdict (.error f))
  unfold verdict
  cases interrupt? (.error f) <;> rfl

theorem not_isOrdinary_of_verdict {answer : Except Failure Helper.Result} {f : Failure}
    (h : verdict answer = .error f) : ¬ f.isOrdinary := by
  rcases answer with f' | r
  · by_cases hf : f'.isOrdinary
    · simp [verdict, interrupt?, hf] at h
    · have hv : verdict (.error f') = .error f' := by simp [verdict, interrupt?, hf]
      obtain rfl := Except.error.inj (hv.symm.trans h)
      exact hf
  · cases h

end Watch

/-! ## Steps -/

/-- One call of `Watch.handle`, and whether its own call to the helper is out. -/
structure Handling where
  notice : Notice
  rest : Procedure Failure Unit
  out : Bool := false

/-- A watcher on its roster, those who handle notices for it, and what has happened so far. -/
structure Vigil where
  roster : Roster
  handlings : List Handling := []
  history : List Event := []

/-- What an action of `who` is for the watcher. When a removal ends, the event does not say what is settled: that has
to be what the helper answered. -/
def eventsOf (t : Ticket) (who : Nat) : (a : Roster.Action) → a.Reply → List Event
  | .markRemoved t', _ => if t' = t then [.marked] else []
  | .observe t' n, begun => if t' = t then [.taken who n begun] else []
  | .settle t' _, _ => if t' = t then [.ended who] else []
  | _, _ => []

namespace Vigil

/-- A watcher that was just taken up. -/
def start (r : Roster) (containerId : String) (source : Source) : Vigil where
  roster := r.enrol { containerId, source }

/-- What the watcher says of its container. -/
def removed (v : Vigil) (t : Ticket) : Bool := v.roster.holdsOf t (·.removed)

/-- Whether an action can be done now: taking a notice in may have to wait for the lock. -/
def Free (v : Vigil) : Roster.Action → Prop
  | .observe t n => v.roster.holdsOf t (·.awaitsLock n) = false
  | _ => True

/-- The `i`-th handling goes on. -/
def advance (v : Vigil) (i : Nat) (h : Handling) (rest : Procedure Failure Unit) (out : Bool := false) :
    Vigil :=
  { v with handlings := v.handlings.set i { h with rest, out } }

/-- A step of the `i`-th handling. To call the helper and to be answered are two, and the answer may be any. -/
inductive Turn (t : Ticket) (i : Nat) (v : Vigil) : Vigil → Prop where
  | log {h record next} (hi : v.handlings[i]? = some h) (hr : h.rest = .ask (.log record) next) :
    Turn t i v (v.advance i h (next ()))
  | act {h a next} (hi : v.handlings[i]? = some h) (hr : h.rest = .ask (.act a) next) (hf : v.Free a) :
    Turn t i v
      { v.advance i h (next (v.roster.perform a).reply) with
        roster := (v.roster.perform a).roster
        history := eventsOf t i a (v.roster.perform a).reply ++ v.history }
  | call {h o next} (hi : v.handlings[i]? = some h) (hr : h.rest = .ask (.invoke o) next)
    (ho : h.out = false) :
    Turn t i v { v.advance i h h.rest true with history := .called i o :: v.history }
  | answer {h o next} (hi : v.handlings[i]? = some h) (hr : h.rest = .ask (.invoke o) next)
    (ho : h.out = true) (a : Except Failure Helper.Result) :
    Turn t i v { v.advance i h (next a) with history := .answered i a :: v.history }

/-- A step of anyone: a notice arrives and its handling begins, someone records a removal, the watcher is closed or
something else is done on the roster, or a handling takes a turn. -/
inductive Step (t : Ticket) (remove : Removal) (v : Vigil) : Vigil → Prop where
  | tell (n : Notice) :
    Step t remove v { v with handlings := v.handlings ++ [⟨n, Watch.handle t n remove, false⟩] }
  | mark :
    Step t remove v
      { v with roster := (v.roster.perform (.markRemoved t)).roster, history := .marked :: v.history }
  | aside {a : Roster.Action} (ha : a.LeavesAlone t) :
    Step t remove v { v with roster := (v.roster.perform a).roster }
  | turn {i : Nat} {v' : Vigil} (h : Turn t i v v') : Step t remove v v'

/-- Any number of steps. -/
abbrev Runs (t : Ticket) (remove : Removal) : Vigil → Vigil → Prop := ReflTransGen (Step t remove)

end Vigil

end ContainerLaunch.Launch

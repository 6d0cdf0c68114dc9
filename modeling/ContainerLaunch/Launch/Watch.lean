import ContainerLaunch.Launch.Procedure
import ContainerLaunch.Lifecycle.Feed
/-!
# Watching a launch

The procedures by which a launch gets a watcher and lets it go, and those by which a watcher reacts to
what it hears. Removals are given as procedures: a watcher does not know how its container is removed.
-/

namespace ContainerLaunch.Launch

open Cleanup
open Lifecycle (Notice Feed)
open Procedure (act logs question ofExcept)

variable {ε : Type}

/-- How a container is removed. -/
abbrev Removal := Procedure Failure Helper.Result

/-- Carries an order out. -/
def carryOut (o : Helper.Order) : Procedure Failure Helper.Result := do
  logs o.callLog
  let r ← ofExcept (← question (.invoke o))
  logs (o.resultLog r)
  return o.settle r

namespace Watch

/-! ## Reactions -/

/-- Does a removal that has begun. -/
def conclude (t : Ticket) (remove : Removal) : Procedure ε (Except Failure Helper.Result) := do
  let answer ← remove.attempt
  act (.settle t answer)
  return answer

/-- The interrupt that a removal ended with. -/
def interrupt? : Except Failure Helper.Result → Option Failure
  | .ok _ => none
  | .error f => if f.isOrdinary then none else some f

/-- Takes a notice in, with the removal that it may ask for. Only an interrupt gets out. -/
def handle (t : Ticket) (n : Notice) (remove : Removal) : Procedure Failure Unit := do
  let begun : Bool ← act (.observe t n)
  if begun then
    match interrupt? (← conclude t remove) with
    | some f => .fail f
    | none => return ()

/-- What the listener does about a signal. An interrupt ends the listener; nothing gets out. -/
def hear (t : Ticket) (s : Signal) (remove : Removal) : Procedure ε Unit := do
  match ← act (.hear t s) with
  | none => return ()
  | some (n : Notice) =>
    match ← (handle t n remove).attempt with
    | .ok () => return ()
    | .error (_ : Failure) => act (.leave t)

/-! ## Getting a watcher and letting it go -/

/-- Puts a watcher in charge of its container and closes the one that was. -/
def register (t : Ticket) : Procedure ε Unit := do
  match ← act (.register t) with
  | some (displaced : Ticket) => act (.close displaced)
  | none => return ()

/-- Where a launch gets its notices from: nowhere, from a source that was given to the launcher, or
from the daemon's own events. -/
inductive Origin where
  | nowhere | given | daemon
  deriving DecidableEq, Repr, Inhabited

/-- Why no notices are to be had from a daemon URL. -/
def Origin.refusal? (origin : Origin) (url containerId : String) : Option String :=
  match origin, Feed.ofUrl url containerId with
  | .daemon, .error e => some e.message
  | _, _ => none

/-- The line about a launch that goes on unwatched. -/
def unwatchedLog (containerId message : String) : List LogRecord :=
  [.warning .course
    ("Could not subscribe to daemon events for " ++ containerId ++ ": " ++ message)]

/-- Has the listener of a watcher started. If there is no thread to be had for it, it is over before it has begun,
and the launch breaks off. -/
def listen (t : Ticket) (containerId : String) : Procedure Failure Unit := do
  match ← question (.spawn containerId) with
  | .ok () => act (.start t)
  | .error (f : Failure) =>
    act (.leave t)
    .fail f

/-- Starts watching with a source. A watcher whose listener cannot be started stays in charge. -/
def begin (containerId : String) (source : Source) : Procedure Failure Ticket := do
  let t : Ticket ← act (.enrol containerId source)
  register t
  listen t containerId
  return t

/-- Subscribes to the notices about a container. A launch goes on without a watcher if there are none
to be had. -/
def subscribe (origin : Origin) (url : String) (removal : Helper.Order) :
    Procedure Failure (Option Ticket) := do
  let containerId := removal.containerId
  if origin = .nowhere then return none
  match origin.refusal? url containerId with
  | some message =>
    logs (unwatchedLog containerId message)
    return none
  | none =>
    match ← question (.subscribe url containerId removal) with
    | .ok (source : Source) => return some (← begin containerId source)
    | .error (f : Failure) =>
      if f.isOrdinary then
        logs (unwatchedLog containerId f.message)
        return none
      else .fail f

/-- Records that the launch itself removed the container. -/
def markRemoved : Option Ticket → Procedure ε Unit
  | none => return ()
  | some t => act (.markRemoved t)

/-- Lets the watcher of a container go. -/
def release (containerId : String) : Option Ticket → Procedure ε Unit
  | none => return ()
  | some t => do
    let _ ← act (.deregister containerId)
    act (.close t)

end Watch

end ContainerLaunch.Launch

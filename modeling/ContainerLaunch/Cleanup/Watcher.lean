import ContainerLaunch.Helper.Result
import ContainerLaunch.Lifecycle.Notice
/-!
# Watchers

A watcher follows the notices about one container during its launch, and has the container removed
when it is left behind stopped. It never touches the launch itself: a removal that comes too late finds
the container gone, and that counts as success.

The listener first hears a signal and then, unless the watcher was told to stop, takes the notice in.
A removal begins with `observe`, which takes the lock and finds the container not yet removed, and ends
with `settle`, which gives the lock back. Other steps may fall between all of these, in particular
`markRemoved`, which needs no lock. A failed removal is logged and leaves the watcher ready for the
next notice.
-/

namespace ContainerLaunch.Cleanup

open Lifecycle (Notice)

/-- Where the listener of a watcher stands. It is started at most once. -/
inductive Listener where
  | idle | listening | ended
  deriving DecidableEq, Repr, Inhabited

/-- What a watcher's source brings. -/
inductive Signal where
  | notice (n : Notice)
  | ended
  | failed (message : String)
  deriving DecidableEq, Repr

/-- The source of a watcher: what goes wrong when it is closed, and how often it was closed. -/
structure Source where
  closeFailure : Option String := none
  closes : Nat := 0
  deriving DecidableEq, Repr, Inhabited

/-- A watcher. `removing` says that its lock is taken: a removal is under way. -/
structure Watcher where
  containerId : String
  source : Source := {}
  removed : Bool := false
  stopping : Bool := false
  removing : Bool := false
  listener : Listener := .idle
  deriving DecidableEq, Repr, Inhabited

namespace Watcher

/-- The name of the listener, once it was started. -/
def listenerName? (w : Watcher) : Option String :=
  if w.listener = .idle then none else some ("docker-events-" ++ w.containerId)

/-- Whether the listener is at work. -/
def isListening (w : Watcher) : Bool := w.listener == .listening

/-! ## The life of the listener -/

/-- Starts the listener, unless it was started before. -/
def start (w : Watcher) : Watcher :=
  if w.listener = .idle then { w with listener := .listening } else w

/-- What is logged about a start. -/
def startLog (w : Watcher) : List LogRecord :=
  if w.listener = .idle then [.info .watch ("Watching daemon events for " ++ w.containerId)] else []

/-- Tells the listener to stop and closes the source. The listener notices this with its next signal;
nobody waits for it here. -/
def close (w : Watcher) : Watcher :=
  { w with stopping := true, source := { w.source with closes := w.source.closes + 1 } }

/-- What is logged about a close: a source that cannot be closed is no reason to stop. -/
def closeLog (w : Watcher) : List LogRecord :=
  (w.source.closeFailure.toList.map fun message =>
    .warning .watch
      ("Failed to close event stream for " ++ w.containerId ++ ": " ++ message)) ++
    [.info .watch ("Stopped watching daemon events for " ++ w.containerId)]

/-- The listener is over. -/
def leave (w : Watcher) : Watcher := { w with listener := .ended }

/-! ## Removals -/

/-- Records a removal by someone else. -/
def markRemoved (w : Watcher) : Watcher := { w with removed := true }

/-- Whether a notice asks for the removal of this watcher's container. -/
def isCalledBy (w : Watcher) (n : Notice) : Bool :=
  n.containerId == w.containerId && n.change.leavesStopped

/-- Whether taking in a notice has to wait for the lock. -/
def awaitsLock (w : Watcher) (n : Notice) : Bool := w.removing && w.isCalledBy n

/-- Whether a notice, taken in while the lock is free, begins a removal. -/
def begins (w : Watcher) (n : Notice) : Bool := w.isCalledBy n && !w.removed

/-- Takes a notice in; a removal that it begins takes the lock. Notices about other containers change
nothing. -/
def observe (w : Watcher) (n : Notice) : Watcher :=
  if w.begins n then { w with removing := true }
  else if n.containerId = w.containerId ∧ n.change = .removed then w.markRemoved
  else w

/-- Takes in what a removal came to. -/
def settle (w : Watcher) (answer : Except Failure Helper.Result) : Watcher :=
  let w := { w with removing := false }
  match answer with
  | .ok r => if r.succeeded then w.markRemoved else w
  | .error _ => w

/-- What is logged about a removal. An interrupt is passed on in silence. -/
def settleLog (w : Watcher) (answer : Except Failure Helper.Result) : List LogRecord :=
  match answer with
  | .ok r =>
    if r.succeeded then [.info .watch ("Removed stopped container " ++ w.containerId)]
    else
      [.warning .watch
        ("Event-driven remove of " ++ w.containerId ++ " exited with " ++ toString r.exitCode ++
          ": " ++ r.output)]
  | .error f =>
    if f.isOrdinary then
      [.warning .watch ("Event-driven remove of " ++ w.containerId ++ " failed: " ++ f.message)]
    else []

/-! ## Signals -/

/-- The notice that the listener takes in: only before the watcher was told to stop. -/
def accepted? (w : Watcher) (s : Signal) : Option Notice :=
  match s with
  | .notice n => if w.isListening && !w.stopping then some n else none
  | _ => none

/-- The listener hears a signal. Unless it takes a notice in, this was the last one: the source has
ended, or the watcher was told to stop. -/
def hear (w : Watcher) (s : Signal) : Watcher :=
  if w.isListening && (w.accepted? s).isNone then w.leave else w

/-- What is logged about a signal: only that the source failed although nobody closed it. -/
def hearLog (w : Watcher) (s : Signal) : List LogRecord :=
  match s with
  | .failed message =>
    if w.isListening && !w.stopping then
      [.warning .watch ("Event stream for " ++ w.containerId ++ " ended: " ++ message)]
    else []
  | _ => []

end Watcher

end ContainerLaunch.Cleanup

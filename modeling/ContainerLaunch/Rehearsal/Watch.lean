import ContainerLaunch.Rehearsal.Launch
/-!
# Rehearsing watchers

Watchers on a roster, taken through steps one by one. Each watcher has a scripted source and scripted
removals; in the middle of a removal the container may be marked as removed, or the watcher closed.
After each step every listener has seen what there was for it to see.
-/

namespace ContainerLaunch.Rehearsal

open Cleanup Launch
open Lifecycle (Notice)

/-- How a removal goes. -/
structure RemovalScript where
  answer : Except Failure Helper.Result := .ok {}
  marks : Bool := false
  closes : Bool := false

/-- A watcher's part: its source, whether that has ended by itself, its removals, and how many of them
were asked for. -/
structure Part where
  source : SourceScript := {}
  finished : Bool := false
  removals : List RemovalScript := []
  asked : Nat := 0

/-- Where a rehearsal of watchers stands; the parts are in the order of the tickets. -/
structure WatchScene where
  roster : Roster := {}
  parts : List Part := []
  logs : List LogRecord := []

/-- A step of one watcher. -/
inductive WatchStep where
  | handle (n : Notice)
  | markRemoved
  | start
  | close
  | finish
  | deliver (signals : List Signal)

namespace WatchScene

/-- Takes a watcher up. -/
def enrol (s : WatchScene) (containerId : String) (part : Part) : WatchScene :=
  { s with
    roster := s.roster.enrol { containerId, source := { closeFailure := part.source.closeFailure } }
    parts := s.parts ++ [part] }

/-- Acts on the roster. -/
def act (a : Roster.Action) : StateM WatchScene a.Reply := do
  let done := (← get).roster.perform a
  modify fun s => { s with roster := done.roster, logs := s.logs ++ done.logs }
  return done.reply

/-- Takes the script of a watcher's next removal; without one it succeeds. -/
def nextRemoval (t : Ticket) : StateM WatchScene RemovalScript := do
  let removals := (((← get).parts[t]?).map (·.removals)).getD []
  modify fun s =>
    { s with
      parts := s.parts.modify t fun part =>
        { part with removals := part.removals.drop 1, asked := part.asked + 1 } }
  return removals.head?.getD {}

/-- Answers the questions of a watcher. Beyond removals it asks nothing of the outside. -/
def answer (t : Ticket) : (q : Question) → StateM WatchScene q.Answer
  | .log record => modify fun s => { s with logs := s.logs ++ [record] }
  | .act a => act a
  | .invoke _ => do
    let script ← nextRemoval t
    if script.marks then act (.markRemoved t)
    if script.closes then act (.close t)
    return script.answer
  | .probe .. => return .answered
  | .isActive _ => return .ok true
  | .report .. => return .ok ()
  | .subscribe .. => return .ok {}
  | .spawn _ => return .ok ()

/-- Runs a procedure of a watcher. -/
def perform {ε α : Type} (t : Ticket) (p : Procedure ε α) : StateM WatchScene (Except ε α) :=
  p.run (answer t)

/-- How the watchers of a scene remove their containers. -/
def removal : Removal := do Procedure.ofExcept (← Procedure.question (.invoke default))

/-- A listener hears a signal. -/
def hear (t : Ticket) (signal : Signal) : StateM WatchScene Unit := do
  let _ ← perform t (Watch.hear t signal removal : Procedure Empty Unit)

/-- What is there for a listener without any delivery. -/
def standing (w : Watcher) (part : Part) : List Signal :=
  if w.stopping then part.source.lastSignals
  else match part.source.failsAtOnce with
    | some message => [.failed message]
    | none => if part.finished then [.ended] else []

/-- Lets a listener see what is there for it. -/
def wake (t : Ticket) : StateM WatchScene Unit := do
  let s ← get
  match s.roster.watcher? t, s.parts[t]? with
  | some w, some part => (standing w part).forM (hear t)
  | _, _ => return ()

/-- Lets every listener see what is there for it. -/
def wakeAll : StateM WatchScene Unit := do
  (List.range (← get).parts.length).forM wake

/-- Does a step of a watcher. Only handling a notice can be broken off. -/
def step (t : Ticket) (step : WatchStep) : StateM WatchScene (Except Failure Unit) := do
  let result ← match step with
    | .handle n => perform t (Watch.handle t n removal)
    | .markRemoved => do act (.markRemoved t); pure (.ok ())
    | .start => do act (.start t); pure (.ok ())
    | .close => do act (.close t); pure (.ok ())
    | .finish => do
      modify fun s => { s with parts := s.parts.modify t fun part => { part with finished := true } }
      pure (.ok ())
    | .deliver signals => do signals.forM (hear t); pure (.ok ())
  wakeAll
  return result

/-- Puts a watcher in charge. -/
def register (t : Ticket) : StateM WatchScene Unit := do
  let _ ← perform t (Watch.register t : Procedure Empty Unit)
  wakeAll

end WatchScene

end ContainerLaunch.Rehearsal

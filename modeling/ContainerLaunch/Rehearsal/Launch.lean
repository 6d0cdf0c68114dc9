import ContainerLaunch.Launch.Launcher
/-!
# Rehearsing a launch

A procedure can be run against an outside that follows a script. The script says how each kind of
question is answered: the answers to the orders for one task are used up in turn, and the last one
repeats. While the helper works on an order of the launch, signals may reach the launch's watcher; its
listener has dealt with each of them before the call comes back. What was asked is kept in a
transcript.
-/

namespace ContainerLaunch.Rehearsal

open Cleanup Launch

/-- How a source behaves: it may fail to close, fail as soon as it is listened to, and it has last
signals for a listener that finds it closed. -/
structure SourceScript where
  closeFailure : Option String := none
  failsAtOnce : Option String := none
  lastSignals : List Signal := [.ended]
  deriving DecidableEq, Repr

/-- An answer of the helper, and the signals that come while it works. -/
structure CallScript where
  answer : Except Failure Helper.Result := .ok {}
  signals : List Signal := []

/-- The script of an outside. -/
structure Outside where
  probe : Client.ProbeAnswer := .answered
  active : Except Failure Bool := .ok true
  report : Except Failure Unit := .ok ()
  calls : Helper.Task → List CallScript := fun _ => []
  sources : List (Except Failure SourceScript) := []

namespace Outside

/-- The answer to an order for a task. Without any answers the helper succeeds. -/
def call (o : Outside) (task : Helper.Task) : CallScript := (o.calls task).head?.getD {}

/-- The outside after it has answered an order for a task. -/
def afterCall (o : Outside) (task : Helper.Task) : Outside :=
  { o with
    calls := fun other =>
      match o.calls other with
      | answer :: next :: rest => if other = task then next :: rest else answer :: next :: rest
      | answers => answers }

/-- The answer to a subscription. -/
def source (o : Outside) : Except Failure SourceScript := o.sources.head?.getD (.ok {})

end Outside

/-- A subscription that was asked for; it has a ticket unless it failed. -/
structure Subscription where
  url : String
  containerId : String
  ticket? : Option Ticket
  deriving DecidableEq, Repr

/-- What was asked. -/
structure Transcript where
  probes : List (Client × String) := []
  liveness : List String := []
  orders : List Helper.Order := []
  reports : List (String × String) := []
  subscriptions : List Subscription := []
  logs : List LogRecord := []
  deriving DecidableEq, Repr

/-- The watcher of the launch that is under way. -/
structure Watched where
  script : SourceScript
  removal : Helper.Order
  ticket : Ticket
  deriving DecidableEq, Repr

/-- Where a rehearsal stands. -/
structure Scene where
  outside : Outside := {}
  roster : Roster := {}
  watched? : Option Watched := none
  transcript : Transcript := {}

namespace Scene

/-- Writes to the transcript. -/
def write (f : Transcript → Transcript) : StateM Scene Unit :=
  modify fun s => { s with transcript := f s.transcript }

/-- Writes to the log. -/
def log (records : List LogRecord) : StateM Scene Unit :=
  write fun t => { t with logs := t.logs ++ records }

/-- Acts on the roster. -/
def act (a : Roster.Action) : StateM Scene a.Reply := do
  let done := (← get).roster.perform a
  modify fun s => { s with roster := done.roster }
  log done.logs
  return done.reply

/-- Answers a subscription. The ticket is the one that the watcher is going to get. -/
def subscribe (url containerId : String) (removal : Helper.Order) :
    StateM Scene (Except Failure Source) := do
  let answer := (← get).outside.source
  let ticket := (← get).roster.watchers.length
  modify fun s => { s with outside := { s.outside with sources := s.outside.sources.drop 1 } }
  match answer with
  | .error f =>
    write fun t => { t with subscriptions := t.subscriptions ++ [⟨url, containerId, none⟩] }
    return .error f
  | .ok script =>
    write fun t => { t with subscriptions := t.subscriptions ++ [⟨url, containerId, some ticket⟩] }
    modify fun s => { s with watched? := some { script, removal, ticket } }
    return .ok { closeFailure := script.closeFailure }

/-- Takes an order down and finds its answer. -/
def take (o : Helper.Order) : StateM Scene CallScript := do
  write fun t => { t with orders := t.orders ++ [o] }
  let answer := (← get).outside.call o.task
  modify fun s => { s with outside := s.outside.afterCall o.task }
  return answer

/-- Answers a question; what the helper does is said separately. -/
def answerWith (invoke : Helper.Order → StateM Scene (Except Failure Helper.Result)) :
    (q : Question) → StateM Scene q.Answer
  | .log record => log [record]
  | .probe client url => do
    write fun t => { t with probes := t.probes ++ [(client, url)] }
    return (← get).outside.probe
  | .isActive containerId => do
    write fun t => { t with liveness := t.liveness ++ [containerId] }
    return (← get).outside.active
  | .report containerId message => do
    write fun t => { t with reports := t.reports ++ [(containerId, message)] }
    return (← get).outside.report
  | .subscribe url containerId removal => subscribe url containerId removal
  | .spawn _ => return .ok ()
  | .invoke o => invoke o
  | .act a => act a

/-- The listener hears a signal. Nothing comes while the helper works for the listener. -/
def hear (w : Watched) (signal : Signal) : StateM Scene Unit := do
  let p : Procedure Empty Unit := Watch.hear w.ticket signal (carryOut w.removal)
  let _ ← p.run (answerWith fun o => return (← take o).answer)

/-- The signals that come during a call: a source that fails at once does so the first time. -/
def deliver (signals : List Signal) : StateM Scene Unit := do
  match (← get).watched? with
  | none => return ()
  | some w => ((w.script.failsAtOnce.toList.map Signal.failed) ++ signals).forM (hear w)

/-- Answers the questions of a launch. -/
def answer : (q : Question) → StateM Scene q.Answer :=
  answerWith fun o => do
    let call ← take o
    deliver call.signals
    return call.answer

/-- Runs a launch against the scene. The watcher of an earlier launch hears nothing any more. -/
def run {ε α : Type} (s : Scene) (p : Procedure ε α) : Except ε α × Scene :=
  (p.run answer).run { s with watched? := none }

end Scene

end ContainerLaunch.Rehearsal

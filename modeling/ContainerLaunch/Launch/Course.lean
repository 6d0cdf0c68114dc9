import ContainerLaunch.Launch.Watch
/-!
# The course of a launch

A launch resolves its plan, asks whether the container is still wanted, has the helper do the work,
and reports the outcome. There are two ways to have the work done: a single `run`, after which the
daemon removes the container itself, or `create`, `start` and `remove` under the eyes of a watcher. A
failed call never breaks a launch off; it shows in the outcome.
-/

namespace ContainerLaunch.Launch

open Cleanup
open Procedure (logs question ofExcept)

/-- How the work is done. -/
inductive Strategy where
  | createStart | run
  deriving DecidableEq, Repr, Inhabited

/-- The strategy of a name that passed validation. -/
def Strategy.ofName (name : String) : Strategy := if name = "run" then .run else .createStart

/-- What is fixed when a launcher starts up. -/
structure Pipeline where
  client : Client
  strategy : Strategy
  origin : Watch.Origin
  deriving DecidableEq, Repr, Inhabited

/-- Why a launcher or a launch breaks off. -/
inductive LaunchError where
  | config (e : ConfigError)
  | image (e : ImageError)
  | unreachable (url : String)
  | failure (f : Failure)
  deriving DecidableEq, Repr

/-- The report of an error that is one of this library. -/
def LaunchError.report? : LaunchError → Option ErrorReport
  | .config e => some e.report
  | .image e => some e.report
  | .unreachable url => some (.make .daemonUnavailable "Container daemon is not reachable" (some url))
  | .failure _ => none

/-! ## The work -/

/-- The result that decides: a failed start tells more than what became of the removal. -/
def deciding (started removed : Helper.Result) : Helper.Result :=
  if !removed.succeeded && started.succeeded then removed else started

/-- The line about a created container. -/
def createdLog (containerId : String) (created : Helper.Result) : List LogRecord :=
  [.debug .course
    ("Created container " ++ containerId ++ " (daemon id " ++ Text.trim created.output ++ ")")]

/-- The line about a container that stayed behind. -/
def leftBehindLog (containerId : String) (removed : Helper.Result) : List LogRecord :=
  if removed.succeeded then []
  else
    [.warning .course
      ("Failed to remove container " ++ containerId ++ ", exit code " ++ toString removed.exitCode)]

/-- Starts a created container and removes it after it has ended, whatever it ended with. -/
def startAndRemove (order : Helper.Task → Helper.Order) (watcher : Option Ticket) :
    Procedure Failure (Helper.Result × Helper.Result) := do
  let started ← carryOut (order .start)
  let removed ← carryOut (order .remove)
  if removed.succeeded then Watch.markRemoved watcher
  return (started, removed)

/-- Creates, starts and removes a container. The watcher is let go however that ends. -/
def createStartRemove (origin : Watch.Origin) (url containerId : String)
    (order : Helper.Task → Helper.Order) : Procedure Failure Helper.Result := do
  let created ← carryOut (order .create)
  if !created.succeeded then return created
  logs (createdLog containerId created)
  let watcher ← Watch.subscribe origin url (order .remove)
  let (started, removed) ←
    (startAndRemove order watcher).ensuring (Watch.release containerId watcher)
  logs (leftBehindLog containerId removed)
  return deciding started removed

/-! ## The launch -/

namespace Pipeline

/-- Has the work of a launch done. -/
def work (p : Pipeline) (helperPath : String) (r : Request) (plan : Plan) :
    Procedure Failure Helper.Result :=
  let order := fun task => Helper.order ⟨helperPath, p.client⟩ task r plan
  match p.strategy with
  | .run => carryOut (order .run)
  | .createStart => createStartRemove p.origin plan.dockerUrl r.containerId order

/-- The outcome of a launch that nobody wants any more. -/
def inactiveOutcome : Outcome := { exitCode := ExitCode.inactive, exitClass := .alreadyInactive }

/-- The line about such a launch. -/
def inactiveLog (containerId : String) : List LogRecord :=
  [.info .launch
    ("Container " ++ containerId ++ " was marked as inactive. Returning terminated error")]

/-- Tells the framework what there is to tell. -/
def report (containerId : String) (outcome : Outcome) : Procedure Failure Unit := do
  match outcome.diagnostics with
  | none => return ()
  | some message => ofExcept (← question (.report containerId message))

/-- Launches a container for which there is a plan. -/
def launchPlan (p : Pipeline) (helperPath : String) (r : Request) (plan : Plan) :
    Procedure Failure Outcome := do
  let active : Bool ← ofExcept (← question (.isActive r.containerId))
  if !active then
    logs (inactiveLog r.containerId)
    return inactiveOutcome
  let result ← p.work helperPath r plan
  let (outcome, records) := result.classify r.containerId
  logs records
  report r.containerId outcome
  return outcome

/-- Launches a container. Nothing is asked unless the image reference is valid. -/
def launch (p : Pipeline) (s : Settings) (r : Request) : Procedure LaunchError Outcome := do
  logs (Image.validationLog r.imageReference)
  let plan ← ofExcept ((Plan.resolve r s.dockerUrl).mapError .image)
  (p.launchPlan s.helperPath r plan).mapFault .failure

end Pipeline

end ContainerLaunch.Launch

import ContainerLaunch.Launch.Course
import ContainerLaunch.Script.Delivery
/-!
# The launcher

What the framework talks to. A launcher starts up once, by checking its settings and, if it is told
to, whether the daemon answers; after that it launches. A start-up that fails leaves the launcher as it
was. The pipeline is fixed at the start-up, while the settings of a launch are those of its time.
-/

namespace ContainerLaunch.Launch

open Procedure (logs question ofExcept)

/-- A launcher. `startUps` counts the start-ups that succeeded. -/
structure Launcher where
  settings : Settings
  hasSource : Bool := false
  pipeline? : Option Pipeline := none
  startUps : Nat := 0
  deriving DecidableEq, Repr

namespace Launcher

variable {ε : Type}

/-! ## Starting up -/

/-- How many seconds the daemon is given to answer, as they are written. -/
def probeTimeout : String := "5"

/-- Whether the daemon answers. -/
def checkDaemon (client : Client) (url : String) : Procedure Failure Bool := do
  let answer ← question (.probe client url)
  let (result, records) := client.checkDaemon url probeTimeout answer
  logs records
  ofExcept result

/-- Where the launches of a launcher get their notices from. -/
def origin (l : Launcher) : Watch.Origin :=
  if l.hasSource then .given else if l.settings.watchEvents then .daemon else .nowhere

/-- The line about a launcher that is ready. -/
def readyLog (s : Settings) : List LogRecord :=
  [.info .launcher
    ("Container executor ready (strategy=" ++ s.strategy ++ ", client=" ++ s.client ++ ")")]

/-- The client of valid settings. -/
def clientOf (s : Settings) : Except ConfigError Client := do
  s.validate
  match Client.ofName? s.client with
  | some client => return client
  | none => .error (.unknownClient s.client)

/-- Makes the pipeline. -/
def prepare (l : Launcher) : Procedure LaunchError Pipeline := do
  let s := l.settings
  let client ← ofExcept ((clientOf s).mapError .config)
  logs [.debug .launcher ("dockerUrl: " ++ s.dockerUrl)]
  if s.verifyDaemon then
    let answers ← (checkDaemon client s.dockerUrl).mapFault .failure
    if !answers then .fail (.unreachable s.dockerUrl)
  logs (readyLog s)
  return { client, strategy := .ofName s.strategy, origin := l.origin }

/-- The launcher with a new pipeline. -/
def install (l : Launcher) (p : Pipeline) : Launcher :=
  { l with pipeline? := some p, startUps := l.startUps + 1 }

/-- Starts the launcher up. -/
def startUp (l : Launcher) : Procedure ε (Launcher × Except LaunchError Unit) := do
  match ← l.prepare.attempt with
  | .ok p => return (l.install p, .ok ())
  | .error e => return (l, .error e)

/-! ## Launching -/

/-- Launches a container; a launcher that has not started up does so first. -/
def launch (l : Launcher) (r : Request) : Procedure ε (Launcher × Except LaunchError Outcome) := do
  match l.pipeline? with
  | some p => return (l, ← (p.launch l.settings r).attempt)
  | none =>
    match ← l.prepare.attempt with
    | .ok p => return (l.install p, ← (p.launch l.settings r).attempt)
    | .error e => return (l, .error e)

/-- Changes a setting. -/
def assign (l : Launcher) (a : Settings.Assignment) : Launcher :=
  { l with settings := l.settings.assign a }

/-- A request whose image reference comes from the container's environment. -/
def request (l : Launcher) (environment : Json) (fields : List (String × Json)) :
    Except Request.MakeError Request := do
  Request.checkArguments .launcher fields
  Request.ofEnvironment environment l.settings.imageVariable fields

/-- Writes a launch script to a sink. -/
def deliverScript (l : Launcher) (environment resources argv : Json) (sink : Sink) : Delivery :=
  Script.deliver
    ((Script.ofValues environment resources argv
      (Script.excludedVariables l.settings.imageVariable)).map Script.points)
    sink

end Launcher

end ContainerLaunch.Launch

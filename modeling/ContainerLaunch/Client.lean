import ContainerLaunch.Error
import ContainerLaunch.ExitStatus
import ContainerLaunch.Json.Display
import ContainerLaunch.Log
import ContainerLaunch.Text.Quoted
/-!
# Daemon clients

The two client programs differ in the flag that names the daemon's endpoint. A probe asks the client
for the daemon's `info`.
-/

namespace ContainerLaunch

/-- A client program of a container daemon. -/
inductive Client where
  | docker | podman
  deriving DecidableEq, Repr, Inhabited

namespace Client

/-- The clients. -/
def all : List Client := [.docker, .podman]

/-- The name of the program. -/
def name : Client → String
  | .docker => "docker"
  | .podman => "podman"

/-- The flag before the endpoint. -/
def endpointFlag : Client → String
  | .docker => "-H"
  | .podman => "--url"

/-- The client of a name. -/
def ofName? (name : String) : Option Client := all.find? fun c => c.name == name

theorem name_of_ofName? {name : String} {c : Client} (h : ofName? name = some c) : c.name = name := by
  simpa using List.find?_some h

/-- The client of a loosely typed name. -/
def ofValue? : Json → Option Client
  | .str name => ofName? name
  | _ => none

/-- The message about a value that names no client. -/
def unknownMessage (value : Json) : String := value.shown ++ " is not a valid ContainerRuntime"

/-- The client program, connected to the daemon at a URL. -/
def argv (c : Client) (url : String) : List String := [c.name, c.endpointFlag, url]

/-! ## Probing the daemon -/

/-- The command of a probe. -/
def probeArgv (c : Client) (url : String) : List String := c.argv url ++ ["info"]

/-- What becomes of a probe. One is `broken` if running the client went wrong by no fault of the system. -/
inductive ProbeAnswer where
  | answered
  | exited (code : Int)
  | timedOut
  | broken (message : String)
  | failed (f : Failure)
  deriving DecidableEq, Repr, Inhabited

/-- Why a probe that is waited for `timeout` seconds found no daemon; `none` if it found one, or if it
failed in a way that says nothing about the daemon. -/
def ProbeAnswer.complaint? (argv : List String) (timeout : String) : ProbeAnswer → Option String
  | .answered => none
  | .exited code =>
    some ("Command '" ++ Text.quotedList argv ++ "' " ++ ExitStatus.describe code)
  | .timedOut =>
    some ("Command '" ++ Text.quotedList argv ++ "' timed out after " ++ timeout ++ " seconds")
  | .broken message => some message
  | .failed f => if f.isSystem then some f.message else none

/-- Whether the daemon answered, and what is logged if it did not. A failure that is neither the
probe's nor the operating system's is passed on. -/
def checkDaemon (c : Client) (url timeout : String) (answer : ProbeAnswer) :
    Except Failure Bool × List LogRecord :=
  match answer.complaint? (c.probeArgv url) timeout, answer with
  | some complaint, _ =>
    (.ok false,
      [.warning .client ("Container daemon at " ++ url ++ " not reachable: " ++ complaint)])
  | none, .failed f => (.error f, [])
  | none, _ => (.ok true, [])

end Client

end ContainerLaunch

import ContainerLaunch.Json.Basic
/-!
# Errors

`Failure` is what goes wrong outside the library: in the operating system, a callback, a stream.
`ErrorReport` is an error of this library as it is reported, with a code for programs and details for
people. `ConfigError` and `ImageError` are the causes behind most of them.
-/

namespace ContainerLaunch

/-! ## Failures of the outside -/

/-- The kinds of failure. An interrupt is no error of the call that it hits. -/
inductive FailureKind where
  | os | notFound | permission | badValue | other | interrupt
  deriving DecidableEq, Repr, Inhabited

/-- A failure of something outside the library. -/
structure Failure where
  kind : FailureKind
  message : String
  deriving DecidableEq, Repr, Inhabited

namespace Failure

/-- Refusals of the operating system. -/
def isSystem (f : Failure) : Bool :=
  match f.kind with
  | .os | .notFound | .permission => true
  | _ => false

/-- Everything but an interrupt: what may be logged and left behind. -/
def isOrdinary (f : Failure) : Bool := f.kind != .interrupt

/-- What starting a child process may fail with although the launch is not at fault. -/
def isSpawnRefusal (f : Failure) : Bool := f.isSystem || f.kind == .badValue

end Failure

/-! ## Reports -/

/-- The kinds of error that are reported. -/
inductive ReportKind where
  | general | configuration | invalidImage | daemonUnavailable
  deriving DecidableEq, Repr, Inhabited

namespace ReportKind

/-- The code of an error that is given none. -/
def defaultCode : ReportKind → String
  | .general => "DockerExecError"
  | .configuration => "DockerExecConfigError"
  | .invalidImage => "invalid_image"
  | .daemonUnavailable => "DaemonUnavailableError"

end ReportKind

/-- An error as it is reported. `subject` is the image or the daemon URL that it is about. -/
structure ErrorReport where
  kind : ReportKind
  message : String
  code : String
  details : List (String × Json)
  subject : Option String
  deriving Inhabited

namespace ErrorReport

/-- What the subject adds to the details: an image is always named, a daemon URL if it is not empty. -/
def withSubject (kind : ReportKind) (subject : Option String) (details : List (String × Json)) :
    List (String × Json) :=
  match kind, subject with
  | .invalidImage, some image => Json.setMember "image" (.str image) details
  | .daemonUnavailable, some url =>
    if url.isEmpty then details else Json.setMember "docker_url" (.str url) details
  | _, _ => details

/-- The report of an error; an empty code is no code. -/
def make (kind : ReportKind) (message : String) (subject : Option String := none)
    (code : Option String := none) (details : List (String × Json) := []) : ErrorReport where
  kind
  message
  code := match code with
    | some code => if code.isEmpty then kind.defaultCode else code
    | none => kind.defaultCode
  details := withSubject kind subject details
  subject

/-- Whether the error is also one of a bad value. -/
def isValueError (r : ErrorReport) : Bool := r.kind == .invalidImage

/-- The report as an object. -/
def toJson (r : ErrorReport) : Json :=
  .obj [("error", .str r.code), ("message", .str r.message), ("details", .obj r.details)]

end ErrorReport

/-! ## Causes -/

/-- What is wrong with the settings. -/
inductive ConfigError where
  | unsupportedAuthMode (mode : String)
  | missingUrl
  | unknownStrategy (strategy : String)
  | unknownClient (client : String)
  | unsupportedUrl (url : String)
  deriving DecidableEq, Repr

/-- Why an image reference is refused. -/
inductive ImageError where
  | missing
  | malformed (image : String)
  deriving DecidableEq, Repr

/-- The names of the launch strategies. -/
def strategyNames : List String := ["create_start", "run"]

/-- The names of the daemon clients. -/
def clientNames : List String := ["docker", "podman"]

namespace ConfigError

/-- A list of names as a JSON value. -/
def namesJson (names : List String) : Json := .arr (names.map .str)

/-- The report of a settings error. -/
def report : ConfigError → ErrorReport
  | .unsupportedAuthMode mode =>
    .make .configuration "Docker container executor only works with simple authentication mode"
      none (some "unsupported_auth_mode") [("auth_mode", .str mode)]
  | .missingUrl =>
    .make .configuration "Docker URL must be configured" none (some "missing_docker_url")
  | .unknownStrategy strategy =>
    .make .configuration ("Unknown launch strategy: " ++ strategy) none (some "unknown_strategy")
      [("strategy", .str strategy), ("allowed", namesJson strategyNames)]
  | .unknownClient client =>
    .make .configuration ("Unknown container client: " ++ client) none (some "unknown_client")
      [("client", .str client), ("allowed", namesJson clientNames)]
  | .unsupportedUrl url =>
    .make .configuration ("Unsupported docker URL: " ++ url) none (some "unsupported_docker_url")
      [("docker_url", .str url)]

end ConfigError

namespace ImageError

/-- The report of a refused image. -/
def report : ImageError → ErrorReport
  | .missing => .make .invalidImage "Container image must not be null"
  | .malformed image =>
    .make .invalidImage ("Image: " ++ image ++ " is not a proper docker image") (some image)

end ImageError

end ContainerLaunch

import ContainerLaunch.Image
import ContainerLaunch.Mount
import ContainerLaunch.Script.Basic
import ContainerLaunch.Settings.Basic
/-!
# Launch requests and plans

A request is one launch attempt as the framework hands it over. `Request.ofFields` checks loosely
typed fields and reports everything that is wrong with them, in the order of the fields. `Plan.resolve`
derives what the launch needs from a request and the settings.
-/

namespace ContainerLaunch

/-- One launch attempt. -/
structure Request where
  containerId : String
  user : String
  appId : String
  workDir : String
  localDirs : List String := []
  logDirs : List String := []
  scriptPath : String
  tokensPath : String
  imageReference : Option String := none
  environment : List (String × String) := []
  deriving DecidableEq, Repr, Inhabited

/-! ## Fields -/

/-- What can be wrong with a field. -/
inductive FieldFault where
  | missing | notString | empty | notList | notObject | unknown | frozen
  deriving DecidableEq, Repr

/-- A step of the way to a faulty value. -/
inductive FieldStep where
  | name (s : String)
  | index (i : Nat)
  deriving DecidableEq, Repr

/-- A fault and where it is. -/
structure FieldError where
  fault : FieldFault
  location : List FieldStep
  deriving DecidableEq, Repr

namespace FieldFault

/-- The name of a fault. -/
def name : FieldFault → String
  | .missing => "missing"
  | .notString => "string_type"
  | .empty => "string_too_short"
  | .notList => "tuple_type"
  | .notObject => "dict_type"
  | .unknown => "extra_forbidden"
  | .frozen => "frozen_instance"

/-- The wording of a fault. -/
def message : FieldFault → String
  | .missing => "Field required"
  | .notString => "Input should be a valid string"
  | .empty => "String should have at least 1 character"
  | .notList => "Input should be a valid tuple"
  | .notObject => "Input should be a valid dictionary"
  | .unknown => "Extra inputs are not permitted"
  | .frozen => "Instance is frozen"

end FieldFault

namespace Request

/-- A value, with the faults found on the way to it. A value is used only if there are none. -/
abbrev Checked (α : Type) := α × List FieldError

/-- A string at a place. -/
def checkString (place : List FieldStep) : Json → Checked String
  | .str s => (s, [])
  | _ => ("", [⟨.notString, place⟩])

/-- A field that has to be there. -/
def required (fields : List (String × Json)) (name : String) : Checked String :=
  match Json.member? fields name with
  | none => ("", [⟨.missing, [.name name]⟩])
  | some value => checkString [.name name] value

/-- A field that has to be there and not empty. -/
def requiredNonempty (fields : List (String × Json)) (name : String) : Checked String :=
  match required fields name with
  | (s, []) => if s.isEmpty then ("", [⟨.empty, [.name name]⟩]) else (s, [])
  | faulty => faulty

/-- The strings of a list, counted from `index`. -/
def checkItems (name : String) (index : Nat) : List Json → Checked (List String)
  | [] => ([], [])
  | item :: rest =>
    let (s, faults) := checkString [.name name, .index index] item
    let (more, moreFaults) := checkItems name (index + 1) rest
    (s :: more, faults ++ moreFaults)

/-- A list of directories, empty if it is not given. -/
def directories (fields : List (String × Json)) (name : String) : Checked (List String) :=
  match Json.member? fields name with
  | none => ([], [])
  | some (.arr items) => checkItems name 0 items
  | some _ => ([], [⟨.notList, [.name name]⟩])

/-- A string that may be null or not given. -/
def optional (fields : List (String × Json)) (name : String) : Checked (Option String) :=
  match Json.member? fields name with
  | none | some .null => (none, [])
  | some value =>
    let (s, faults) := checkString [.name name] value
    (some s, faults)

/-- The variables of an object. -/
def checkVariables (name : String) : List (String × Json) → Checked (List (String × String))
  | [] => ([], [])
  | (key, value) :: rest =>
    let (s, faults) := checkString [.name name, .name key] value
    let (more, moreFaults) := checkVariables name rest
    ((key, s) :: more, faults ++ moreFaults)

/-- An object of variables, empty if it is not given; its faults come in the order of the keys. -/
def environmentField (fields : List (String × Json)) (name : String) :
    Checked (List (String × String)) :=
  match Json.member? fields name with
  | none => ([], [])
  | some (.obj members) => checkVariables name (Script.sortMembers members)
  | some _ => ([], [⟨.notObject, [.name name]⟩])

/-- The names of the fields, in the order in which their faults are reported. -/
def fieldNames : List String :=
  ["container_id", "user", "app_id", "work_dir", "local_dirs", "log_dirs", "script_path",
    "tokens_path", "image_reference", "environment"]

/-- The fields that a request does not have, in the order of their names. -/
def unknownFields (fields : List (String × Json)) : List FieldError :=
  ((Script.sortMembers fields).filter fun f => !fieldNames.contains f.1).map fun f =>
    ⟨.unknown, [.name f.1]⟩

/-- The request with the given fields. Nothing is converted: only a string is a string. -/
def ofFields (fields : List (String × Json)) : Except (List FieldError) Request :=
  let (containerId, e₁) := requiredNonempty fields "container_id"
  let (user, e₂) := requiredNonempty fields "user"
  let (appId, e₃) := requiredNonempty fields "app_id"
  let (workDir, e₄) := required fields "work_dir"
  let (localDirs, e₅) := directories fields "local_dirs"
  let (logDirs, e₆) := directories fields "log_dirs"
  let (scriptPath, e₇) := required fields "script_path"
  let (tokensPath, e₈) := required fields "tokens_path"
  let (imageReference, e₉) := optional fields "image_reference"
  let (environment, e₁₀) := environmentField fields "environment"
  match e₁ ++ e₂ ++ e₃ ++ e₄ ++ e₅ ++ e₆ ++ e₇ ++ e₈ ++ e₉ ++ e₁₀ ++ unknownFields fields with
  | [] =>
    .ok { containerId, user, appId, workDir, localDirs, logDirs, scriptPath, tokensPath,
          imageReference, environment }
  | errors => .error errors

/-! ## Requests from an environment -/

/-- Who makes a request of named arguments. None of them takes an argument twice. -/
inductive Maker where
  /-- Takes the fields of a request. -/
  | fields
  /-- Takes the environment, the name of the image variable, and the other fields. -/
  | environment
  /-- Takes the environment and the other fields. -/
  | launcher
  deriving DecidableEq, Repr

namespace Maker

/-- The name under which a maker complains. -/
def name : Maker → String
  | .fields => "dockerexec.models.LaunchRequest"
  | .environment => "dockerexec.models.LaunchRequest.from_environment"
  | .launcher => "dockerexec.executor.ContainerExecutor.build_request"

/-- The arguments that a maker is given besides the fields. -/
def arguments : Maker → List String
  | .fields => ["image_reference", "environment"]
  | .environment => ["environment", "image_env_var"]
  | .launcher => ["environment"]

end Maker

/-- Why no request is made. -/
inductive MakeError where
  | repeated (maker : Maker) (argument : String)
  | notVariables (kind : Json.Kind)
  | invalid (errors : List FieldError)
  deriving DecidableEq, Repr

/-- The wording about an argument that is given twice. -/
def repeatedMessage (maker : Maker) (argument : String) : String :=
  maker.name ++ "() got multiple values for keyword argument '" ++ argument ++ "'"

/-- Checks that no field is an argument of the maker already. -/
def checkArguments (maker : Maker) (fields : List (String × Json)) : Except MakeError Unit :=
  match fields.find? fun f => maker.arguments.contains f.1 with
  | some (argument, _) => .error (.repeated maker argument)
  | none => .ok ()

/-- The request with the given fields and the image reference from a variable of the container's own
environment. -/
def ofEnvironment (environment : Json) (imageVariable : String) (fields : List (String × Json)) :
    Except MakeError Request := do
  checkArguments .environment fields
  match environment with
  | .obj members =>
    checkArguments .fields fields
    (ofFields
      (("image_reference", Json.memberOrNull members imageVariable) ::
        ("environment", environment) :: fields)).mapError .invalid
  | other => throw (.notVariables other.kind)

end Request

/-! ## Plans -/

/-- What a launch needs beyond its request: the image reference has passed validation. -/
structure Plan where
  image : String
  dockerUrl : String
  localMounts : List Mount
  logMounts : List Mount
  launchScript : String
  deriving DecidableEq, Repr, Inhabited

namespace Plan

/-- The plan of a request; nothing is derived unless the image reference is valid. -/
def resolve (request : Request) (dockerUrl : String) : Except ImageError Plan :=
  (Image.validate request.imageReference).map fun image =>
    { image
      dockerUrl
      localMounts := Mount.ofPaths request.localDirs
      logMounts := Mount.ofPaths request.logDirs
      launchScript := Path.join request.workDir Script.fileName }

end Plan

end ContainerLaunch

import ContainerLaunch.Json.Display
import ContainerLaunch.Lifecycle.Notice
/-!
# Notices from the daemon's JSON

Newer daemons tell the action as `Action` and the container under `Actor`, older ones as `status` and
`id`; a member that does not count as given is passed over. A payload about something else than a
container, with an action that is no lifecycle change, or without a container, is no notice.
-/

namespace ContainerLaunch.Lifecycle

/-- Why a payload cannot be read. -/
inductive PayloadError where
  /-- Members are looked up in something that has none. -/
  | notObject (kind : Json.Kind)
  /-- An action is looked up by something that is no key. -/
  | notKey (kind : Json.Kind)
  /-- Nanoseconds that are no number. -/
  | notNanoseconds (kind : Json.Kind)
  /-- Seconds that are neither a number nor a text. -/
  | notSeconds (kind : Json.Kind)
  /-- Seconds in a text that is no number. -/
  | notNumeral (text : String)
  /-- A whole number beyond the range of timestamps. -/
  | outOfRange
  deriving DecidableEq, Repr

/-- The wording of a payload error. -/
def PayloadError.message : PayloadError → String
  | .notObject kind => "'" ++ kind.name ++ "' object has no attribute 'get'"
  | .notKey kind => "unhashable type: '" ++ kind.name ++ "'"
  | .notNanoseconds kind =>
    "unsupported operand type(s) for /: '" ++ kind.name ++ "' and 'float'"
  | .notSeconds kind =>
    "float() argument must be a string or a real number, not '" ++ kind.name ++ "'"
  | .notNumeral text => "could not convert string to float: " ++ Text.quoted text
  | .outOfRange => "int too large to convert to float"

namespace Payload

/-- The members of an object; what does not count as given is an object without members. -/
def members (value : Json) : Except PayloadError (List (String × Json)) :=
  match value with
  | .obj members => .ok members
  | value => if value.isTruthy then .error (.notObject value.kind) else .ok []

/-- Whether the payload is about a container: it says so, or does not say anything. -/
def isAboutContainer (payload : List (String × Json)) : Bool :=
  match Json.member? payload "Type" with
  | none => true
  | some (.str s) => s == "container"
  | some _ => false

/-- The action of the payload, the empty text if it has none. -/
def action (payload : List (String × Json)) : Json :=
  ((Json.memberOrNull payload "Action").orElse (Json.memberOrNull payload "status")).orElse
    (.str "")

/-- The lifecycle change that an action means. -/
def change? (action : Json) : Except PayloadError (Option Change) :=
  match action with
  | .str s => .ok (Change.ofAction? s)
  | .arr _ | .obj _ => .error (.notKey action.kind)
  | _ => .ok none

/-- What the payload calls the container: by its name, by the actor's id, or by its own id. -/
def containerValue (payload : List (String × Json)) : Except PayloadError Json := do
  let actor ← members (Json.memberOrNull payload "Actor")
  let attributes ← members (Json.memberOrNull actor "Attributes")
  return ((Json.memberOrNull attributes "name").orElse (Json.memberOrNull actor "ID")).orElse
    (Json.memberOrNull payload "id")

/-- A whole number as a timestamp. -/
def wholeNumber (n : Int) : Except PayloadError Binary64 :=
  match Binary64.ofInt? n with
  | some x => .ok x
  | none => .error .outOfRange

/-- One for true, zero for false. -/
def ofBool (b : Bool) : Int := if b then 1 else 0

/-- The seconds in a number of nanoseconds. -/
def ofNanoseconds (value : Json) : Except PayloadError Binary64 := do
  let nanoseconds ← match value with
    | .int n => wholeNumber n
    | .bool b => wholeNumber (ofBool b)
    | .float x => .ok x
    | value => .error (.notNanoseconds value.kind)
  return nanoseconds.div .billion

/-- The seconds in a number or in the text of a number. -/
def ofSeconds (value : Json) : Except PayloadError Binary64 :=
  match value with
  | .int n => wholeNumber n
  | .bool b => wholeNumber (ofBool b)
  | .float x => .ok x
  | .str s =>
    match Binary64.ofText? s with
    | some x => .ok x
    | none => .error (.notNumeral s)
  | value => .error (.notSeconds value.kind)

/-- The time of the payload: in nanoseconds if they are given, else in seconds, else zero. -/
def time (payload : List (String × Json)) : Except PayloadError Binary64 :=
  let nanoseconds := Json.memberOrNull payload "timeNano"
  if nanoseconds.isTruthy then ofNanoseconds nanoseconds
  else ofSeconds ((Json.member? payload "time").getD (.int 0))

/-- A container's id without the slashes that some daemons put before it. -/
def bareId (id : String) : String := String.ofList (id.toList.dropWhile (· == '/'))

/-- The notice that the members of a payload make. -/
def noticeOfMembers? (payload : List (String × Json)) : Except PayloadError (Option Notice) := do
  if !isAboutContainer payload then return none
  match ← change? (action payload) with
  | none => return none
  | some change =>
    let container ← containerValue payload
    if !container.isTruthy then return none
    let time ← time payload
    return some { containerId := bareId container.text, change, time }

/-- The notice that a payload makes. -/
def notice? (payload : Json) : Except PayloadError (Option Notice) :=
  match payload with
  | .obj members => noticeOfMembers? members
  | payload => .error (.notObject payload.kind)

end Payload

end ContainerLaunch.Lifecycle

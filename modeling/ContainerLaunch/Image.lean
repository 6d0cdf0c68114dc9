import ContainerLaunch.Error
import ContainerLaunch.Log
import ContainerLaunch.Text.Pieces
/-!
# Image references

The reference of an image comes from the container's own environment and ends up on a command line.
`Image.validate` takes the quotes out and accepts what is left only if it is a name, or a host with
ports and a name, in ASCII: `[host[:port]…/]name[:tag]`.
-/

namespace ContainerLaunch.Image

/-- The grammar as a regular expression. -/
def pattern : String := "(([\\w.-]+)(:\\d+)*/)?[\\w.:-]+"

/-- A letter, digit or underscore, in ASCII. -/
def isWordChar (c : Char) : Bool := c.isAlphanum || c == '_'

/-- A character of a host name. -/
def isHostChar (c : Char) : Bool := isWordChar c || c == '.' || c == '-'

/-- A character of a name with an optional tag. -/
def isNameChar (c : Char) : Bool := isHostChar c || c == ':'

/-- Not empty, and of one class. -/
def isRun (p : Char → Bool) (s : List Char) : Bool := !s.isEmpty && s.all p

/-- A host name and any number of ports. -/
def isHost (s : List Char) : Bool :=
  match Text.pieces ':' s with
  | host :: ports => isRun isHostChar host && ports.all (isRun Char.isDigit)
  | [] => false

/-- Whether a text without quotes is an image reference. -/
def isValidChars (s : List Char) : Bool :=
  match Text.pieces '/' s with
  | [name] => isRun isNameChar name
  | [host, name] => isHost host && isRun isNameChar name
  | _ => false

/-- Whether a text without quotes is an image reference. -/
def isValid (name : String) : Bool := isValidChars name.toList

/-- Whether a loosely typed value is an image reference: only a string can be one. -/
def isValidValue : Json → Bool
  | .str name => isValid name
  | _ => false

/-- A single or double quote. -/
def isQuote (c : Char) : Bool := c == '\x27' || c == '\x22'

/-- The text without its quotes. -/
def stripQuotes (raw : String) : String := String.ofList (raw.toList.filter (!isQuote ·))

/-- The image reference in a raw one. -/
def validate (raw : Option String) : Except ImageError String :=
  match raw with
  | none => .error .missing
  | some raw =>
    if raw.isEmpty then .error .missing
    else
      let image := stripQuotes raw
      if isValid image then .ok image else .error (.malformed image)

/-- Why a loosely typed reference is refused. -/
inductive RawError where
  | image (e : ImageError)
  | notString (kind : Json.Kind)
  deriving DecidableEq, Repr

/-- The image reference in a loosely typed one. What does not count as given is missing. -/
def validateValue (raw : Json) : Except RawError String :=
  match raw with
  | .str raw => (validate (some raw)).mapError .image
  | raw => if raw.isTruthy then .error (.notString raw.kind) else .error (.image .missing)

/-- What is logged while a raw reference is validated. -/
def validationLog (raw : Option String) : List LogRecord :=
  match raw with
  | none => []
  | some raw =>
    if raw.isEmpty then []
    else [.debug .image ("containerImageName from launch context: " ++ stripQuotes raw)]

end ContainerLaunch.Image

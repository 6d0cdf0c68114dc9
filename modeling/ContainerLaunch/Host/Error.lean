import ContainerLaunch.Text.Quoted
/-!
# Faults of host names

Why a host name cannot be put into ASCII, or read back from it. Positions in a label count from one.
-/

namespace ContainerLaunch.Host

/-- What is wrong with a host name. -/
inductive HostError where
  | emptyName
  | nameTooLong
  | emptyLabel
  | labelTooLong
  | notComposed
  | hyphensInside
  | hyphenAtEnd
  | combinerFirst
  /-- A character that no label may hold. -/
  | forbidden (code position : Nat) (label : String)
  /-- A character that may not stand in its surroundings. -/
  | misplaced (code position : Nat) (label : String)
  /-- A joiner with nothing to join. -/
  | idleJoiner (code position : Nat) (label : String)
  | nothingEncoded
  | encodedHyphen
  | notEncoded
  /-- A character of which no direction is known. -/
  | unknownDirection (position : Nat) (label : String)
  | firstDirection (label : String)
  | mixedDirections (position : Nat) (rightToLeft : Bool)
  | mixedNumbers
  | lastDirection
  deriving DecidableEq, Repr

/-- The kinds of fault of a host name. -/
inductive HostErrorKind where
  | form | character | surroundings | direction
  deriving DecidableEq, Repr

namespace HostError

/-- The kind of a fault. -/
def kind : HostError → HostErrorKind
  | .forbidden .. => .character
  | .misplaced .. => .surroundings
  | .unknownDirection .. | .firstDirection _ | .mixedDirections .. | .mixedNumbers
  | .lastDirection => .direction
  | _ => .form

/-- A code point in at least four hexadecimal digits. -/
def codePoint (n : Nat) : String :=
  let width := if n < 0x10000 then 4 else if n < 0x100000 then 5 else 6
  "U+" ++ String.ofList ((Text.hexDigits width n).map Char.toUpper)

/-- The wording of a fault. -/
def message : HostError → String
  | .emptyName => "Empty domain"
  | .nameTooLong => "Domain too long"
  | .emptyLabel => "Empty Label"
  | .labelTooLong => "Label too long"
  | .notComposed => "Label must be in Normalization Form C"
  | .hyphensInside => "Label has disallowed hyphens in 3rd and 4th position"
  | .hyphenAtEnd => "Label must not start or end with a hyphen"
  | .combinerFirst => "Label begins with an illegal combining character"
  | .forbidden code position label =>
    "Codepoint " ++ codePoint code ++ " at position " ++ toString position ++ " of " ++
      Text.quoted label ++ " not allowed"
  | .misplaced code position label =>
    "Codepoint " ++ codePoint code ++ " not allowed at position " ++ toString position ++ " in " ++
      Text.quoted label
  | .idleJoiner code position label =>
    "Unknown codepoint adjacent to joiner " ++ codePoint code ++ " at position " ++
      toString position ++ " in " ++ Text.quoted label
  | .nothingEncoded => "Malformed A-label, no Punycode eligible content found"
  | .encodedHyphen => "A-label must not end with a hyphen"
  | .notEncoded => "Invalid A-label"
  | .unknownDirection position label =>
    "Unknown directionality in label " ++ Text.quoted label ++ " at position " ++ toString position
  | .firstDirection label =>
    "First codepoint in label " ++ Text.quoted label ++ " must be directionality L, R or AL"
  | .mixedDirections position rightToLeft =>
    "Invalid direction for codepoint at position " ++ toString position ++ " in a " ++
      (if rightToLeft then "right-to-left" else "left-to-right") ++ " label"
  | .mixedNumbers => "Can not mix numeral types in a right-to-left label"
  | .lastDirection => "Label ends with illegal codepoint directionality"

end HostError

end ContainerLaunch.Host

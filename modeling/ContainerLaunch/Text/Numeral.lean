import ContainerLaunch.Text.Blank
import ContainerLaunch.Text.Digit
/-!
# Numerals

Numbers as they are written by hand: blanks around a number do not count, the decimal digits of any
script are digits, and single underscores may stand between digits. `wholeNumber?` reads a whole number
with an optional sign.
-/

namespace ContainerLaunch.Text

/-- The blanks that may stand around a number. -/
def isPadding (c : Char) : Bool := c == ' ' || (9 ≤ c.toNat && c.toNat ≤ 13)

/-- Blanks and digits beyond ASCII are read as the space and as ASCII digits. -/
def foldChar (c : Char) : Char :=
  if c.toNat < 128 then c
  else if isBlank c then ' '
  else match digitValue? c with
    | some d => digitChar d
    | none => c

/-- Takes out the underscores, each of which has to stand between two digits. `before` is the
character before the text. -/
def dropUnderscores (before : Char) : List Char → Option (List Char)
  | [] => some []
  | ['_'] => none
  | '_' :: c :: rest =>
    if before.isDigit && c.isDigit then (dropUnderscores c rest).map (c :: ·) else none
  | c :: rest => (dropUnderscores c rest).map (c :: ·)

/-- The digits at the start of a text, and the rest. -/
def spanDigits (s : List Char) : List Char × List Char := s.span Char.isDigit

/-- The value of decimal digits. -/
def digitsValue (ds : List Char) : Nat := ds.foldl (fun n d => 10 * n + (d.toNat - 48)) 0

/-- A sign at the start of a text. -/
def takeSign : List Char → Bool × List Char
  | '-' :: rest => (true, rest)
  | '+' :: rest => (false, rest)
  | s => (false, s)

/-- A number as plain ASCII text: without the blanks around it and the underscores in it. -/
def plainNumeral? (s : List Char) : Option (List Char) :=
  dropUnderscores ' ' (trimBoth isPadding (s.map foldChar))

/-- The greatest number of digits of a whole number. -/
def maxWholeDigits : Nat := 4300

/-- The whole number that a text stands for. -/
def wholeNumber? (s : List Char) : Option Int :=
  (plainNumeral? s).bind fun s =>
    let (negative, s) := takeSign s
    let (ds, rest) := spanDigits s
    if ds.isEmpty || !rest.isEmpty || maxWholeDigits < ds.length then none
    else some (if negative then -(digitsValue ds : Int) else digitsValue ds)

end ContainerLaunch.Text

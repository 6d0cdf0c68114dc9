/-!
# Lines of a text

A line ends at LF, CR, CR LF, VT, FF, FS, GS, RS, NEL, or one of the two Unicode separators of lines
and paragraphs.
-/

namespace ContainerLaunch.Text

/-- A character that ends a line. -/
def isLineBreak (c : Char) : Bool :=
  let n := c.toNat
  (0xa ≤ n && n ≤ 0xd) || (0x1c ≤ n && n ≤ 0x1e) || n == 0x85 || n == 0x2028 || n == 0x2029

/-- The lines of a text that goes on after `line`, which is given back to front; the second part is
what follows the last line break. A carriage return at the very end ends no line yet: it may be
the first half of a CR LF. -/
def splitLines (line : List Char) : List Char → List String × List Char
  | [] => ([], line.reverse)
  | ['\r'] => ([], line.reverse)
  | '\r' :: '\n' :: rest =>
    let (lines, tail) := splitLines [] rest
    (String.ofList line.reverse :: lines, tail)
  | c :: rest =>
    if isLineBreak c then
      let (lines, tail) := splitLines [] rest
      (String.ofList line.reverse :: lines, tail)
    else splitLines (c :: line) rest

/-- The lines of a whole text, the unfinished last one included if it is not empty. -/
def lines (s : List Char) : List String :=
  let (ended, tail) := splitLines [] s
  if tail.isEmpty then ended else ended ++ [String.ofList tail]

/-- The lines of a text that broke off: only those that were ended. -/
def endedLines (s : List Char) : List String := (splitLines [] s).1

end ContainerLaunch.Text

/-!
# Blank characters

The characters that count as white space when a setting or a line of a body is trimmed: the ASCII
controls TAB to CR and FS to US, the space, NEL, and the Unicode space separators and line
separators. Zero-width characters are not blank.
-/

namespace ContainerLaunch.Text

/-- White space, including the four ASCII separators FS, GS, RS and US. -/
def isBlank (c : Char) : Bool :=
  let n := c.toNat
  (0x9 ≤ n && n ≤ 0xd) || (0x1c ≤ n && n ≤ 0x20) || n == 0x85 || n == 0xa0 || n == 0x1680 ||
    (0x2000 ≤ n && n ≤ 0x200a) || n == 0x2028 || n == 0x2029 || n == 0x202f || n == 0x205f ||
    n == 0x3000

/-- Drops what satisfies `p` at both ends. -/
def trimBoth (p : Char → Bool) (s : List Char) : List Char :=
  ((s.dropWhile p).reverse.dropWhile p).reverse

/-- The text without blanks at its two ends. -/
def trim (s : String) : String := String.ofList (trimBoth isBlank s.toList)

/-- The text without the characters `c` at its end. -/
def dropTrailing (c : Char) (s : List Char) : List Char :=
  (s.reverse.dropWhile (· == c)).reverse

/-- Nothing but blanks, the empty text included. -/
def isBlankText (s : String) : Bool := s.toList.all isBlank

end ContainerLaunch.Text

/-!
# Reading UTF-8

Bytes to characters, where each longest piece that starts like a character but does not go on to be
one is read as a single replacement character U+FFFD. At the end of the bytes such a piece may still
go on: `decode` takes them for the whole text, `decodeSoFar` for a beginning of it.
-/

namespace ContainerLaunch.Text.Utf8

/-- U+FFFD. -/
def replacement : Char := Char.ofNat 0xfffd

/-- A continuation byte. -/
def isTail (b : UInt8) : Bool := 0x80 ≤ b && b ≤ 0xbf

/-- The bytes that may follow the first byte of a character: shortest forms only, no surrogates,
nothing above U+10FFFF. -/
def isSecond (first b : UInt8) : Bool :=
  if first == 0xe0 then 0xa0 ≤ b && b ≤ 0xbf
  else if first == 0xed then 0x80 ≤ b && b ≤ 0x9f
  else if first == 0xf0 then 0x90 ≤ b && b ≤ 0xbf
  else if first == 0xf4 then 0x80 ≤ b && b ≤ 0x8f
  else isTail b

/-- The character with code point `hi · 64 + b mod 64`. -/
def shift (hi : Nat) (b : UInt8) : Nat := hi * 64 + b.toNat % 64

/-- Reads the bytes as characters, and a piece that is cut off by their end as `cut`. -/
def decodeCut (cut : List Char) : List UInt8 → List Char
  | [] => []
  | a :: rest =>
    if a < 0x80 then Char.ofNat a.toNat :: decodeCut cut rest
    else if 0xc2 ≤ a && a ≤ 0xdf then
      match rest with
      | b :: rest => if isTail b then Char.ofNat (shift (a.toNat % 32) b) :: decodeCut cut rest
        else replacement :: decodeCut cut (b :: rest)
      | [] => cut
    else if 0xe0 ≤ a && a ≤ 0xef then
      match rest with
      | b :: c :: rest =>
        if isSecond a b then
          if isTail c then Char.ofNat (shift (shift (a.toNat % 16) b) c) :: decodeCut cut rest
          else replacement :: decodeCut cut (c :: rest)
        else replacement :: decodeCut cut (b :: c :: rest)
      | [b] => if isSecond a b then cut else replacement :: decodeCut cut [b]
      | [] => cut
    else if 0xf0 ≤ a && a ≤ 0xf4 then
      match rest with
      | b :: c :: d :: rest =>
        if isSecond a b then
          if isTail c then
            if isTail d then Char.ofNat (shift (shift (shift (a.toNat % 8) b) c) d) :: decodeCut cut rest
            else replacement :: decodeCut cut (d :: rest)
          else replacement :: decodeCut cut (c :: d :: rest)
        else replacement :: decodeCut cut (b :: c :: d :: rest)
      | [b, c] =>
        if isSecond a b then
          if isTail c then cut else replacement :: decodeCut cut [c]
        else replacement :: decodeCut cut [b, c]
      | [b] => if isSecond a b then cut else replacement :: decodeCut cut [b]
      | [] => cut
    else replacement :: decodeCut cut rest
termination_by bytes => bytes.length

/-- Reads the bytes of a whole text. -/
def decode (bytes : List UInt8) : List Char := decodeCut [replacement] bytes

/-- Reads the bytes of a text that may go on: a piece cut off by their end is not read yet. -/
def decodeSoFar (bytes : List UInt8) : List Char := decodeCut [] bytes

end ContainerLaunch.Text.Utf8

import ContainerLaunch.Text.Numeral
import ContainerLaunch.Text.Pieces
/-!
# Internet addresses

The addresses of four bytes, in decimal, and of sixteen bytes, in hexadecimal. Only their form counts
here: an address is kept as it was written.
-/

namespace ContainerLaunch.Host

/-- A byte in decimal, without zeros before it. -/
def isOctet (s : List Char) : Bool :=
  !s.isEmpty && s.all Char.isDigit && s.length ≤ 3 && (s.length == 1 || s.head? != some '0') &&
    Text.digitsValue s ≤ 255

/-- An address of four bytes. -/
def isIPv4 (s : List Char) : Bool :=
  let octets := Text.pieces '.' s
  octets.length == 4 && octets.all isOctet

/-- One to four hexadecimal digits. -/
def isHextet (s : List Char) : Bool := !s.isEmpty && s.length ≤ 4 && s.all Text.isHexDigit

/-- The pieces of an address, where a last piece of four bytes stands for two pieces. -/
def unfoldIPv4 (pieces : List (List Char)) : Option (List (List Char)) :=
  match pieces.getLast? with
  | some last =>
    if last.contains '.' then
      if isIPv4 last then some (pieces.dropLast ++ [['0'], ['0']]) else none
    else some pieces
  | none => some pieces

/-- Whether the pieces between colons make an address of eight pieces, where an empty piece inside
stands for any number of zeros. An empty piece at either end has to belong to such a gap. -/
def isHextets (pieces : List (List Char)) : Bool :=
  let inner := (pieces.drop 1).dropLast
  match inner.findIdx? List.isEmpty with
  | none => pieces.length == 8 && pieces.all isHextet
  | some i =>
    let high := pieces.take (i + 1)
    let low := pieces.drop (i + 2)
    let high := if high.head? == some [] then high.drop 1 else high
    let low := if low.getLast? == some [] then low.dropLast else low
    pieces.length ≤ 9 && high.length + low.length ≤ 7 && high.all isHextet && low.all isHextet &&
      (pieces.head? != some [] || high.isEmpty) && (pieces.getLast? != some [] || low.isEmpty)

/-- An address of sixteen bytes, with or without a zone after a percent sign. -/
def isIPv6 (s : List Char) : Bool :=
  let zoneOk := match Text.pieces '%' s with
    | [_] => true
    | [_, zone] => !zone.isEmpty
    | _ => false
  let pieces := Text.pieces ':' (s.takeWhile (· != '%'))
  zoneOk && 3 ≤ pieces.length &&
    match unfoldIPv4 pieces with
    | some pieces => isHextets pieces
    | none => false

end ContainerLaunch.Host

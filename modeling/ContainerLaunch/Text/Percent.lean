import ContainerLaunch.Text.Digit
import ContainerLaunch.Text.Quoted
import ContainerLaunch.Text.Utf8
/-!
# Percent escapes

In an address a byte may be written as a percent sign and two hexadecimal digits. `encode` escapes
what must not stand there as it is; `decode` reads escapes back; `formEncode` is the form that the
values of a query take, where a plus sign stands for the space.
-/

namespace ContainerLaunch.Text.Percent

/-- The bytes of a character. -/
def bytesOf (c : Char) : List UInt8 := (String.ofList [c]).toUTF8.toList

/-- The escape of a byte. -/
def escapeByte (b : UInt8) : List Char := '%' :: (hexDigits 2 b.toNat).map Char.toUpper

/-- The escapes of the bytes of a character. -/
def escape (c : Char) : List Char := (bytesOf c).flatMap escapeByte

/-- A character that never needs an escape. -/
def isUnreserved (c : Char) : Bool :=
  c.isAlphanum || c == '-' || c == '.' || c == '_' || c == '~'

/-- Escapes what neither is unreserved nor allowed. Where percent signs are allowed, the escapes that
are already there stay as they are. -/
def encode (isAllowed : Char → Bool) (s : List Char) : List Char :=
  s.flatMap fun c => if isUnreserved c || isAllowed c then [c] else escape c

/-- The bytes that a text with escapes stands for. -/
def decodeBytes : List Char → List UInt8
  | '%' :: a :: b :: rest =>
    match hexValue? a, hexValue? b with
    | some hi, some lo => (hi * 16 + lo).toUInt8 :: decodeBytes rest
    | _, _ => bytesOf '%' ++ decodeBytes (a :: b :: rest)
  | c :: rest => bytesOf c ++ decodeBytes rest
  | [] => []

/-- The text that a text with escapes stands for. -/
def decode (s : List Char) : List Char := Utf8.decode (decodeBytes s)

/-- A value of a query. -/
def formEncode (s : List Char) : List Char :=
  s.flatMap fun c => if c == ' ' then ['+'] else if isUnreserved c then [c] else escape c

end ContainerLaunch.Text.Percent

import ContainerLaunch.Text.Quoted
/-!
# Text as code points

A text that comes from outside need not consist of characters: bytes that are no UTF-8 come in as surrogates without
their other half. Such a text can be handled like any other one, but it has no encoding.
-/

namespace ContainerLaunch.Text

/-- A code point: a character or a surrogate, those counted from U+D800. -/
inductive Point where
  | char (c : Char)
  | surrogate (n : Fin 0x800)
  deriving DecidableEq, Repr

/-- A text as its code points. -/
abbrev Points := List Point

/-- The first surrogate of a text, its position, and how many more follow it without a character in between. -/
structure EncodeError where
  position : Nat
  surrogate : Fin 0x800
  more : Nat
  deriving DecidableEq, Repr

namespace EncodeError

/-- The wording of an encoding error. -/
def message (e : EncodeError) : String :=
  let place := toString e.position
  if e.more = 0 then
    "'utf-8' codec can't encode character '\\u" ++ String.ofList (hexDigits 4 (0xd800 + e.surrogate)) ++
      "' in position " ++ place ++ ": surrogates not allowed"
  else
    "'utf-8' codec can't encode characters in position " ++ place ++ "-" ++ toString (e.position + e.more) ++
      ": surrogates not allowed"

end EncodeError

namespace Point

def isSurrogate : Point → Bool
  | .char _ => false
  | .surrogate _ => true

/-- The character that stands for a code point where it is only looked at. -/
def shown : Point → Char
  | .char c => c
  | .surrogate _ => Char.ofNat 0xfffd

end Point

namespace Points

/-- A text that consists of characters. -/
def ofString (s : String) : Points := s.toList.map .char

/-- The text where it is only looked at. -/
def shown (text : Points) : String := String.ofList (text.map Point.shown)

/-- The text in UTF-8, its first code point being at `position`. -/
def encodeFrom (position : Nat) : Points → Except EncodeError (List UInt8)
  | [] => .ok []
  | .char c :: rest => (encodeFrom (position + 1) rest).map (String.utf8EncodeChar c ++ ·)
  | .surrogate n :: rest =>
    .error { position, surrogate := n, more := (rest.takeWhile Point.isSurrogate).length }

/-- The text in UTF-8. -/
def encode (text : Points) : Except EncodeError (List UInt8) := text.encodeFrom 0

end Points

end ContainerLaunch.Text

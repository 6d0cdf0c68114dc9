import ContainerLaunch.Json.Basic
import ContainerLaunch.Binary64.Decimal
/-!
# Reading JSON

`Json.parse` reads one value from a text. Beyond the standard it takes `NaN`, `Infinity` and
`-Infinity`; of members with one key the last one counts. Blanks are space, TAB, LF and CR, and a text
that starts with a byte order mark is refused.
-/

namespace ContainerLaunch.Json

/-- What is too much to be read. -/
inductive Excess where
  /-- A whole number of so many digits. -/
  | digits (count : Nat)
  /-- An array or an object inside too many others. -/
  | depth (kind : Kind)
  deriving DecidableEq, Repr

/-- Why a text is not read: it is not JSON, or too much. -/
inductive ParseError where
  | malformed
  | excess (e : Excess)
  deriving DecidableEq, Repr

/-- The wording of an excess. -/
def Excess.message : Excess → String
  | .digits count =>
    "Exceeds the limit (" ++ toString Text.maxWholeDigits ++
      " digits) for integer string conversion: value has " ++ toString count ++
      " digits; use sys.set_int_max_str_digits() to increase the limit"
  | .depth kind =>
    "maximum recursion depth exceeded while decoding a JSON " ++
      (if kind = .obj then "object" else "array") ++ " from a unicode string"

/-- The number of arrays and objects that may stand inside each other. -/
def maxDepth : Nat := 985

/-- A value and the text after it. -/
abbrev Parsed (α : Type) := Except ParseError (α × List Char)

/-- Drops blanks. -/
def skipBlanks (s : List Char) : List Char :=
  s.dropWhile fun c => c == ' ' || c == '\t' || c == '\n' || c == '\r'

/-- Four hexadecimal digits. -/
def hexFour? : List Char → Option (Nat × List Char)
  | a :: b :: c :: d :: rest => do
    let a ← Text.hexValue? a
    let b ← Text.hexValue? b
    let c ← Text.hexValue? c
    let d ← Text.hexValue? d
    return (((a * 16 + b) * 16 + c) * 16 + d, rest)
  | _ => none

/-- The character of an escape of one letter. -/
def simpleEscape? (c : Char) : Option Char :=
  if c == '\x22' || c == '\\' || c == '/' then some c
  else if c == 'b' then some '\x08'
  else if c == 'f' then some '\x0c'
  else if c == 'n' then some '\n'
  else if c == 'r' then some '\r'
  else if c == 't' then some '\t'
  else none

/-- The character of the escape whose first four digits have the value `unit`: two halves of a pair
make one character. -/
def unicodeEscape (unit : Nat) (rest : List Char) : Char × List Char :=
  if 0xd800 ≤ unit && unit ≤ 0xdbff then
    match rest with
    | '\\' :: 'u' :: more =>
      match hexFour? more with
      | some (low, more) =>
        if 0xdc00 ≤ low && low ≤ 0xdfff then
          (Char.ofNat (0x10000 + (unit - 0xd800) * 0x400 + (low - 0xdc00)), more)
        else (Char.ofNat 0xfffd, rest)
      | none => (Char.ofNat 0xfffd, rest)
    | _ => (Char.ofNat 0xfffd, rest)
  else if 0xdc00 ≤ unit && unit ≤ 0xdfff then (Char.ofNat 0xfffd, rest)
  else (Char.ofNat unit, rest)

/-- The rest of a string, after its opening quote; `done` holds what was read, back to front. -/
def parseString : (fuel : Nat) → (done : List Char) → List Char → Option (String × List Char)
  | 0, _, _ => none
  | _, _, [] => none
  | fuel + 1, done, c :: rest =>
    if c == '\x22' then some (String.ofList done.reverse, rest)
    else if c == '\\' then
      match rest with
      | 'u' :: more =>
        match hexFour? more with
        | some (unit, more) =>
          let (c, more) := unicodeEscape unit more
          parseString fuel (c :: done) more
        | none => none
      | e :: more =>
        match simpleEscape? e with
        | some c => parseString fuel (c :: done) more
        | none => none
      | [] => none
    else if c.toNat < 0x20 then none
    else parseString fuel (c :: done) rest

/-- The digits of an exponent, if the text goes on with a whole one. -/
def exponent? : List Char → Option (Int × List Char)
  | c :: rest =>
    if c == 'e' || c == 'E' then
      let (negative, rest) := Text.takeSign rest
      let (ds, rest) := Text.spanDigits rest
      if ds.isEmpty then none
      else
        let k : Int := Text.digitsValue ds
        some (if negative then -k else k, rest)
    else none
  | [] => none

/-- The decimals after a point, if the text goes on with a point and a digit. -/
def fraction? : List Char → Option (List Char × List Char)
  | '.' :: rest =>
    let (ds, rest) := Text.spanDigits rest
    if ds.isEmpty then none else some (ds, rest)
  | _ => none

/-- A number after its sign: a zero alone or digits that start with another one, then perhaps decimals
and an exponent. -/
def parseNumber (negative : Bool) (s : List Char) : Parsed Json :=
  let (digits, rest) := match s with
    | '0' :: rest => (['0'], rest)
    | s => Text.spanDigits s
  if digits.isEmpty then .error .malformed
  else
    let decimals := fraction? rest
    let rest := (decimals.map (·.2)).getD rest
    let power := exponent? rest
    let rest := (power.map (·.2)).getD rest
    if decimals.isNone && power.isNone then
      if Text.maxWholeDigits < digits.length then .error (.excess (.digits digits.length))
      else
        let n : Int := Text.digitsValue digits
        .ok (.int (if negative then -n else n), rest)
    else
      let ds := (decimals.map (·.1)).getD []
      let k := (power.map (·.1)).getD 0
      .ok (.float (.ofDecimal negative (Text.digitsValue (digits ++ ds)) (k - ds.length)), rest)

/-- The text after a word that has to come first. -/
def dropWord? (word : String) (s : List Char) : Option (List Char) :=
  if word.toList.isPrefixOf s then some (s.drop word.length) else none

/-- The words that stand for values. -/
def words : List (String × Json) :=
  [("null", .null), ("true", .bool true), ("false", .bool false), ("NaN", .float (.nan false)),
    ("Infinity", .float (.infinity false)), ("-Infinity", .float (.infinity true))]

/-- A value that is a word. -/
def parseWord? (s : List Char) : Option (Json × List Char) :=
  words.findSome? fun (word, value) => (dropWord? word s).map (value, ·)

mutual

/-- A value that starts with the first character; `room` is the depth that is left for it. -/
def parseValue : (fuel room : Nat) → List Char → Parsed Json
  | 0, _, _ => .error .malformed
  | fuel + 1, room, s =>
    match parseWord? s with
    | some found => .ok found
    | none =>
      match s with
      | '\x22' :: rest =>
        match parseString (rest.length + 1) [] rest with
        | some (text, rest) => .ok (.str text, rest)
        | none => .error .malformed
      | '[' :: rest =>
        match room, skipBlanks rest with
        | 0, _ => .error (.excess (.depth .arr))
        | _, ']' :: rest => .ok (.arr [], rest)
        | room + 1, rest => parseItems fuel room [] rest
      | '\x7b' :: rest =>
        match room, skipBlanks rest with
        | 0, _ => .error (.excess (.depth .obj))
        | _, '\x7d' :: rest => .ok (.obj [], rest)
        | room + 1, rest => parseMembers fuel room [] rest
      | '-' :: rest => parseNumber true rest
      | s => parseNumber false s

/-- The items of an array from the next one on; `done` holds those read, back to front. -/
def parseItems : (fuel room : Nat) → (done : List Json) → List Char → Parsed Json
  | 0, _, _, _ => .error .malformed
  | fuel + 1, room, done, s =>
    match parseValue fuel room s with
    | .error e => .error e
    | .ok (item, rest) =>
      match skipBlanks rest with
      | ',' :: rest => parseItems fuel room (item :: done) (skipBlanks rest)
      | ']' :: rest => .ok (.arr (item :: done).reverse, rest)
      | _ => .error .malformed

/-- The members of an object from the next one on, after those of `done`. -/
def parseMembers : (fuel room : Nat) → (done : List (String × Json)) → List Char → Parsed Json
  | 0, _, _, _ => .error .malformed
  | fuel + 1, room, done, s =>
    match s with
    | '\x22' :: rest =>
      match parseString (rest.length + 1) [] rest with
      | none => .error .malformed
      | some (key, rest) =>
        match skipBlanks rest with
        | ':' :: rest =>
          match parseValue fuel room (skipBlanks rest) with
          | .error e => .error e
          | .ok (value, rest) =>
            let done := setMember key value done
            match skipBlanks rest with
            | ',' :: rest => parseMembers fuel room done (skipBlanks rest)
            | '\x7d' :: rest => .ok (.obj done, rest)
            | _ => .error .malformed
        | _ => .error .malformed
    | _ => .error .malformed

end

/-- Reads a text that is one JSON value, with blanks around it. Every value takes at least one
character, so twice the length of the text bounds the steps. -/
def parse (text : String) : Except ParseError Json :=
  let s := text.toList
  match s with
  | '\ufeff' :: _ => .error .malformed
  | _ =>
    match parseValue (2 * s.length + 1) maxDepth (skipBlanks s) with
    | .error e => .error e
    | .ok (value, rest) => if (skipBlanks rest).isEmpty then .ok value else .error .malformed

end ContainerLaunch.Json

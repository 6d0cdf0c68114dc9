import ContainerLaunch.Json.Basic
import ContainerLaunch.Binary64.Decimal
import ContainerLaunch.Text.Quoted
/-!
# The text of a JSON value

`Json.text` is what stands for a value in a command line or a script: a string is itself, everything
else is shown by `Json.shown`, where strings are quoted. `Json.ascii` writes a value as JSON in ASCII.
-/

namespace ContainerLaunch.Json

mutual

/-- A value as it is shown inside another one. -/
def shown : Json → String
  | .null => "None"
  | .bool true => "True"
  | .bool false => "False"
  | .int n => toString n
  | .float x => x.toShortest
  | .str s => Text.quoted s
  | .arr items => "[" ++ String.intercalate ", " (shownItems items) ++ "]"
  | .obj members => "\x7b" ++ String.intercalate ", " (shownMembers members) ++ "\x7d"

/-- Each value of a list. -/
def shownItems : List Json → List String
  | [] => []
  | item :: rest => shown item :: shownItems rest

/-- Each member with its key. -/
def shownMembers : List (String × Json) → List String
  | [] => []
  | (key, value) :: rest => (Text.quoted key ++ ": " ++ shown value) :: shownMembers rest

end

/-- The text of a value. -/
def text : Json → String
  | .str s => s
  | value => shown value

/-! ## Writing JSON -/

/-- A code unit of UTF-16 as an escape. -/
def unitEscape (n : Nat) : List Char := '\\' :: 'u' :: Text.hexDigits 4 n

/-- One character inside a JSON string, in ASCII. -/
def asciiChar (c : Char) : List Char :=
  let n := c.toNat
  if c == '\x22' || c == '\\' then ['\\', c]
  else if c == '\n' then ['\\', 'n']
  else if c == '\r' then ['\\', 'r']
  else if c == '\t' then ['\\', 't']
  else if n == 0x08 then ['\\', 'b']
  else if n == 0x0c then ['\\', 'f']
  else if 0x20 ≤ n && n ≤ 0x7e then [c]
  else if n < 0x10000 then unitEscape n
  else unitEscape (0xd800 + (n - 0x10000) / 0x400) ++ unitEscape (0xdc00 + (n - 0x10000) % 0x400)

/-- A JSON string in ASCII. -/
def asciiString (s : String) : String :=
  String.ofList ('\x22' :: s.toList.flatMap asciiChar ++ ['\x22'])

mutual

/-- The value as JSON in ASCII, with a blank after each comma and colon. -/
def ascii : Json → String
  | .null => "null"
  | .bool true => "true"
  | .bool false => "false"
  | .int n => toString n
  | .float x => x.toShortest
  | .str s => asciiString s
  | .arr items => "[" ++ String.intercalate ", " (asciiItems items) ++ "]"
  | .obj members => "\x7b" ++ String.intercalate ", " (asciiMembers members) ++ "\x7d"

/-- Each value of a list. -/
def asciiItems : List Json → List String
  | [] => []
  | item :: rest => ascii item :: asciiItems rest

/-- Each member with its key. -/
def asciiMembers : List (String × Json) → List String
  | [] => []
  | (key, value) :: rest => (asciiString key ++ ": " ++ ascii value) :: asciiMembers rest

end

end ContainerLaunch.Json

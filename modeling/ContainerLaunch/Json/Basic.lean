import ContainerLaunch.Binary64.Basic
/-!
# JSON values

What a daemon notice is made of, and what a loosely typed argument may be. Whole numbers and
floating-point numbers are told apart; the members of an object keep their order, each key once.
-/

namespace ContainerLaunch

/-- A JSON value. -/
inductive Json where
  | null
  | bool (b : Bool)
  | int (n : Int)
  | float (x : Binary64)
  | str (s : String)
  | arr (items : List Json)
  | obj (members : List (String × Json))
  deriving Inhabited

namespace Json

/-- The kinds of value. -/
inductive Kind where
  | null | bool | int | float | str | arr | obj
  deriving DecidableEq, Repr

/-- The kind of a value. -/
def kind : Json → Kind
  | .null => .null
  | .bool _ => .bool
  | .int _ => .int
  | .float _ => .float
  | .str _ => .str
  | .arr _ => .arr
  | .obj _ => .obj

/-- The name of a kind in error messages. -/
def Kind.name : Kind → String
  | .null => "NoneType"
  | .bool => "bool"
  | .int => "int"
  | .float => "float"
  | .str => "str"
  | .arr => "list"
  | .obj => "dict"

/-- Whether the value counts as given: not null, false, zero, or empty. -/
def isTruthy : Json → Bool
  | .null => false
  | .bool b => b
  | .int n => n != 0
  | .float x => !x.isZero
  | .str s => !s.isEmpty
  | .arr items => !items.isEmpty
  | .obj members => !members.isEmpty

/-- The whole number that a value is equal to. -/
def integer? : Json → Option Int
  | .bool b => some (if b then 1 else 0)
  | .int n => some n
  | .float x => x.toInt?
  | _ => none

/-- The member of an object under a key. -/
def member? (members : List (String × Json)) (key : String) : Option Json := members.lookup key

/-- The member under a key, null if there is none. -/
def memberOrNull (members : List (String × Json)) (key : String) : Json :=
  (member? members key).getD .null

/-- The first of two values that counts as given, and the second if none does. -/
def orElse (first second : Json) : Json := if first.isTruthy then first else second

/-- Sets a member: in its place if the key is there, else at the end. -/
def setMember (key : String) (value : Json) : List (String × Json) → List (String × Json)
  | [] => [(key, value)]
  | (k, v) :: rest => if k = key then (k, value) :: rest else (k, v) :: setMember key value rest

end Json

end ContainerLaunch

import ContainerLaunch.Host.Ip
import ContainerLaunch.Host.Label
/-!
# Host names

A host name is its labels with dots between them, and perhaps a dot at the end. Beside the full stop
there are three other dots, which mean the same. `encode` writes a name in ASCII, `decode` as it reads.
-/

namespace ContainerLaunch.Host.Name

/-- A dot between labels. -/
def isDot (c : Char) : Bool :=
  c == '.' || c.toNat == 0x3002 || c.toNat == 0xff0e || c.toNat == 0xff61

/-- The labels of a name. The last one is empty if the name ends in a dot. -/
def labels (name : List Char) : List (List Char) :=
  Text.pieces '.' (name.map fun c => if isDot c then '.' else c)

/-- A name whose labels are rewritten one by one, with or without a dot at its end. -/
def mapLabels (f : List Char → Except HostError (List Char)) (name : List Char) :
    Except HostError (List Char) := do
  if Label.maxNameLength < name.length then throw .nameTooLong
  if name.isEmpty then throw .emptyName
  let parts := labels name
  let endsInDot := parts.getLast? == some []
  let written ← (if endsInDot then parts.dropLast else parts).mapM f
  return ['.'].intercalate written ++ (if endsInDot then ['.'] else [])

/-- The name in ASCII. -/
def encode (name : List Char) : Except HostError (List Char) := do
  let written ← mapLabels Label.encode name
  let limit :=
    if written.getLast? == some '.' then Label.maxNameLength else Label.maxNameLength - 1
  if limit < written.length then throw .nameTooLong
  return written

/-- The name as it reads. -/
def decode (name : List Char) : Except HostError (List Char) := mapLabels Label.decode name

end ContainerLaunch.Host.Name

import ContainerLaunch.Json.Display
import ContainerLaunch.Path
import ContainerLaunch.Shell.Quote
/-!
# Launch scripts

The script that runs inside the container: it exports the environment, links resources into the
working directory and at last replaces itself by the command. Values, paths and words are quoted for
the shell. Variables that describe the installation of the host are never exported: they would shadow
what the image ships.

The calls that add lines take any values. A call that fails says why, and may have added the line
that was already certain.
-/

namespace ContainerLaunch

/-- A script as its lines. -/
structure Script where
  lines : List String
  deriving DecidableEq, Repr, Inhabited

/-- Why lines cannot be written. -/
inductive ScriptError where
  | notText (kind : Json.Kind)
  | notPath (kind : Json.Kind)
  | notWord (index : Nat) (kind : Json.Kind)
  | notWords
  | notList (kind : Json.Kind)
  | notKey (kind : Json.Kind)
  /-- A text or a list, whose items have numbers and no names. -/
  | notNamed (kind : Json.Kind)
  deriving DecidableEq, Repr

/-- The wording of a script error. -/
def ScriptError.message : ScriptError → String
  | .notText kind => "expected string or bytes-like object, got '" ++ kind.name ++ "'"
  | .notPath kind => "expected str, bytes or os.PathLike object, not " ++ kind.name
  | .notWord index kind =>
    "sequence item " ++ toString index ++ ": expected str instance, " ++ kind.name ++ " found"
  | .notWords => "can only join an iterable"
  | .notList kind => "'" ++ kind.name ++ "' object is not iterable"
  | .notKey kind => "unhashable type: '" ++ kind.name ++ "'"
  | .notNamed .str => "string indices must be integers, not 'str'"
  | .notNamed kind => kind.name ++ " indices must be integers or slices, not str"

namespace Script

/-- The name of the script inside the working directory. -/
def fileName : String := "launch_container.sh"

/-- The variables of the host's installation. -/
def hostVariables : List String :=
  ["HADOOP_YARN_HOME", "HADOOP_COMMON_HOME", "HADOOP_HDFS_HOME", "HADOOP_CONF_DIR", "JAVA_HOME"]

/-- The variables that are not exported: those of the host, and the one that carried the image
reference, if that has a name. -/
def excludedVariables (imageVariable : String) : List String :=
  if imageVariable.isEmpty || hostVariables.contains imageVariable then hostVariables
  else hostVariables ++ [imageVariable]

/-- The script that does nothing yet. -/
def empty : Script := ⟨["#!/bin/bash", ""]⟩

/-- Adds a line. -/
def push (s : Script) (line : String) : Script := ⟨s.lines ++ [line]⟩

/-- The text of the script. -/
def render (s : Script) : String := String.intercalate "\n" s.lines ++ "\n"

/-- The characters of a text, each as a text. -/
def letters (s : String) : List String := s.toList.map fun c => String.ofList [c]

/-- The items of a value that is gone through item by item. -/
def items : Json → Except ScriptError (List Json)
  | .arr items => .ok items
  | .str s => .ok ((letters s).map .str)
  | .obj members => .ok (members.map fun m => .str m.1)
  | value => .error (.notList value.kind)

/-- A value quoted for the shell. What does not count as given is the empty word. -/
def quoteValue : Json → Except ScriptError String
  | .str s => .ok (Shell.quote s)
  | value => if value.isTruthy then .error (.notText value.kind) else .ok (Shell.quote "")

@[simp] theorem quoteValue_str (s : String) : quoteValue (.str s) = .ok (Shell.quote s) := rfl

/-- The script after a call, and what went wrong in it. -/
abbrev Outcome := Script × Option ScriptError

/-- Exports a variable. -/
def env (s : Script) (key value : Json) : Outcome :=
  match quoteValue value with
  | .ok word => (s.push ("export " ++ key.text ++ "=" ++ word), none)
  | .error e => (s, some e)

/-- The line that makes a directory. -/
def makeDirectoryLine (directory : String) : String := "mkdir -p " ++ Shell.quote directory

/-- Makes the directory that a link lies in, if its name has one. -/
def makeParent (s : Script) (link : String) : Script :=
  let parent := Path.directory link
  if parent.isEmpty then s else s.push (makeDirectoryLine parent)

/-- Links a path into place. -/
def symlink (s : Script) (path link : Json) : Outcome :=
  match link with
  | .str name =>
    let s := s.makeParent name
    match quoteValue path with
    | .ok word => (s.push ("ln -sf " ++ word ++ " " ++ Shell.quote name), none)
    | .error e => (s, some e)
  | link => (s, some (.notPath link.kind))

/-- The words of a command, counted from `index`. -/
def wordsFrom (index : Nat) : List Json → Except ScriptError (List String)
  | [] => .ok []
  | .str word :: rest => (wordsFrom (index + 1) rest).map (word :: ·)
  | value :: _ => .error (.notWord index value.kind)

/-- The words of a command, with single blanks between them. -/
def commandText (command : Json) : Except ScriptError String :=
  match items command with
  | .error _ => .error .notWords
  | .ok items => (wordsFrom 0 items).map (String.intercalate " ")

/-- Replaces the script by a command. -/
def command (s : Script) (argv : Json) : Outcome :=
  match commandText argv with
  | .ok text => (s.push ("exec /bin/bash -c " ++ Shell.quote text), none)
  | .error e => (s, some e)

/-! ## The whole script -/

/-- Goes on with a script unless a call has failed. -/
def andThen (o : Outcome) (next : Script → Outcome) : Outcome :=
  match o.2 with
  | none => next o.1
  | some _ => o

/-- Members in the order of their keys, by code points. -/
def sortMembers (members : List (String × Json)) : List (String × Json) :=
  members.mergeSort fun a b => a.1 ≤ b.1

/-- Exports variables in the given order. -/
def exportAll (s : Script) : List (String × Json) → Outcome
  | [] => (s, none)
  | (key, value) :: rest =>
    andThen (s.env (.str key) (.str value.text)) fun s => exportAll s rest

/-- Links a path under several names in the given order. -/
def linkAll (s : Script) (path : String) : List Json → Outcome
  | [] => (s, none)
  | link :: rest =>
    andThen (s.symlink (.str path) (.str link.text)) fun s => linkAll s path rest

/-- Links resources in the given order. -/
def linkResources (s : Script) : List (String × Json) → Outcome
  | [] => (s, none)
  | (path, links) :: rest =>
    match items links with
    | .error e => (s, some e)
    | .ok links => andThen (s.linkAll path links) fun s => linkResources s rest

/-- The script of a launch: variables and resources in the order of their names, so that equal inputs
give equal scripts, the links of one resource in the given order, and last the command. -/
def build (environment resources : List (String × Json)) (argv : Json) (excluded : List String) :
    Except ScriptError Script :=
  let exported := (sortMembers environment).filter fun m => !excluded.contains m.1
  let (script, failure) :=
    andThen (exportAll empty exported) fun s =>
      andThen (linkResources s (sortMembers resources)) fun s => s.command argv
  match failure with
  | none => .ok script
  | some e => .error e

/-- The members of a loosely typed object. What does not count as given has none, and a name that is
excluded is never looked up. -/
def entries (value : Json) (excluded : List String) : Except ScriptError (List (String × Json)) := do
  match value with
  | .obj members => return members
  | value =>
    if !value.isTruthy then return []
    if (← items value).all fun name => excluded.contains name.text then return []
    throw (.notNamed value.kind)

/-- The script of a launch from loosely typed variables and resources. -/
def ofValues (environment resources argv : Json) (excluded : List String) :
    Except ScriptError Script := do
  build (← entries environment excluded) (← entries resources []) argv excluded

/-- The names in a value that lists what is not exported. -/
def exclusions (value : Json) : Except ScriptError (List String) := do
  let items ← items value
  items.filterMapM fun item =>
    match item with
    | .str name => .ok (some name)
    | .arr _ | .obj _ => .error (.notKey item.kind)
    | _ => .ok none

end Script

end ContainerLaunch

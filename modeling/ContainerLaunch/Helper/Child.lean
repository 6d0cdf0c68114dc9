import ContainerLaunch.Error
import ContainerLaunch.Helper.Result
/-!
# Child processes

A command runs as a child with exactly the given environment. A child that was spawned is always left
in order: it is killed if waiting for it fails, and then its context is closed.
-/

namespace ContainerLaunch.Helper

/-- A command and the environment of the child that runs it. -/
structure Call where
  argv : List String
  environment : List (String × String)
  deriving DecidableEq, Repr, Inhabited

/-- How a child behaves: whether it can be spawned, and what waiting for it brings. -/
structure ChildScript where
  spawnFailure : Option Failure := none
  waitFailure : Option Failure := none
  exitCode : Int := 0
  output : Option String := some ""
  deriving DecidableEq, Repr, Inhabited

/-- What is done with a child. -/
inductive ChildStep where
  | openContext
  | wait
  | kill
  | closeContext (failure : Option Failure)
  deriving DecidableEq, Repr

/-- A child's life. -/
structure ChildRun where
  steps : List ChildStep
  result : Except Failure Result
  logs : List LogRecord

namespace Call

/-- The name of the program in a message. -/
def program (call : Call) : String := call.argv.head?.getD "<empty>"

/-- Runs the command. A refusal to spawn is a result, every other failure is passed on. -/
def run (call : Call) (child : ChildScript) : ChildRun :=
  match child.spawnFailure with
  | some f =>
    if f.isSpawnRefusal then
      { steps := []
        result := .ok (.failedToStart f.message)
        logs := [.error .helper ("Failed to start " ++ call.program ++ ": " ++ f.message)] }
    else { steps := [], result := .error f, logs := [] }
  | none =>
    match child.waitFailure with
    | some f =>
      { steps := [.openContext, .wait, .kill, .closeContext (some f)], result := .error f, logs := [] }
    | none =>
      { steps := [.openContext, .wait, .closeContext none]
        result := .ok { exitCode := child.exitCode, output := child.output.getD "" }
        logs := [] }

end Call

end ContainerLaunch.Helper

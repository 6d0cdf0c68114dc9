import ContainerLaunch.Log
import ContainerLaunch.Outcome
import ContainerLaunch.Request
/-!
# Results of helper calls

A call either ran, with an exit code and its combined output, or could not be started at all.
`Result.settleRemoval` says when a removal counts as done although it failed, and `Result.classify`
turns the deciding result of a launch into its outcome.
-/

namespace ContainerLaunch.Helper

/-- What a helper call came to. -/
structure Result where
  exitCode : Int := 0
  output : String := ""
  startError : Option String := none
  deriving DecidableEq, Repr, Inhabited

namespace Result

/-- A helper that could not be started. -/
def failedToStart (message : String) : Result :=
  { exitCode := ExitCode.startFailure, output := "", startError := some message }

/-- Whether the helper ran. -/
def started (r : Result) : Bool := r.startError.isNone

/-- Whether the helper ran and succeeded. -/
def succeeded (r : Result) : Bool := r.started && r.exitCode == 0

/-- What the daemon says about a container that is gone or about to go. -/
def goneMarkers : List String := ["No such container", "is already in progress"]

/-- Whether one text occurs in another. -/
def occursIn (part : List Char) : List Char → Bool
  | [] => part.isEmpty
  | c :: rest => part.isPrefixOf (c :: rest) || occursIn part rest

/-- Whether the call failed because the container is gone already. -/
def saysGone (r : Result) : Bool :=
  r.started && r.exitCode != 0 && goneMarkers.any fun m => occursIn m.toList r.output.toList

/-- The result of a removal: a container that is gone already counts as removed. -/
def settleRemoval (r : Result) : Result := if r.saysGone then { output := r.output } else r

/-- What is logged about a removal. -/
def removalLog (containerId : String) (r : Result) : List LogRecord :=
  if r.saysGone then [.info .helper ("Container " ++ containerId ++ " already removed")] else []

/-- What is logged about any call. -/
def callLog (containerId : String) (r : Result) : List LogRecord :=
  if r.started then
    [.debug .helper
      ("Exit code " ++ toString r.exitCode ++ " from " ++ containerId ++ ", output: " ++ r.output)]
  else []

/-- What the framework is told about a failed launch. -/
def failureText (containerId : String) (r : Result) : String :=
  "Exception from container-launch.\nContainer id: " ++ containerId ++ "\nExit code: " ++
    toString r.exitCode ++ "\nOutput: " ++ r.output

/-- What the framework is told about a container that ended on request. -/
def killText (code : Int) : String :=
  "Container killed on request. Exit code is " ++ toString code

/-- The outcome that a deciding result stands for. A helper that could not be started leaves nothing
in a container that diagnostics could be attached to. -/
def classify (containerId : String) (r : Result) : Outcome × List LogRecord :=
  match r.startError with
  | some message =>
    ({ exitCode := ExitCode.startFailure, exitClass := .invocationFailure },
      [.error .launch ("Could not start helper for " ++ containerId ++ ": " ++ message)])
  | none =>
    let exitClass := ExitClass.ofCode r.exitCode
    let code := toString r.exitCode
    let warning : LogRecord :=
      .warning .launch ("Exit code from container " ++ containerId ++ " is : " ++ code)
    if exitClass = .normal then ({ exitCode := r.exitCode, exitClass }, [])
    else if exitClass.isKill then
      ({ exitCode := r.exitCode, exitClass, diagnostics := some (killText r.exitCode) }, [warning])
    else
      ({ exitCode := r.exitCode, exitClass, diagnostics := some (failureText containerId r) },
        [warning,
          .error .launch
            ("Exception from container-launch with container ID: " ++ containerId ++
              " and exit code: " ++ code ++ "\n" ++ r.output)])

end Result

end ContainerLaunch.Helper

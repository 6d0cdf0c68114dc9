import ContainerLaunch.Json.Basic
/-!
# Outcomes

The exit code of a launch is sorted into a class, and the class decides how loudly the outcome is
reported.
-/

namespace ContainerLaunch

namespace ExitCode

def success : Int := 0
def startFailure : Int := -1
/-- The code of a process killed by signal 9. -/
def forceKilled : Int := 128 + 9
/-- The code of a process terminated by signal 15. -/
def terminated : Int := 128 + 15
/-- The code of a container that was given up before its launch: that of one stopped on request. -/
def inactive : Int := terminated

/-- The codes by name. -/
def named : List (String × Int) :=
  [("SUCCESS", success), ("START_FAILURE", startFailure), ("FORCE_KILLED", forceKilled),
    ("TERMINATED", terminated), ("INACTIVE", inactive)]

end ExitCode

/-- What an exit code means. -/
inductive ExitClass where
  | normal | forcedKill | requestedTermination | alreadyInactive | invocationFailure
  deriving DecidableEq, Repr, Inhabited

namespace ExitClass

/-- The classes. -/
def all : List ExitClass :=
  [.normal, .forcedKill, .requestedTermination, .alreadyInactive, .invocationFailure]

/-- The name of a class. -/
def name : ExitClass → String
  | .normal => "normal"
  | .forcedKill => "forced_kill"
  | .requestedTermination => "requested_termination"
  | .alreadyInactive => "already_inactive"
  | .invocationFailure => "invocation_failure"

/-- The class of a name. -/
def ofName? (name : String) : Option ExitClass := all.find? fun c => c.name == name

/-- The class of an exit code. A container that was given up before its launch has none. -/
def ofCode (code : Int) : ExitClass :=
  if code = ExitCode.success then .normal
  else if code = ExitCode.forceKilled then .forcedKill
  else if code = ExitCode.terminated then .requestedTermination
  else .invocationFailure

/-- The class of a loosely typed exit code. What is no whole number is no code of success. -/
def ofValue (code : Json) : ExitClass := (code.integer?.map ofCode).getD .invocationFailure

/-- Whether the container ended because someone asked for it. -/
def isKill : ExitClass → Bool
  | .forcedKill | .requestedTermination => true
  | _ => false

end ExitClass

/-- How a launch ended. -/
structure Outcome where
  exitCode : Int
  exitClass : ExitClass
  diagnostics : Option String := none
  deriving DecidableEq, Repr, Inhabited

/-- Whether the container ended because someone asked for it. -/
def Outcome.killedOnRequest (o : Outcome) : Bool := o.exitClass.isKill

end ContainerLaunch

import ContainerLaunch.Binary64.Basic
/-!
# Lifecycle notices

What the daemon tells about one container: that it was started, that it died or was stopped, that it
was removed.
-/

namespace ContainerLaunch.Lifecycle

/-- What happened to a container. -/
inductive Change where
  | started | died | stopped | removed
  deriving DecidableEq, Repr, Inhabited

namespace Change

/-- The changes. -/
def all : List Change := [.started, .died, .stopped, .removed]

/-- The name of a change. -/
def name : Change → String
  | .started => "started"
  | .died => "died"
  | .stopped => "stopped"
  | .removed => "removed"

/-- The change of a name. -/
def ofName? (name : String) : Option Change := all.find? fun c => c.name == name

/-- The change that one of the daemon's actions means. Other actions mean none. -/
def ofAction? (action : String) : Option Change :=
  if action = "start" then some .started
  else if action = "die" then some .died
  else if action = "stop" then some .stopped
  else if action = "destroy" then some .removed
  else none

/-- Whether the change leaves a container behind that does not run. -/
def leavesStopped : Change → Bool
  | .died | .stopped => true
  | _ => false

end Change

/-- A notice about one container, with the time in seconds. -/
structure Notice where
  containerId : String
  change : Change
  time : Binary64
  deriving DecidableEq, Repr, Inhabited

end ContainerLaunch.Lifecycle

/-!
# Log records

What the library says about its work, in order. Procedures carry their records along; which of them
are kept is decided by a level.
-/

namespace ContainerLaunch

/-- How serious a record is. -/
inductive Level where
  | debug | info | warning | error
  deriving DecidableEq, Repr, Inhabited

/-- Levels in ascending order. -/
def Level.rank : Level → Nat
  | .debug => 0
  | .info => 1
  | .warning => 2
  | .error => 3

/-- The part of the library that a record comes from. -/
inductive Component where
  | image | client | script | helper | watch | course | launch | launcher
  deriving DecidableEq, Repr, Inhabited

/-- One record. -/
structure LogRecord where
  level : Level
  component : Component
  message : String
  deriving DecidableEq, Repr, Inhabited

namespace LogRecord

def debug (component : Component) (message : String) : LogRecord := ⟨.debug, component, message⟩
def info (component : Component) (message : String) : LogRecord := ⟨.info, component, message⟩
def warning (component : Component) (message : String) : LogRecord := ⟨.warning, component, message⟩
def error (component : Component) (message : String) : LogRecord := ⟨.error, component, message⟩

/-- The records that are kept at a level. -/
def keep (level : Level) (records : List LogRecord) : List LogRecord :=
  records.filter fun r => level.rank ≤ r.level.rank

end LogRecord

end ContainerLaunch

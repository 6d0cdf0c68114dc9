import ContainerLaunch.Settings.Basic
/-!
# Shared settings

Settings without keywords are resolved once and then shared. Whoever was given them keeps them: a
reset only makes the next use resolve new ones. An instance is known by its number, so that an
assignment reaches everyone who shares it.
-/

namespace ContainerLaunch.Settings

/-- The settings that were resolved so far, oldest first, and the one that is shared now. -/
structure Cache where
  instances : Array Settings := #[]
  current : Option Nat := none
  deriving Inhabited

namespace Cache

/-- The number of the shared instance, resolved from the variables if there is none. -/
def get (cache : Cache) (vars : Variables) : Nat × Cache :=
  match cache.current with
  | some n => (n, cache)
  | none =>
    let n := cache.instances.size
    (n, { instances := cache.instances.push (resolve {} vars), current := some n })

/-- Forgets which instance is shared. -/
def reset (cache : Cache) : Cache := { cache with current := none }

/-- Assigns to one instance. -/
def assign (cache : Cache) (n : Nat) (a : Assignment) : Cache :=
  { cache with instances := cache.instances.modify n (·.assign a) }

/-- The settings of an instance. -/
def settings? (cache : Cache) (n : Nat) : Option Settings := cache.instances[n]?

end Cache

end ContainerLaunch.Settings

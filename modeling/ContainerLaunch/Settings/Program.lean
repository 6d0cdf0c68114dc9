import ContainerLaunch.Settings.Cache
/-!
# Settings in a program

A running program has variables and shares its settings. A launcher that is built without settings of its
own is given the shared instance, and keeps it.
-/

namespace ContainerLaunch.Settings

/-- What a program does with its settings; assignments are to those that are shared. -/
inductive Action where
  | set (name value : String)
  | unset (name : String)
  | reset
  | get
  | launcher
  | assign (a : Assignment)
  deriving DecidableEq, Repr

/-- A program, with the instances that its launchers were built with, oldest first. -/
structure Program where
  vars : Variables
  cache : Cache := {}
  launchers : List Nat := []
  deriving Inhabited

namespace Program

/-- The shared instance. -/
def use (p : Program) : Nat × Program :=
  let (n, cache) := p.cache.get p.vars
  (n, { p with cache })

/-- The instance that is used, if one is, and the program afterwards. -/
def step (p : Program) : Action → Option Nat × Program
  | .set name value => (none, { p with vars := p.vars.set name value })
  | .unset name => (none, { p with vars := p.vars.unset name })
  | .reset => (none, { p with cache := p.cache.reset })
  | .get =>
    let (n, p) := p.use
    (some n, p)
  | .launcher =>
    let (n, p) := p.use
    (some n, { p with launchers := p.launchers ++ [n] })
  | .assign a =>
    let (n, p) := p.use
    (some n, { p with cache := p.cache.assign n a })

end Program

end ContainerLaunch.Settings

import ContainerLaunch.Json.Display
/-!
# Bind mounts

Every directory is mounted at its own path. Order is kept, and equal directories give equal mounts.
-/

namespace ContainerLaunch

/-- A mount whose path on the host and in the container is the same. -/
structure Mount where
  path : String
  deriving DecidableEq, Repr, Inhabited

namespace Mount

def hostPath (m : Mount) : String := m.path
def containerPath (m : Mount) : String := m.path

/-- The client's arguments for one mount. -/
def args (m : Mount) : List String := ["-v", m.hostPath ++ ":" ++ m.containerPath]

/-- The client's arguments for several mounts. -/
def allArgs (mounts : List Mount) : List String := mounts.flatMap args

/-- The mounts of directories. -/
def ofPaths (paths : List String) : List Mount := paths.map Mount.mk

/-- The mounts of directories that may be given as any values. -/
def ofValues (dirs : List Json) : List Mount := ofPaths (dirs.map Json.text)

/-- The user's name is looked up in the host's table of users, mounted to be read only. -/
def passwdArgs : List String := ["-v", "/etc/passwd:/etc/passwd:ro"]

end Mount

end ContainerLaunch

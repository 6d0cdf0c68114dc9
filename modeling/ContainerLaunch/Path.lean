import ContainerLaunch.Text.Blank
/-!
# Paths

A path is a text with slashes; nothing is looked up and nothing is normalised.
-/

namespace ContainerLaunch.Path

/-- What stands before the last slash, that slash included. -/
def head (path : List Char) : List Char := (path.reverse.dropWhile (· != '/')).reverse

/-- The directory of a path: without its slashes at the end, unless it consists of slashes. -/
def directoryChars (path : List Char) : List Char :=
  let h := head path
  if h.all (· == '/') then h else Text.dropTrailing '/' h

/-- The directory of a path, empty if the path has no slash. -/
def directory (path : String) : String := String.ofList (directoryChars path.toList)

/-- A name inside a directory. -/
def join (directory name : String) : String :=
  if directory.isEmpty || directory.toList.getLast? == some '/' then directory ++ name
  else directory ++ "/" ++ name

end ContainerLaunch.Path

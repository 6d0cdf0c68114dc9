/-!
# Quoting for a shell

A word that a shell reads as it stands is left alone; any other one is put between single quotes, and
a single quote inside it between double ones.
-/

namespace ContainerLaunch.Shell

/-- A character that means nothing to a shell: an ASCII letter or digit, or one of `_ @ % + = : , . -` and the slash. -/
def isPlain (c : Char) : Bool :=
  c.isAlphanum || c == '_' || c == '@' || c == '%' || c == '+' || c == '=' || c == ':' || c == ',' ||
    c == '.' || c == '/' || c == '-'

/-- The spelling of a single quote inside single quotes. -/
def quoteSpelling : List Char := ['\x27', '\x22', '\x27', '\x22', '\x27']

/-- One character between single quotes. -/
def quoteChar (c : Char) : List Char := if c = '\x27' then quoteSpelling else [c]

/-- The characters of a word as a shell has to see them. -/
def quoteChars (word : List Char) : List Char :=
  if word.isEmpty then ['\x27', '\x27']
  else if word.all isPlain then word
  else '\x27' :: word.flatMap quoteChar ++ ['\x27']

/-- The word as a shell has to see it. -/
def quote (word : String) : String := String.ofList (quoteChars word.toList)

end ContainerLaunch.Shell

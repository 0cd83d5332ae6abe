import PlainShell.Environment
import PlainShell.Host

/-!
Finding a program by name. The directories come from the variable `PATH` at every search, and the
first one under which the name exists decides. The name is always placed under a directory, also
when it begins with a slash. A relative directory counts from the working directory, if that is
known.
-/

namespace PlainShell.SearchPath

def variableName : Text := "PATH"

def separator : Symbol := ':'

/-- The directories to search, in order. Without the variable, or when it is empty, there are none.
-/
def directories (environment : Environment) : List Text :=
  match environment.filled? variableName with
  | some value => value.splitOn separator
  | none => []

/-- The name under a directory, cleaned. An empty directory leaves the name as it is. -/
def place (directory name : Text) : Text :=
  if directory = [] then Path.clean name
  else
    Path.clean (Text.dropEndWhile (· = Path.slash) directory ++ [Path.slash] ++
      name.dropWhile (· = Path.slash))

/-- Where a directory of the search would have the name. -/
def candidate (working : Option Text) (name directory : Text) : Text :=
  let placed := place directory name
  match working with
  | none => placed
  | some base => if Path.isAbsolute placed then placed else Path.clean (Path.join base placed)

def search (host : Host) (working : Option Text) (directories : List Text) (name : Text) :
    Option Text :=
  (directories.map (candidate working name)).find? host.has

end PlainShell.SearchPath

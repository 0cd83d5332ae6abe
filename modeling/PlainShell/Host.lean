import PlainShell.Path

/-!
The machine around the shell: its files, the directory the interpreter itself was started in, the
home directory its accounts know for the user, and the way its programs are looked for. There are no
links, so a path names a place by its parts alone, whatever stands on the way there.
-/

namespace PlainShell

/-- What happens when a file is started. -/
inductive Executable where
  | denied
  | fails (number : Int) (reason : Text)
  | interrupted
  | ends (output : Bytes) (status : Int)
  deriving Repr

inductive Node where
  | directory (searchable : Bool)
  | file (content : Executable)
  deriving Repr

/-- The parts of an absolute path, none empty, `.` or `..`. -/
abbrev Place := List Text

/-- How the starts of a system look for their program. Direct ones take the path as it is, as seen
from the interpreter's directory. Those of POSIX have entered their own directory before, and look
for a name without a slash along the search list once more. -/
inductive ProgramLookup where
  | direct
  | posix
  deriving Repr

/-- The files are kept latest first; of several nodes at one place the first counts. -/
structure Host where
  directory : Option Text
  accountHome : Option Text
  files : List (Place × Node)
  programLookup : ProgramLookup
  deriving Repr

namespace Host

/-- A POSIX machine without files. -/
def empty (directory : Option Text) : Host := ⟨directory, none, [], .posix⟩

/-- The path from the root on. A relative path starts at the interpreter's directory, or at the root
when that is gone. -/
def fromRoot (host : Host) (path : Text) : Text :=
  if Path.isAbsolute path then path else host.directory.getD [] ++ [Path.slash] ++ path

/-- The place a path names. The empty path and a path with a NUL name nothing. -/
def locate (host : Host) (path : Text) : Option Place :=
  if path = [] ∨ Text.nul ∈ path then none
  else some (Path.follow true (Path.steps (host.fromRoot path)))

/-- The root is always there. -/
def nodeAt (host : Host) (place : Place) : Option Node :=
  match host.files.lookup place with
  | some node => some node
  | none => if place = [] then some (.directory true) else none

def find? (host : Host) (path : Text) : Option Node := (host.locate path).bind host.nodeAt

def has (host : Host) (path : Text) : Bool := (host.find? path).isSome

/-- Whether the path is a directory that one may work in. -/
def isEnterable (host : Host) (path : Text) : Bool :=
  match host.find? path with
  | some (.directory searchable) => searchable
  | _ => false

/-- The place with the node, below directories made where there was nothing. -/
def put (host : Host) (place : Place) (node : Node) : Host :=
  let above := (List.range place.length).map place.take
  let missing := above.filter fun ancestor => (host.nodeAt ancestor).isNone
  { host with files :=
      (place, node) :: missing.map (fun ancestor => (ancestor, Node.directory true)) ++ host.files }

def add (host : Host) (path : Text) (node : Node) : Host :=
  match host.locate path with
  | some place => host.put place node
  | none => host

/-- The host without the place and all below it; the root itself cannot go. -/
def remove (host : Host) (path : Text) : Host :=
  match host.locate path with
  | some place =>
    { host with files := host.files.filter fun entry => entry.1 = [] || !place.isPrefixOf entry.1 }
  | none => host

end Host

end PlainShell

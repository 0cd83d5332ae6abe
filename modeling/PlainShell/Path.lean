import PlainShell.Text

/-!
Paths and their clean form. A path is an anchor and the parts between its slashes. Cleaning walks
over the parts: empty parts and `.` stay where they are, `..` takes back the part before it. At a
root there is nothing to take back, and at the beginning of a relative path `..` has to stay.
-/

namespace PlainShell

/-- Where a path begins. Exactly two leading slashes are a root of their own; one, or three and
more, are the ordinary root. -/
inductive Anchor where
  | here
  | root
  | twinRoot
  deriving DecidableEq, Repr

namespace Anchor

def text : Anchor → Text
  | .here => ""
  | .root => "/"
  | .twinRoot => "//"

def isRoot : Anchor → Bool
  | .here => false
  | .root | .twinRoot => true

end Anchor

/-- A clean path. -/
structure Path where
  anchor : Anchor
  parts : List Text
  deriving DecidableEq, Repr

namespace Path

def slash : Symbol := '/'

def isAbsolute (path : Text) : Bool := path.head? = some slash

def anchorOf (path : Text) : Anchor :=
  match (path.takeWhile (· = slash)).length with
  | 0 => .here
  | 2 => .twinRoot
  | _ => .root

/-- The parts that lead somewhere. -/
def steps (path : Text) : List Text :=
  (path.splitOn slash).filter fun part => part ≠ [] ∧ part ≠ "."

/-- One step from a place, whose parts are given innermost first. -/
def walk (rooted : Bool) (taken : List Text) (part : Text) : List Text :=
  if part = ".." then
    match taken with
    | [] => if rooted then [] else [part]
    | last :: earlier => if last = ".." then part :: taken else earlier
  else part :: taken

def follow (rooted : Bool) (parts : List Text) : List Text :=
  (parts.foldl (walk rooted) []).reverse

def ofText (path : Text) : Path :=
  ⟨anchorOf path, follow (anchorOf path).isRoot (steps path)⟩

/-- The text of a clean path: no slash at the end unless it is the root, and `.` for the path that
leads nowhere. -/
def text (path : Path) : Text :=
  if path.anchor = .here ∧ path.parts = [] then "."
  else path.anchor.text ++ Text.joined [slash] path.parts

def clean (path : Text) : Text := (ofText path).text

/-- The path as seen from the base. -/
def join (base path : Text) : Text :=
  if isAbsolute path then path
  else if base = [] ∨ base.getLast? = some slash then base ++ path
  else base ++ [slash] ++ path

/-- The clean path that the text means in the working directory; the empty text means the directory
itself. Without a known directory only an absolute path has a meaning. -/
def resolve (directory : Option Text) (path : Text) : Option Text :=
  match directory with
  | none => if isAbsolute path then some (clean path) else none
  | some base =>
    let target := if path = [] then base else path
    some (if isAbsolute target then clean target else clean (join base target))

end Path

end PlainShell

import PlainShell.Text

/-!
Finite tables from names to values. The entries stand in ascending order of the names' code points,
each name once, so that a table has one form and its names come out sorted.
-/

namespace PlainShell

abbrev Table (α : Type) := List (Text × α)

namespace Table

variable {α : Type}

def get? (table : Table α) (name : Text) : Option α := table.lookup name

def insert (name : Text) (value : α) : Table α → Table α
  | [] => [(name, value)]
  | entry :: rest =>
    if name = entry.1 then (name, value) :: rest
    else if name < entry.1 then (name, value) :: entry :: rest
    else entry :: insert name value rest

def erase (name : Text) (table : Table α) : Table α := table.filter (·.1 ≠ name)

def ofList (entries : List (Text × α)) : Table α :=
  entries.foldl (fun table entry => insert entry.1 entry.2 table) []

def names (table : Table α) : List Text := table.map Prod.fst

def size (table : Table α) : Nat := table.length

end Table

end PlainShell

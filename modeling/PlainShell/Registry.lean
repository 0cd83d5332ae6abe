import PlainShell.ShellError
import PlainShell.Table

/-!
The builtins by name. This one table decides what is a builtin, for running a command as well as for
describing one.
-/

namespace PlainShell

/-- What a builtin does when it is run. A script writes its lines and then ends as it says. -/
inductive Handler where
  | echo
  | type
  | exit
  | pwd
  | cd
  | script (lines : List Text) (ending : Except Departure Int)

abbrev Registry := Table Handler

namespace Registry

def stock : Registry :=
  Table.ofList [("echo", .echo), ("type", .type), ("exit", .exit), ("pwd", .pwd), ("cd", .cd)]

/-- The handler under each of the names, in place of what was there. -/
def register (registry : Registry) (names : List Text) (handler : Handler) : Registry :=
  names.foldl (fun table name => table.insert name handler) registry

end Registry

end PlainShell

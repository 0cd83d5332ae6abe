import PlainShell.Table

/-!
The variables that the shell was given, that its user's programs are given, and that it reads its
own settings from. They are read when they are needed, so a change counts from the next use on.
-/

namespace PlainShell

abbrev Environment := Table Text

/-- The value of a variable that is set and not empty. -/
def Environment.filled? (environment : Environment) (name : Text) : Option Text :=
  (environment.get? name).filter (· ≠ [])

end PlainShell

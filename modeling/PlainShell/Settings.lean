import PlainShell.Environment
import PlainShell.Text.Uppercase

/-!
Settings that the environment gives, with their defaults. A variable that is set counts even when it
is empty.
-/

namespace PlainShell

structure Settings where
  prompt : Text
  logLevel : Text
  deriving DecidableEq, Repr

namespace Settings

def ofEnvironment (environment : Environment) : Settings where
  prompt := (environment.get? "MYSHELL_PROMPT").getD "$ "
  logLevel := ((environment.get? "MYSHELL_LOG_LEVEL").getD "WARNING").upper

end Settings

end PlainShell

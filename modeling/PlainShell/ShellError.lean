import PlainShell.Text.Quoted

/-!
What can go wrong, by cause. Each error has the message that the user is shown and the status that a
command ends with because of it. A fault is anything that stops a handler or the shell; a departure
is a way of leaving without a status.
-/

namespace PlainShell

inductive ShellError where
  | plain (message : Text) (code : Int)
  | directory (message : Text) (path : Option Text) (code : Int)
  | directoryNotFound (path : Text)
  | homeUnknown (details : Text)
  | directoryUnknown (details : Option Text)
  | command (name message : Text) (code : Int)
  | commandNotFound (line : Text)
  | externalProgram (name details : Text) (code : Int)
  | inputRead (details : Text)
  deriving DecidableEq, Repr

namespace ShellError

def message : ShellError → Text
  | .plain message _ | .directory message _ _ | .command _ message _ => message
  | .directoryNotFound path => "cd: " ++ path ++ ": No such file or directory"
  | .homeUnknown details => "Failed to find user's home directory " ++ details
  | .directoryUnknown _ => "Failed to get working directory"
  | .commandNotFound line => line ++ ": command not found"
  | .externalProgram name details _ =>
    "Error running external program " ++ name ++ ":" ++ details
  | .inputRead details => "Error reading command: " ++ details

def code : ShellError → Int
  | .plain _ code | .directory _ _ code | .command _ _ code | .externalProgram _ _ code => code
  | .commandNotFound _ => 127
  | .directoryNotFound _ | .homeUnknown _ | .directoryUnknown _ | .inputRead _ => 1

end ShellError

inductive Fault where
  | shell (error : ShellError)
  /-- A failure of the system or of a value, in its own words. -/
  | reported (message : Text)
  /-- A key that a handler looked for in vain. -/
  | missingKey (key : Text)
  /-- A call that left out an argument it needs. -/
  | missingArgument (callee argument : Text)
  /-- A command run without a handler. -/
  | noHandler
  /-- A program argument with a NUL in it, which no program can be given. -/
  | embeddedNul
  /-- A level name that stands for a text and not for a level. -/
  | notALevel (meaning : Text)
  /-- A prompt option whose value was taken for the end of the options. -/
  | emptyPrompt
  /-- The same of the log level. -/
  | emptyLevel
  deriving DecidableEq, Repr

def Fault.message : Fault → Text
  | .shell error => error.message
  | .reported message => message
  | .missingKey key => Quoted.quote key
  | .missingArgument callee argument =>
    callee ++ "() missing 1 required positional argument: " ++ Quoted.quote argument
  | .noHandler => "'NoneType' object is not callable"
  | .embeddedNul => "embedded null byte"
  | .notALevel meaning => "Unknown level: " ++ Quoted.quote meaning
  | .emptyPrompt => "a bytes-like object is required, not 'list'"
  | .emptyLevel => "'list' object has no attribute 'upper'"

inductive Departure where
  | exit (code : Int)
  | interrupt
  | fault (fault : Fault)
  deriving DecidableEq, Repr

end PlainShell

import PlainShell.Program

/-!
The command line of the shell. It reads all of its input, runs the program on a machine without
files, and writes both channels.
-/

namespace PlainShell

/-- The variables that the shell looks at. -/
def watchedVariables : List String := ["PATH", "HOME", "MYSHELL_PROMPT", "MYSHELL_LOG_LEVEL"]

def watchedEnvironment : IO Environment :=
  watchedVariables.foldlM (fun environment name => do
    match ← IO.getEnv name with
    | some value => return environment.insert name value
    | none => return environment) []

partial def readAll (stream : IO.FS.Stream) (taken : ByteArray) : IO ByteArray := do
  let block ← stream.read 65536
  if block.isEmpty then return taken else readAll stream (taken ++ block)

def write (stream : IO.FS.Stream) (octets : Bytes) : IO Unit := do
  stream.write ⟨octets.toArray⟩
  stream.flush

/-- One run of the program on the standard streams, and the status of the process. -/
def perform (arguments : List String) : IO UInt32 := do
  let octets ← readAll (← IO.getStdin) ByteArray.empty
  let host := Host.empty (some (← IO.currentDir).toString)
  let report := Program.run host (← watchedEnvironment) (arguments.map Text.ofString)
    (Input.ofBytes octets.toList .exhausted)
  write (← IO.getStdout) report.stdout
  write (← IO.getStderr) (Utf8.encode report.stderr)
  match report.result with
  | .ok code => return UInt32.ofNat (code % 256).toNat
  | .error fault =>
    write (← IO.getStderr) (Utf8.encode (Quoted.spellStrays (fault.message ++ "\n")))
    return 1

end PlainShell

def main (arguments : List String) : IO UInt32 := PlainShell.perform arguments

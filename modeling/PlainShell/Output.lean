import PlainShell.Run
import PlainShell.Text.Utf8

/-!
Where output goes. Builtins write texts and programs write bytes, and both reach the target in the
order of the writes. The target is memory, a stream that takes texts only, or a text stream over
bytes. The last keeps texts in a queue and pushes on as much of it as it likes, whenever it likes;
raw bytes go past the queue, so the queue is emptied before them.
-/

namespace PlainShell

/-- How many bytes of a queue the stream pushes on unasked, given what the target holds. -/
abbrev Spill := (target : Array UInt8) → (queue : Bytes) → Nat

/-- A stream that queues nothing. -/
def Spill.all : Spill := fun _ queue => queue.length

/-- A stream that pushes nothing on unasked. -/
def Spill.none : Spill := fun _ _ => 0

inductive Output where
  | memory (held : Array UInt8)
  | textual (shown : Array Symbol)
  | layered (spill : Spill) (target : Array UInt8) (queue : Bytes)

namespace Output

def inMemory : Output := .memory #[]

def overText : Output := .textual #[]

def overBytes (spill : Spill) : Output := .layered spill #[] []

/-- What has reached the target. -/
def content : Output → Bytes
  | .memory held => held.toList
  | .textual shown => Utf8.encode shown.toList
  | .layered _ target _ => target.toList

/-- What waits in the queue. -/
def queued : Output → Bytes
  | .layered _ _ queue => queue
  | _ => []

/-- The stream after it has pushed on what it likes. -/
def settle (spill : Spill) (target : Array UInt8) (queue : Bytes) : Output :=
  let moved := spill target queue
  .layered spill (target ++ queue.take moved) (queue.drop moved)

def writeText : Output → Text → Output
  | .memory held, value => .memory (held ++ Utf8.encode value)
  | .textual shown, value => .textual (shown ++ value)
  | .layered spill target queue, value => settle spill target (queue ++ Utf8.encode value)

def writeBytes : Output → Bytes → Output
  | .memory held, value => .memory (held ++ value)
  | .textual shown, value => .textual (shown ++ Utf8.decodeReplacing value)
  | .layered spill target queue, value => .layered spill (target ++ queue ++ value) []

def flush : Output → Output
  | .layered spill target queue => .layered spill (target ++ queue) []
  | output => output

/-- The bytes kept in memory. -/
def buffered : Output → Bytes
  | .memory held => held.toList
  | _ => []

/-- The same as text, a replacement character for each broken piece. -/
def bufferedText (output : Output) : Text := Utf8.decodeReplacing output.buffered

def accept (output : Output) : Event → Output
  | .text value => output.writeText value
  | .bytes value => output.writeBytes value
  | .flush => output.flush
  | .read | .start _ | .note _ => output

/-- How much a write says it has written: the symbols of a text, the bytes of bytes, and of bytes
that are decoded first the characters. -/
def count (output : Output) : Event → Option Nat
  | .text value => some value.length
  | .bytes value =>
    match output with
    | .textual _ => some (Utf8.decodeReplacing value).length
    | _ => some value.length
  | _ => none

/-- The output after all that happened in a run. -/
def deliver (output : Output) (events : List Event) : Output := events.foldl accept output

end Output

end PlainShell

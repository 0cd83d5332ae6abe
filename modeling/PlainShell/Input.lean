import PlainShell.Text.Blank
import PlainShell.Text.Utf8

/-!
Where command lines come from. Every kind of line end counts: a carriage return, alone or before a
line feed, is read as a line feed. A line is read only when its end is there; what is left without
one is lost, and the reader learns how the input ended.
-/

namespace PlainShell

/-- What a reader meets where the input stops. -/
inductive Ending where
  | exhausted
  | interrupted
  | failed (details : Text)
  deriving DecidableEq, Repr

def Ending.readError : Ending := .failed "[Errno 5] Input/output error"

/-- Input that is still to be read, its line ends already unified. -/
structure Input where
  pending : Text
  ending : Ending
  deriving DecidableEq, Repr

namespace Input

def lineFeed : Symbol := '\n'

def carriageReturn : Symbol := '\x0D'

/-- Line feeds in place of all line ends. A line feed right after a carriage return belongs to it.
-/
def unifyLineEnds (afterReturn : Bool) : Text → Text
  | [] => []
  | symbol :: rest =>
    if symbol = carriageReturn then lineFeed :: unifyLineEnds true rest
    else if symbol = lineFeed ∧ afterReturn then unifyLineEnds false rest
    else symbol :: unifyLineEnds false rest

def ofBytes (octets : Bytes) (ending : Ending) : Input :=
  ⟨unifyLineEnds false (Utf8.decode octets), ending⟩

/-- The input when nothing is left to read. -/
def drained (input : Input) : Input := { input with pending := [] }

inductive Reading where
  | line (text : Text) (rest : Input)
  | failed (details : Text)
  | interrupted
  deriving DecidableEq, Repr

/-- The next line without the blanks around it, or why there is none. -/
def next (input : Input) : Reading :=
  match Text.cut lineFeed input.pending with
  | some (line, rest) => .line line.strip { input with pending := rest }
  | none =>
    match input.ending with
    | .exhausted => .failed "EOF"
    | .interrupted => .interrupted
    | .failed details => .failed details

theorem length_lt_of_next {input rest : Input} {text : Text}
    (read : input.next = .line text rest) : rest.pending.length < input.pending.length := by
  unfold next at read
  split at read
  · next found =>
    simp only [Reading.line.injEq] at read
    rw [← read.2]
    exact Text.length_lt_of_cut found
  · split at read <;> simp at read

end Input

end PlainShell

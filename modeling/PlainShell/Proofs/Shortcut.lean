import PlainShell.Proofs.Command
import PlainShell.Proofs.Typed

/-!
The exit line by two ways. A line whose first word is `exit` leaves the shell before anything is
looked up. With a space in front it has another first word and goes the long way: it is cut into
tokens, the table has a handler for the first of them, and the handler leaves. The two ways come out
at the same place, and nothing but the log tells which one was taken.
-/

namespace PlainShell

/-! Lines by their first token. -/

namespace Tokens

/-- Spaces, the word, and then nothing, or a space with whatever follows. -/
def OpensWith (word line : Text) : Prop :=
  ∃ gap rest, line = List.replicate gap separator ++ (word ++ rest) ∧
    ∀ symbol ∈ rest.head?, symbol = separator

section Word

variable {word : Text} (filled : word ≠ []) (whole : separator ∉ word)
include filled whole

theorem head?_ofLine_append {rest : Text} (ends : ∀ symbol ∈ rest.head?, symbol = separator) :
    (ofLine (word ++ rest)).head? = some word := by
  cases rest with
  | nil => rw [List.append_nil, ofLine_word filled whole, List.head?_cons]
  | cons symbol later =>
    obtain rfl : symbol = separator := ends symbol rfl
    rw [ofLine_append_separator, ofLine_word filled whole]
    rfl

/-- The first token of a line is the word exactly when the line opens with it. -/
theorem head?_ofLine_iff {line : Text} :
    (ofLine line).head? = some word ↔ OpensWith word line := by
  constructor
  · intro first
    induction line with
    | nil => simp [ofLine] at first
    | cons symbol rest ih =>
      by_cases space : symbol = separator
      · subst space
        rw [ofLine_cons_separator] at first
        obtain ⟨gap, later, rfl, ends⟩ := ih first
        exact ⟨gap + 1, later, rfl, ends⟩
      · have flush : (symbol :: rest).head? ≠ some separator := by simpa using space
        have own : Text.before separator (symbol :: rest) = word :=
          firstWord_of_head?_ofLine flush first
        refine ⟨0, (symbol :: rest).dropWhile (· ≠ separator), ?_, ?_⟩
        · rw [← own]
          exact List.takeWhile_append_dropWhile.symm
        · intro next there
          have stopped := List.head?_dropWhile_not (· ≠ separator) (symbol :: rest)
          rw [Option.mem_def.mp there] at stopped
          simpa using stopped
  · rintro ⟨gap, rest, rfl, ends⟩
    induction gap with
    | zero => exact head?_ofLine_append filled whole ends
    | succ gap ih =>
      rw [List.replicate_succ, List.cons_append, ofLine_cons_separator]
      exact ih

end Word

end Tokens

/-! Runs without their notes. -/

namespace Run

variable {α : Type}

/-- What the run does, apart from what it notes. -/
def unlogged (run : Run α) : List Event := run.events.filter fun event => event.note? = none

theorem starts_eq_unlogged (run : Run α) : run.starts = run.unlogged.filterMap Event.start? := by
  rw [unlogged, List.filterMap_filter, starts]
  congr 1
  funext event
  cases event <;> rfl

theorem writes_eq_unlogged (run : Run α) : run.writes = run.unlogged.filter Event.isWrite := by
  rw [unlogged, List.filter_filter, writes]
  congr 1
  funext event
  cases event <;> rfl

/-- A note leaves every output as it is. -/
theorem deliver_unlogged (run : Run α) (output : Output) :
    output.deliver run.unlogged = output.deliver run.events := by
  rw [unlogged]
  induction run.events generalizing output with
  | nil => rfl
  | cons event rest ih =>
    cases event with
    | note value => exact ih output
    | text value => exact ih (output.writeText value)
    | bytes value => exact ih (output.writeBytes value)
    | flush => exact ih output.flush
    | read => exact ih output
    | start record => exact ih output

/-- Runs that only the log tells apart. -/
structure Matches (run other : Run α) : Prop where
  outcome : run.outcome = other.outcome
  session : run.session = other.session
  unlogged : run.unlogged = other.unlogged

namespace Matches

variable {run other : Run α} (same : run.Matches other)
include same

theorem starts : run.starts = other.starts := by
  rw [starts_eq_unlogged, same.unlogged, ← starts_eq_unlogged]

theorem writes : run.writes = other.writes := by
  rw [writes_eq_unlogged, same.unlogged, ← writes_eq_unlogged]

theorem output (output : Output) : output.deliver run.events = output.deliver other.events := by
  rw [← deliver_unlogged, same.unlogged, deliver_unlogged]

end Matches

end Run

namespace Command

variable {host : Host} {environment : Environment} {command : Command}

/-- Only an exit line calls for an exit. -/
theorem head?_of_exit {code : Int}
    (departs : command.departure? host environment = some (.exit code)) :
    (Tokens.ofLine command.line).head? = some Session.exitWord := by
  unfold departure? at departs
  by_cases first : (Tokens.ofLine command.line).head? = some Session.exitWord
  · exact first
  · -- A program brings about a fault or an interrupt, if anything.
    rw [if_neg first] at departs
    split at departs
    · simp at departs
    · split at departs
      · simp at departs
      · split at departs <;> simp at departs

end Command

/-! The two ways. -/

namespace Session

variable (host : Host) (directory : Option Text) (environment : Environment) {line : Text}

/-- An exit line leaves with nothing but a flush, be it sent to the handler or not. -/
theorem dispatch_of_exit (first : (Tokens.ofLine line).head? = some exitWord) :
    (stocked directory environment).dispatch host (Tokens.ofLine line) line =
      Run.departure (stocked directory environment) [.note (.routedToBuiltin exitWord), .flush]
        (.exit 0) := by
  obtain ⟨arguments, tokens⟩ := List.head?_eq_some_iff.mp first
  have found : (stocked directory environment).builtins.get? exitWord = some .exit := by rfl
  rw [tokens, dispatch_builtin found]
  rfl

theorem execute_matches_dispatch (line : Text) :
    ((stocked directory environment).execute host line).Matches
      ((stocked directory environment).dispatch host (Tokens.ofLine line) line) := by
  by_cases first : Tokens.firstWord line = exitWord
  · have head := Tokens.head?_ofLine_of_firstWord first (by decide)
    rw [execute, if_pos first, dispatch_of_exit host directory environment head]
    exact ⟨rfl, rfl, rfl⟩
  · rw [execute, if_neg first]
    exact ⟨rfl, rfl, rfl⟩

/-- No other line exits. -/
theorem head?_of_exit {code : Int}
    (left : ((stocked directory environment).execute host line).outcome = .error (.exit code)) :
    (Tokens.ofLine line).head? = some exitWord :=
  Command.head?_of_exit
    (((⟨directory, line⟩ : Command).execute_governs host environment).departure?_eq left)

/-- The way past the table comes to what the way through it comes to. An exit line exits with 0 and
writes nothing, and no other line exits. -/
theorem execute_agrees_with_dispatch (line : Text) :
    let session := stocked directory environment
    let run := session.execute host line
    let routed := session.dispatch host (Tokens.ofLine line) line
    (run.outcome = routed.outcome ∧ run.session = routed.session ∧ run.starts = routed.starts ∧
      run.unlogged = routed.unlogged ∧
      ∀ output : Output, output.deliver run.events = output.deliver routed.events) ∧
    (run.outcome = .error (.exit 0) ∧ run.writes = [] ↔
      (Tokens.ofLine line).head? = some exitWord) ∧
    ((∃ code, run.outcome = .error (.exit code)) ↔ (Tokens.ofLine line).head? = some exitWord) ∧
    ((Tokens.ofLine line).head? = some exitWord ↔ Tokens.OpensWith exitWord line) := by
  intro session run routed
  have same : run.Matches routed := execute_matches_dispatch host directory environment line
  have leaves (first : (Tokens.ofLine line).head? = some exitWord) :
      run.outcome = .error (.exit 0) ∧ run.writes = [] := by
    have routes : routed = _ := dispatch_of_exit host directory environment first
    rw [same.outcome, same.writes, routes]
    exact ⟨rfl, rfl⟩
  refine ⟨⟨same.outcome, same.session, same.starts, same.unlogged, same.output⟩, ⟨?_, leaves⟩,
    ⟨?_, fun first => ⟨0, (leaves first).1⟩⟩, Tokens.head?_ofLine_iff (by decide) (by decide)⟩
  · rintro ⟨left, -⟩
    exact head?_of_exit host directory environment left
  · rintro ⟨code, left⟩
    exact head?_of_exit host directory environment left

end Session

end PlainShell

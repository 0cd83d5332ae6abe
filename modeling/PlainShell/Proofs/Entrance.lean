import PlainShell.Program
import PlainShell.Proofs.Delivery
import PlainShell.Proofs.Turns

/-!
From the options into the loop. When the options and the environment settle all that the shell
needs, the program is the loop and nothing else: its first channel takes what the loop puts out, it
starts what the loop starts, and an interrupt adds the end of its line.
-/

namespace PlainShell.Program

/-- The prompt and the least severity that is logged, if the program comes as far as the loop. -/
def entry? (environment : Environment) (arguments : List Text) : Option (Text × Nat) :=
  match Options.parse (Settings.ofEnvironment environment) arguments with
  | .error _ => none
  | .ok choice =>
    match choice.logLevel.map fun level => threshold level.upper with
    | some (.ok least) => choice.prompt.map fun prompt => (prompt, least)
    | some (.error _) | none => none

/-- What stands behind the output of the loop. -/
def lastOctets : Departure → Bytes
  | .interrupt => [0x0A]
  | .exit _ | .fault _ => []

/-- What the program ends with when the loop has been left. -/
def lastResult : Departure → Except Fault Int
  | .exit code => .ok code
  | .interrupt => .ok 130
  | .fault fault => .error fault

theorem stdout_eq_octets (report : Report) :
    report.stdout = report.events.flatMap Event.octets :=
  Output.content_flush_deliver Spill.none report.events

theorem result_conclude (run : Run Empty) (threshold : Nat) :
    (conclude run threshold).result = lastResult run.cause := by
  rw [conclude, run.outcome_eq_cause]
  cases run.cause <;> rfl

theorem stdout_conclude (run : Run Empty) (threshold : Nat) :
    (conclude run threshold).stdout = run.written ++ lastOctets run.cause := by
  rw [stdout_eq_octets, Run.written_eq_octets, conclude, run.outcome_eq_cause]
  cases run.cause with
  | exit code => exact (List.append_nil _).symm
  | interrupt =>
    have feed : Utf8.encode "\n" = [0x0A] := by decide
    simp [lastOctets, Event.octets, feed]
  | fault fault => exact (List.append_nil _).symm

theorem starts_conclude (run : Run Empty) (threshold : Nat) :
    (conclude run threshold).starts = run.starts := by
  rw [conclude, run.outcome_eq_cause]
  cases run.cause with
  | exit code => rfl
  | interrupt =>
    change (run.events ++ [Event.text "\n"]).filterMap Event.start? = run.starts
    rw [List.filterMap_append]
    exact List.append_nil _
  | fault fault => rfl

/-- The end of the program notes nothing, and it complains of nothing. -/
theorem logged_conclude (run : Run Empty) (threshold : Nat) :
    (conclude run threshold).complaint = [] ∧
      (conclude run threshold).logged =
        run.notes.filter fun note => threshold ≤ note.level.severity := by
  rw [conclude, run.outcome_eq_cause]
  cases run.cause with
  | exit code => exact ⟨rfl, rfl⟩
  | interrupt =>
    refine ⟨rfl, ?_⟩
    change ((run.events ++ [Event.text "\n"]).filterMap Event.note?).filter _ = _
    rw [List.filterMap_append]
    exact congrArg (List.filter _) (List.append_nil _)
  | fault fault => exact ⟨rfl, rfl⟩

section Entry

variable {environment : Environment} {arguments : List Text} {prompt : Text} {threshold : Nat}
  (entered : entry? environment arguments = some (prompt, threshold))
include entered

theorem run_of_entry (host : Host) (input : Input) :
    run host environment arguments input =
      conclude ((Session.start host environment none).loop host prompt input) threshold := by
  unfold entry? at entered
  split at entered
  · simp at entered
  · next choice parsed =>
    split at entered
    · next least known =>
      obtain ⟨level, named, settled⟩ := Option.map_eq_some_iff.mp known
      obtain ⟨shown, given, same⟩ := Option.map_eq_some_iff.mp entered
      obtain ⟨rfl, rfl⟩ := Prod.mk.inj same
      simp only [run, parsed, start, named, settled, given]
    · simp at entered
    · simp at entered

theorem stdout_of_entry (host : Host) (input : Input) :
    let loop := (Session.start host environment none).loop host prompt input
    (run host environment arguments input).stdout = loop.written ++ lastOctets loop.cause := by
  rw [run_of_entry entered, stdout_conclude]

theorem starts_of_entry (host : Host) (input : Input) :
    (run host environment arguments input).starts =
      ((Session.start host environment none).loop host prompt input).starts := by
  rw [run_of_entry entered, starts_conclude]

end Entry

end PlainShell.Program

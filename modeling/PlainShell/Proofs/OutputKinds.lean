import PlainShell.Proofs.Octets
import PlainShell.Proofs.Queue
import PlainShell.Proofs.StartEvents

/-!
The loop on outputs of every kind. Nothing waits in a queue when the loop is over, so what an output
over bytes then shows is what memory holds. An output that takes texts only shows the same but for
the bytes of the programs, which it decodes one program at a time.
-/

namespace PlainShell

/-! What is written, with a rendering for the bytes of programs. -/

/-- What an event puts out where the bytes of a program are rendered in some way. -/
def Event.octetsBy (rendering : Bytes → Bytes) : Event → Bytes
  | .text value => Utf8.encode value
  | .bytes value => rendering value
  | .flush | .read | .start _ | .note _ => []

theorem Event.octetsBy_id (event : Event) : event.octetsBy id = event.octets := by
  cases event <;> rfl

/-- All that the run puts out, each program's bytes rendered by themselves. -/
def Run.writtenBy {α : Type} (run : Run α) (rendering : Bytes → Bytes) : Bytes :=
  run.events.flatMap (Event.octetsBy rendering)

theorem Run.writtenBy_id {α : Type} (run : Run α) : run.writtenBy id = run.written := by
  rw [written_eq_octets, writtenBy]
  exact List.flatMap_congr fun event _ => event.octetsBy_id

def Event.bytes? : Event → Option Bytes
  | .bytes value => some value
  | _ => none

/-- Renderings that agree on the bytes of the programs make no difference. -/
theorem Run.writtenBy_congr {α : Type} {run : Run α} {first second : Bytes → Bytes}
    (agree : ∀ octets ∈ run.events.filterMap Event.bytes?, first octets = second octets) :
    run.writtenBy first = run.writtenBy second := by
  refine List.flatMap_congr fun event member => ?_
  cases event with
  | bytes value => exact agree value (List.mem_filterMap.mpr ⟨_, member, rfl⟩)
  | text value | flush | read | start record | note value => rfl

namespace Utf8

/-- The octets with a replacement character in place of each broken piece. -/
def repaired (octets : Bytes) : Bytes := encode (decodeReplacing octets)

theorem decodeReplacing_of_wellFormed {octets : Bytes} (whole : isWellFormed octets = true) :
    decodeReplacing octets = decode octets := by
  rw [isWellFormed, List.all_eq_true] at whole
  rw [decodeReplacing, decode, List.map_eq_flatMap]
  refine List.flatMap_congr fun chunk member => ?_
  cases chunk with
  | character value => rfl
  | broken octets => exact absurd (whole _ member) (by simp [Chunk.isCharacter])

theorem repaired_of_wellFormed {octets : Bytes} (whole : isWellFormed octets = true) :
    repaired octets = octets := by
  rw [repaired, decodeReplacing_of_wellFormed whole, encode_decode]

example : repaired [0x61, 0xE2, 0x82] = [0x61, 0xEF, 0xBF, 0xBD] := by decide

end Utf8

/-! One output at a time. -/

namespace Output

/-- Over bytes everything is out or queued, in the order in which it came. -/
theorem taken_overBytes (spill : Spill) (events : List Event) :
    ((overBytes spill).deliver events).taken = events.flatMap Event.octets := by
  have direct : (overBytes spill).TakesBytes := trivial
  exact (taken_deliver direct events).2

/-- A stream of texts shows the bytes of programs repaired. -/
theorem content_deliver_textual (shown : Array Symbol) (events : List Event) :
    ((textual shown).deliver events).content =
      Utf8.encode shown.toList ++ events.flatMap (Event.octetsBy Utf8.repaired) := by
  induction events generalizing shown with
  | nil => simp [deliver, content]
  | cons event rest ih =>
    have first : ∃ more : Array Symbol, (textual shown).accept event = .textual more ∧
        Utf8.encode more.toList = Utf8.encode shown.toList ++ event.octetsBy Utf8.repaired := by
      cases event with
      | text value => exact ⟨_, rfl, by simp [Utf8.encode_append, Event.octetsBy]⟩
      | bytes value =>
        exact ⟨_, rfl, by simp [Utf8.encode_append, Event.octetsBy, Utf8.repaired]⟩
      | flush | read | start record | note value => exact ⟨shown, rfl, by simp [Event.octetsBy]⟩
    obtain ⟨more, accepted, encoded⟩ := first
    change (((textual shown).accept event).deliver rest).content = _
    rw [accepted, ih, encoded, List.flatMap_cons, List.append_assoc]

end Output

/-! The outputs side by side. -/

/-- What a run of the loop comes to on an output. -/
def Run.accountOn (run : Run Empty) (output : Output) : Account :=
  { run.account with output := (output.deliver run.events).content }

/-- What a program has put out by its end. -/
def Launch.output? : Launch → Option Bytes
  | .ended output _ => some output
  | .failed _ | .interrupted => none

/-- The same of the program of a start. -/
def Start.output? (host : Host) (record : Start) : Option Bytes :=
  match record.argv with
  | [] => none
  | path :: _ => (host.launch record.directory record.environment path).output?

theorem Launch.bytes_resultEvents (path : Text) (launch : Launch) :
    (launch.resultEvents path).filterMap Event.bytes? = launch.output?.toList.filter (· ≠ []) := by
  cases launch with
  | failed error => rfl
  | interrupted => rfl
  | ended output status =>
    by_cases silent : output = [] <;> simp [resultEvents, output?, Event.bytes?, silent]

theorem Start.bytes_resultEvents (host : Host) (record : Start) :
    (record.resultEvents host).filterMap Event.bytes? =
      (record.output? host).toList.filter (· ≠ []) := by
  obtain ⟨argv, directory, environment⟩ := record
  cases argv with
  | nil => rfl
  | cons path arguments => exact (host.launch directory environment path).bytes_resultEvents path

/-- The bytes that are put out in the loop are what its programs have put out, one after another. -/
theorem bytes_loop (host : Host) (environment : Environment) (directory : Option Text)
    (prompt : Text) (input : Input) :
    let run := (Session.start host environment directory).loop host prompt input
    run.events.filterMap Event.bytes? =
      (run.starts.filterMap (Start.output? host)).filter (· ≠ []) := by
  intro run
  have blind : ∀ event : Event, event.ofStart = false → event.bytes? = none := by
    intro event told
    cases event with
    | bytes value => simp [Event.ofStart] at told
    | text value | flush | read | start record | note value => rfl
  rw [filterMap_loop blind, List.filterMap_eq_flatMap_toList, List.filter_flatMap]
  exact List.flatMap_congr fun record _ => record.bytes_resultEvents host

theorem account_overBytes (host : Host) (environment : Environment) (directory : Option Text)
    (prompt : Text) (input : Input) (spill : Spill) :
    let run := (Session.start host environment directory).loop host prompt input
    ((Output.overBytes spill).deliver run.events).queued = [] ∧
      run.accountOn (.overBytes spill) = run.account := by
  intro run
  have settled : ((Output.overBytes spill).deliver run.events).queued = [] := by
    change (Output.deliver _ (Session.loop _ host prompt input).events).queued = []
    rw [Session.loop_eq_consume]
    exact Session.queued_consume Registry.isDiscreet_stock host prompt input.ending input.lines _
  refine ⟨settled, ?_⟩
  rw [Run.accountOn, Output.content_of_settled settled, Output.taken_overBytes,
    ← Run.written_eq_octets]
  rfl

theorem account_overText (run : Run Empty) :
    run.accountOn .overText = { run.account with output := run.writtenBy Utf8.repaired } := by
  rw [Run.accountOn, Output.overText, Output.content_deliver_textual]
  rfl

/-- The loop comes to the same on every output. Memory and a stream over bytes end with the same
bytes, and nothing waits in the queue; on the way there the stream has the same bytes, some of them
still waiting. A stream of texts differs in nothing but the bytes of the programs that were started:
the output of each is decoded by itself, broken pieces becoming replacement characters. So it does
not differ at all when these outputs are well-formed. -/
theorem loop_on_every_output (host : Host) (environment : Environment) (directory : Option Text)
    (prompt : Text) (input : Input) (spill : Spill) :
    let run := (Session.start host environment directory).loop host prompt input
    let kept := run.accountOn .inMemory
    let printed := run.starts.filterMap (Start.output? host)
    run.accountOn (.overBytes spill) = kept ∧
    ((Output.overBytes spill).deliver run.events).queued = [] ∧
    (∀ moment, moment <+: run.events →
      ((Output.overBytes spill).deliver moment).taken = (Output.inMemory.deliver moment).content) ∧
    kept.output = run.writtenBy id ∧
    run.accountOn .overText = { kept with output := run.writtenBy Utf8.repaired } ∧
    run.events.filterMap Event.bytes? = printed.filter (· ≠ []) ∧
    ((∀ octets ∈ printed, Utf8.isWellFormed octets = true) → run.accountOn .overText = kept) := by
  intro run kept printed
  obtain ⟨settled, layered⟩ := account_overBytes host environment directory prompt input spill
  have bytes : run.events.filterMap Event.bytes? = printed.filter (· ≠ []) :=
    bytes_loop host environment directory prompt input
  have textual : run.accountOn .overText = { kept with output := run.writtenBy Utf8.repaired } :=
    account_overText run
  have memory : kept.output = run.writtenBy id := run.writtenBy_id.symm
  refine ⟨layered, settled, ?_, memory, textual, bytes, ?_⟩
  · intro moment _
    rw [Output.inMemory, Output.content_deliver_memory, Output.taken_overBytes]
    rfl
  · intro whole
    have same : run.writtenBy Utf8.repaired = run.writtenBy id := by
      refine Run.writtenBy_congr fun octets member => ?_
      rw [bytes] at member
      exact Utf8.repaired_of_wellFormed (whole octets (List.mem_of_mem_filter member))
    rw [textual, same, ← memory]

end PlainShell

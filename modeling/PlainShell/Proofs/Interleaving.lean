import PlainShell.Proofs.OutputKinds

/-!
Texts and raw bytes written to one stream in any order. Texts may wait in a queue, raw bytes go past
it, and yet the target has the octets of both in the order of the calls: at no time has it anything
but a prefix of them, and after raw bytes and after a flush it has them all. How much of the queue
the stream pushes on, and when, makes no difference to that.
-/

namespace PlainShell

/-- The call leaves nothing in the queue. -/
def Event.empties : Event → Bool
  | .bytes _ | .flush => true
  | .text _ | .read | .start _ | .note _ => false

namespace Output

/-- What a new stream over bytes may have come to after these calls. Each text is settled as the
stream likes. Between the calls it may settle the queue again, and change what it likes. -/
inductive Reaches : List Event → Output → Prop where
  | fresh (spill : Spill) : Reaches [] (overBytes spill)
  | call {calls : List Event} {output : Output} (event : Event) :
    Reaches calls output → Reaches (calls ++ [event]) (output.accept event)
  | resettle {calls : List Event} {spill : Spill} {target : Array UInt8} {queue : Bytes}
    (other : Spill) :
    Reaches calls (.layered spill target queue) → Reaches calls (settle other target queue)

namespace Reaches

variable {calls : List Event} {output : Output}

/-- However the stream has come there, it has lost nothing and changed no order. -/
theorem taken (reaches : Reaches calls output) :
    output.TakesBytes ∧ output.taken = calls.flatMap Event.octets := by
  induction reaches with
  | fresh spill => exact ⟨trivial, rfl⟩
  | call event _ ih =>
    obtain ⟨direct, held⟩ := ih
    obtain ⟨still, added⟩ := taken_accept direct event
    refine ⟨still, added.trans ?_⟩
    rw [held, List.flatMap_append, List.flatMap_singleton]
  | resettle other _ ih => exact ⟨trivial, (taken_settle ..).trans ih.2⟩

theorem prefix_octets (reaches : Reaches calls output) :
    output.content <+: calls.flatMap Event.octets :=
  ⟨output.queued, reaches.taken.2⟩

theorem flushed (reaches : Reaches calls output) :
    output.flush.content = calls.flatMap Event.octets :=
  (content_flush reaches.taken.1).trans reaches.taken.2

/-- All calls at once. -/
theorem deliver (reaches : Reaches calls output) (later : List Event) :
    Reaches (calls ++ later) (output.deliver later) := by
  induction later generalizing calls output with
  | nil =>
    rw [List.append_nil]
    exact reaches
  | cons event rest ih =>
    have first : Reaches ((calls ++ [event]) ++ rest) ((output.accept event).deliver rest) :=
      ih (reaches.call event)
    rwa [List.append_assoc] at first

/-- The queue is empty after a call that empties it, so the target has everything. -/
theorem shows (reaches : Reaches calls output) {event : Event} (empties : event.empties = true) :
    (output.accept event).Shows ((calls ++ [event]).flatMap Event.octets) := by
  have settled : (output.accept event).queued = [] := by
    cases event with
    | bytes value => cases output <;> rfl
    | flush => exact output.queued_flush
    | text value | read | start record | note value => simp [Event.empties] at empties
  exact ⟨settled, (content_of_settled settled).trans (reaches.call event).taken.2⟩

/-- Raw bytes are a flush and then the bytes, and whatever part of them has arrived stands behind
all that was written before. -/
theorem prefix_writeBytes (reaches : Reaches calls output) {part value : Bytes}
    (arrived : part <+: value) :
    (output.flush.writeBytes part).content <+:
      (calls ++ [Event.bytes value]).flatMap Event.octets := by
  obtain ⟨rest, rfl⟩ := arrived
  have flushed : Reaches (calls ++ [.flush] ++ [.bytes part]) (output.flush.writeBytes part) :=
    (reaches.call .flush).call (.bytes part)
  refine flushed.prefix_octets.trans ⟨rest, ?_⟩
  simp [Event.octets]

end Reaches

theorem writeBytes_flush {output : Output} (direct : output.TakesBytes) (value : Bytes) :
    output.flush.writeBytes value = output.writeBytes value := by
  cases output with
  | textual shown => exact direct.elim
  | memory held => rfl
  | layered spill target queue => simp [flush, writeBytes]

/-- Mixed output keeps its order. Whatever is written to a stream over bytes and however it treats
its queue, at every moment the target has a prefix of the octets of all calls, the moments within a
write of raw bytes included. It has all of them after raw bytes and after a flush. So a last flush
brings it to what memory has kept of the same calls. Either way a write counts the symbols of a text
and the octets of bytes, and a text that was decoded from octets writes them and no others. -/
theorem writes_keep_their_order :
    (∀ calls output, Reaches calls output →
      output.content <+: calls.flatMap Event.octets ∧
      (∀ event, event.empties = true →
        (output.accept event).Shows ((calls ++ [event]).flatMap Event.octets)) ∧
      (∀ value part, part <+: value → (output.flush.writeBytes part).content <+:
        (calls ++ [Event.bytes value]).flatMap Event.octets) ∧
      (∀ value, output.flush.writeBytes value = output.accept (.bytes value)) ∧
      output.flush.content = (inMemory.deliver calls).buffered) ∧
    (∀ spill events, Reaches events ((overBytes spill).deliver events)) ∧
    (∀ output : Output, output.TakesBytes →
      (∀ value, output.count (.text value) = some value.length) ∧
      ∀ value, output.count (.bytes value) = some value.length) ∧
    ∀ octets, (Event.text (Utf8.decode octets)).octets = octets := by
  refine ⟨fun calls output reaches => ?_, fun spill events => ?_, fun output direct => ?_,
    Utf8.encode_decode⟩
  · refine ⟨reaches.prefix_octets, fun event => reaches.shows,
      fun value part => reaches.prefix_writeBytes, writeBytes_flush reaches.taken.1, ?_⟩
    rw [reaches.flushed, inMemory, deliver_memory]
    simp [buffered]
  · exact (Reaches.fresh spill).deliver events
  · refine ⟨fun value => rfl, fun value => ?_⟩
    cases output with
    | textual shown => exact direct.elim
    | memory held => rfl
    | layered spill target queue => rfl

/-- A text waits, and bytes take it with them: half of the text had gone before. -/
example :
    let half : Spill := fun _ queue => queue.length / 2
    let waiting := (overBytes half).accept (.text "ab")
    waiting.content = [0x61] ∧ (waiting.accept (.bytes [0xFF])).content = [0x61, 0x62, 0xFF] := by
  decide

end Output

end PlainShell

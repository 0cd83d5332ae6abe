import PlainShell.Proofs.Effects

/-!
Outputs that take bytes as they are, in memory or by way of a text stream. However much such a
stream keeps back, and for however long, what has reached the target and what still waits are
together all that was written, in order. After a flush nothing waits.
-/

namespace PlainShell

namespace Output

/-- Bytes reach the target as they are. A stream that takes texts only has to decode them. -/
def TakesBytes : Output → Prop
  | .memory _ | .layered .. => True
  | .textual _ => False

/-- What has reached the target, and behind it what waits. -/
def taken (output : Output) : Bytes := output.content ++ output.queued

/-- Where nothing waits, all that was taken has arrived. -/
theorem content_of_settled {output : Output} (settled : output.queued = []) :
    output.content = output.taken := by
  rw [taken, settled, List.append_nil]

theorem taken_settle (spill : Spill) (target : Array UInt8) (queue : Bytes) :
    (settle spill target queue).taken = target.toList ++ queue := by
  simp [settle, taken, content, queued]

/-- One event adds its octets and no others. -/
theorem taken_accept {output : Output} (direct : output.TakesBytes) (event : Event) :
    (output.accept event).TakesBytes ∧
      (output.accept event).taken = output.taken ++ event.octets := by
  cases output with
  | textual shown => exact direct.elim
  | memory held =>
    cases event <;>
      simp [accept, writeText, writeBytes, flush, TakesBytes, taken, content, queued, Event.octets]
  | layered spill target queue =>
    cases event with
    | text value =>
      refine ⟨trivial, (taken_settle ..).trans ?_⟩
      simp [taken, content, queued, Event.octets]
    | bytes value => simp [accept, writeBytes, TakesBytes, taken, content, queued, Event.octets]
    | flush => simp [accept, flush, TakesBytes, taken, content, queued, Event.octets]
    | read | start record | note value => exact ⟨trivial, (List.append_nil _).symm⟩

theorem taken_deliver {output : Output} (direct : output.TakesBytes) (events : List Event) :
    (output.deliver events).TakesBytes ∧
      (output.deliver events).taken = output.taken ++ events.flatMap Event.octets := by
  induction events generalizing output with
  | nil => exact ⟨direct, (List.append_nil _).symm⟩
  | cons event rest ih =>
    obtain ⟨still, first⟩ := taken_accept direct event
    obtain ⟨last, whole⟩ := ih still
    refine ⟨last, whole.trans ?_⟩
    rw [first, List.flatMap_cons, List.append_assoc]

theorem content_flush {output : Output} (direct : output.TakesBytes) :
    output.flush.content = output.taken := by
  cases output with
  | textual shown => exact direct.elim
  | memory held => simp [flush, taken, content, queued]
  | layered spill target queue => simp [flush, taken, content, queued]

/-- Whatever the stream keeps back on the way, the target has it all in the end. -/
theorem content_flush_deliver (spill : Spill) (events : List Event) :
    ((overBytes spill).deliver events).flush.content = events.flatMap Event.octets := by
  have fresh : (overBytes spill).TakesBytes := trivial
  obtain ⟨last, whole⟩ := taken_deliver fresh events
  rw [content_flush last, whole]
  rfl

/-! Outputs only grow. -/

theorem content_prefix_accept (output : Output) (event : Event) :
    output.content <+: (output.accept event).content := by
  cases output with
  | memory held => cases event <;> simp [accept, writeText, writeBytes, flush, content]
  | textual shown =>
    cases event <;> simp [accept, writeText, writeBytes, flush, content, Utf8.encode]
  | layered spill target queue =>
    cases event <;> simp [accept, writeText, writeBytes, flush, settle, content, List.append_assoc]

theorem taken_prefix_accept (output : Output) (event : Event) :
    output.taken <+: (output.accept event).taken := by
  cases output with
  | memory held =>
    have direct : (memory held).TakesBytes := trivial
    rw [(taken_accept direct event).2]
    exact List.prefix_append ..
  | textual shown =>
    cases event <;> simp [accept, writeText, writeBytes, flush, taken, content, queued, Utf8.encode]
  | layered spill target queue =>
    have direct : (layered spill target queue).TakesBytes := trivial
    rw [(taken_accept direct event).2]
    exact List.prefix_append ..

/-- What has been written is still there, be it at the target or in the queue. -/
theorem prefix_deliver (output : Output) (events : List Event) :
    output.content <+: (output.deliver events).content ∧
      output.taken <+: (output.deliver events).taken := by
  induction events generalizing output with
  | nil => exact ⟨List.prefix_rfl, List.prefix_rfl⟩
  | cons event rest ih =>
    obtain ⟨shown, held⟩ := ih (output.accept event)
    exact ⟨(output.content_prefix_accept event).trans shown,
      (output.taken_prefix_accept event).trans held⟩

end Output

/-- Raw bytes, if there are any, and a line, if there is one, are all that is written, and an output
over bytes takes on these and nothing else. -/
structure Run.Prints {α : Type} (run : Run α) (raw : Bytes) (line : Option Text) : Prop where
  writes : run.writes = (if raw = [] then [] else [.bytes raw]) ++ (line.map Event.line).toList
  taken : ∀ output : Output, output.TakesBytes → (output.deliver run.events).taken =
    output.taken ++ raw ++ (line.map fun text => Utf8.encode (text ++ "\n")).getD []

namespace Run.Prints

variable {α : Type} {run : Run α} {raw : Bytes} {line : Option Text}

theorem of_writes
    (whole : run.writes = (if raw = [] then [] else [.bytes raw]) ++ (line.map Event.line).toList) :
    run.Prints raw line := by
  refine ⟨whole, fun output direct => ?_⟩
  have shown : (if raw = [] then [] else [Event.bytes raw]).flatMap Event.octets = raw := by
    split
    · next empty => rw [empty, List.flatMap_nil]
    · exact List.append_nil raw
  have told : (line.map Event.line).toList.flatMap Event.octets =
      (line.map fun text => Utf8.encode (text ++ "\n")).getD [] := by
    cases line with
    | none => rfl
    | some text => exact Event.octets_single_line text
  rw [(Output.taken_deliver direct run.events).2, ← run.octets_writes, whole, List.flatMap_append,
    shown, told, List.append_assoc]

/-- Texts come from the line only. -/
theorem line_eq_none_iff (prints : run.Prints raw line) :
    line = none ↔ ∀ text, Event.text text ∉ run.writes := by
  rw [prints.writes]
  cases line with
  | none => by_cases empty : raw = [] <;> simp [empty]
  | some text =>
    refine ⟨fun absent => by simp at absent, fun none => absurd ?_ (none (text ++ "\n"))⟩
    exact List.mem_append_right _ (List.mem_singleton_self _)

end Run.Prints

end PlainShell

import PlainShell.Proofs.OutputKinds
import PlainShell.Proofs.Sequences

/-!
Bytes shown as text. What memory holds is read from left to right: a well-formed sequence shows its
character, a broken piece shows one replacement character, and reading goes on behind either. So
what is shown is the text of a string, it writes back the bytes exactly when they were valid, and
bytes may be cut wherever what stands before the cut is valid.
-/

namespace PlainShell

namespace Utf8

/-! Valid octets are those of a string. -/

theorem encode_ofString (string : String) :
    (encode (Text.ofString string)).toByteArray = string.toByteArray := by
  have octets : encode (Text.ofString string) = string.toList.flatMap String.utf8EncodeChar := by
    rw [encode, Text.ofString, List.flatMap_map]
    exact List.flatMap_congr fun value _ => (utf8EncodeChar_eq value).symm
  rw [octets, ← String.utf8Encode_toList]
  rfl

theorem isValidUTF8_iff {octets : Bytes} :
    octets.toByteArray.IsValidUTF8 ↔ ∃ string : String, encode (Text.ofString string) = octets := by
  constructor
  · intro valid
    exact ⟨.ofByteArray _ valid, List.toByteArray_inj.mp (encode_ofString _)⟩
  · rintro ⟨string, rfl⟩
    rw [encode_ofString]
    exact string.isValidUTF8

theorem chunks_encode_append (characters : List Char) (rest : Bytes) :
    chunks (encode (characters.map Symbol.char) ++ rest) =
      characters.map Chunk.character ++ chunks rest := by
  induction characters with
  | nil => rfl
  | cons value others ih =>
    have octets : encode ((value :: others).map Symbol.char) =
        encodeChar value ++ encode (others.map Symbol.char) := rfl
    rw [octets, List.append_assoc, chunks_encodeChar_append, ih]
    rfl

theorem decodeReplacing_encode_append (string : String) (rest : Bytes) :
    decodeReplacing (encode (Text.ofString string) ++ rest) =
      Text.ofString string ++ decodeReplacing rest := by
  rw [decodeReplacing, Text.ofString, chunks_encode_append, List.map_append, List.map_map]
  rfl

theorem decodeReplacing_encode (string : String) :
    decodeReplacing (encode (Text.ofString string)) = Text.ofString string := by
  have alone := decodeReplacing_encode_append string []
  rw [List.append_nil] at alone
  exact alone.trans (List.append_nil _)

theorem decodeReplacing_broken_append {piece rest : Bytes}
    (broken : IsBroken piece (piece ++ rest)) :
    decodeReplacing (piece ++ rest) = .char replacement :: decodeReplacing rest := by
  rw [decodeReplacing, broken.chunks_append]
  rfl

/-- Only characters are shown. -/
theorem exists_decodeReplacing_eq (octets : Bytes) :
    ∃ string : String, decodeReplacing octets = Text.ofString string :=
  ⟨String.ofList ((chunks octets).map Chunk.shown), by simp [decodeReplacing, Text.ofString]⟩

theorem repaired_eq_iff {octets : Bytes} :
    repaired octets = octets ↔ octets.toByteArray.IsValidUTF8 := by
  rw [isValidUTF8_iff]
  constructor
  · intro same
    obtain ⟨string, shown⟩ := exists_decodeReplacing_eq octets
    exact ⟨string, by rw [← shown]; exact same⟩
  · rintro ⟨string, rfl⟩
    rw [repaired, decodeReplacing_encode]

/-- The reader's own test is the test for valid octets. -/
theorem isWellFormed_iff {octets : Bytes} :
    isWellFormed octets = true ↔ octets.toByteArray.IsValidUTF8 := by
  constructor
  · exact fun whole => repaired_eq_iff.mp (repaired_of_wellFormed whole)
  · intro valid
    obtain ⟨string, rfl⟩ := isValidUTF8_iff.mp valid
    have read := chunks_encode_append string.toList []
    rw [List.append_nil] at read
    rw [isWellFormed, Text.ofString, read]
    simp [chunks, chunksFrom, Chunk.isCharacter]

/-! From left to right. -/

/-- From the octets on, the reader has shown the text when it comes to the rest. -/
inductive Reads : (octets : Bytes) → (shown : Text) → (rest : Bytes) → Prop where
  | done (octets : Bytes) : Reads octets [] octets
  | sequence (value : Char) {later rest : Bytes} {shown : Text} (reads : Reads later shown rest) :
      Reads (String.utf8EncodeChar value ++ later) (.char value :: shown) rest
  | broken {piece later rest : Bytes} {shown : Text} (broken : IsBroken piece (piece ++ later))
      (reads : Reads later shown rest) : Reads (piece ++ later) (.char replacement :: shown) rest

/-- However far the reader has come, the rest decides the rest. -/
theorem Reads.decodeReplacing_eq {octets rest : Bytes} {shown : Text}
    (reads : Reads octets shown rest) : decodeReplacing octets = shown ++ decodeReplacing rest := by
  induction reads with
  | done octets => rfl
  | sequence value reads ih =>
    rw [List.cons_append, ← ih, decodeReplacing, utf8EncodeChar_eq, chunks_encodeChar_append]
    rfl
  | broken broken reads ih =>
    rw [List.cons_append, ← ih, decodeReplacing_broken_append broken]

/-- The reader comes to the end. -/
theorem reads_decodeReplacing (octets : Bytes) : Reads octets (decodeReplacing octets) [] := by
  generalize ready : chunks octets = read
  induction read generalizing octets with
  | nil =>
    have empty : octets = [] := by
      by_cases filled : octets = []
      · exact filled
      · obtain ⟨chunk, rest, -, more⟩ := chunks_heads filled
        rw [ready] at more
        cases more
    subst empty
    exact .done []
  | cons first others ih =>
    have filled : octets ≠ [] := by
      rintro rfl
      cases ready
    obtain ⟨chunk, rest, heads, more⟩ := chunks_heads filled
    obtain ⟨rfl, later⟩ := List.cons.inj (ready.symm.trans more)
    have reads := ih rest later.symm
    rw [decodeReplacing, ready, List.map_cons, later]
    cases first with
    | character value =>
      have whole : octets = String.utf8EncodeChar value ++ rest := heads
      rw [whole]
      exact .sequence value reads
    | broken piece =>
      obtain ⟨whole, broken⟩ := heads
      rw [whole] at broken ⊢
      exact .broken broken reads

theorem reads_to_end_iff {octets : Bytes} {shown : Text} :
    Reads octets shown [] ↔ shown = decodeReplacing octets := by
  constructor
  · intro reads
    rw [reads.decodeReplacing_eq]
    exact (List.append_nil shown).symm
  · rintro rfl
    exact reads_decodeReplacing octets

/-- Behind valid octets the reader begins anew, so values may be shown one by one while they are
valid. -/
theorem decodeReplacing_flatten {values : List Bytes}
    (valid : ∀ value ∈ values.dropLast, value.toByteArray.IsValidUTF8) :
    decodeReplacing values.flatten = values.flatMap decodeReplacing := by
  induction values with
  | nil => rfl
  | cons value others ih =>
    cases others with
    | nil => simp
    | cons next more =>
      obtain ⟨here, further⟩ := List.forall_mem_cons.mp valid
      obtain ⟨string, rfl⟩ := isValidUTF8_iff.mp here
      calc
        _ = Text.ofString string ++ decodeReplacing (next :: more).flatten :=
          decodeReplacing_encode_append string _
        _ = decodeReplacing (encode (Text.ofString string)) ++
            (next :: more).flatMap decodeReplacing := by rw [ih further, decodeReplacing_encode]
        _ = _ := List.flatMap_cons.symm

end Utf8

namespace Output

theorem buffered_deliver (calls : List Event) :
    (inMemory.deliver calls).buffered = calls.flatMap Event.octets := by
  rw [inMemory, deliver_memory]
  simp [buffered]

/-- A stream of texts takes each of the values by itself. -/
theorem deliver_textual_bytes (shown : Array Symbol) (values : List Bytes) :
    (textual shown).deliver (values.map Event.bytes) =
      .textual (shown ++ values.flatMap Utf8.decodeReplacing) := by
  induction values generalizing shown with
  | nil => simp [deliver]
  | cons value others ih =>
    change (textual (shown ++ Utf8.decodeReplacing value)).deliver (others.map Event.bytes) = _
    rw [ih]
    exact congrArg Output.textual (Array.toList_inj.mp (by simp))

/-- The text of what memory holds is the text of a string, and it writes back the bytes exactly when
they are valid. Reading them from left to right shows this text and no other. Wherever the reading
stands, valid bytes are carried over; where no well-formed sequence stands, one replacement
character stands for the longest piece that begins one, or for a single byte if there is none; and
what follows is shown as if it stood alone. So a stream of texts that is given bytes write by write
shows the same in the end when all writes but the last are valid. -/
theorem buffered_text_is_repaired :
    (∀ calls : List Event,
      let output := inMemory.deliver calls
      let octets := output.buffered
      let text := output.bufferedText
      octets = calls.flatMap Event.octets ∧
      (∃ string : String, text = Text.ofString string) ∧
      (Utf8.encode text).toByteArray.IsValidUTF8 ∧
      (Utf8.encode text = octets ↔ octets.toByteArray.IsValidUTF8) ∧
      (∀ shown, Utf8.Reads octets shown [] ↔ shown = text) ∧
      ∀ shown rest, Utf8.Reads octets shown rest →
        text = shown ++ Utf8.decodeReplacing rest ∧
        (∀ front later, rest = front ++ later → front.toByteArray.IsValidUTF8 →
          ∃ string : String, string.toByteArray = front.toByteArray ∧
            text = shown ++ Text.ofString string ++ Utf8.decodeReplacing later) ∧
        (rest ≠ [] → (∀ value : Char, ¬String.utf8EncodeChar value <+: rest) →
          ∃ piece later, rest = piece ++ later ∧ Utf8.IsBroken piece rest ∧
            text = shown ++ [.char '\uFFFD'] ++ Utf8.decodeReplacing later)) ∧
    ∀ values : List Bytes, (∀ value ∈ values.dropLast, value.toByteArray.IsValidUTF8) →
      let calls := values.map Event.bytes
      overText.deliver calls = .textual (inMemory.deliver calls).bufferedText.toArray := by
  refine ⟨fun calls => ?_, fun values valid => ?_⟩
  · intro output octets text
    obtain ⟨string, shown⟩ : ∃ string : String, text = Text.ofString string :=
      Utf8.exists_decodeReplacing_eq octets
    refine ⟨buffered_deliver calls, ⟨string, shown⟩, ?_, Utf8.repaired_eq_iff,
      fun _ => Utf8.reads_to_end_iff, fun before rest reads => ?_⟩
    · exact Utf8.isValidUTF8_iff.mpr ⟨string, congrArg Utf8.encode shown.symm⟩
    · have here : text = before ++ Utf8.decodeReplacing rest := reads.decodeReplacing_eq
      refine ⟨here, ?_, fun filled stuck => ?_⟩
      · rintro front later rfl valid
        obtain ⟨carried, rfl⟩ := Utf8.isValidUTF8_iff.mp valid
        refine ⟨carried, (Utf8.encode_ofString carried).symm, ?_⟩
        rw [here, Utf8.decodeReplacing_encode_append, List.append_assoc]
      · obtain ⟨piece, later, rfl, broken, -⟩ := Utf8.exists_isBroken filled stuck
        refine ⟨piece, later, rfl, broken, ?_⟩
        rw [here, Utf8.decodeReplacing_broken_append broken, List.append_assoc]
        rfl
  · intro calls
    have octets : calls.flatMap Event.octets = values.flatten := by
      simp [calls, List.flatMap_map, Event.octets]
    rw [bufferedText, buffered_deliver, octets, Utf8.decodeReplacing_flatten valid]
    refine (deliver_textual_bytes #[] _).trans (congrArg Output.textual (Array.toList_inj.mp ?_))
    simp

/-- A sequence that was cut short counts as one piece, and the character behind it is still read. -/
theorem buffered_text_is_repaired_of_cut :
    let calls := [Event.text "a", .bytes [0xE2, 0x82], .bytes [0x41, 0xFF]]
    let text := (inMemory.deliver calls).bufferedText
    let rest : Bytes := [0xE2, 0x82, 0x41, 0xFF]
    let writes := [Event.bytes [0xE2, 0x82, 0xAC], .bytes [0xE2, 0x82]]
    Utf8.Reads (0x61 :: rest) "a" rest ∧ (∀ value : Char, ¬String.utf8EncodeChar value <+: rest) ∧
    (∃ piece later, rest = piece ++ later ∧ Utf8.IsBroken piece rest ∧
      text = ("a" : Text) ++ [.char '\uFFFD'] ++ Utf8.decodeReplacing later) ∧
    text = "a\uFFFDA\uFFFD" ∧
    ([0x61] : Bytes).toByteArray.IsValidUTF8 ∧
    (∃ string : String, string.toByteArray = ([0x61] : Bytes).toByteArray ∧
      text = Text.ofString string ++ Utf8.decodeReplacing rest) ∧
    ([0xE2, 0x82, 0xAC] : Bytes).toByteArray.IsValidUTF8 ∧
    overText.deliver writes = .textual (inMemory.deliver writes).bufferedText.toArray := by
  intro calls text rest writes
  have reads : Utf8.Reads (0x61 :: rest) "a" rest := .sequence 'a' (.done rest)
  have stuck : ∀ value : Char, ¬String.utf8EncodeChar value <+: rest :=
    Utf8.stuck_of_broken (by decide : Utf8.chunks rest =
      [.broken [0xE2, 0x82], .character 'A', .broken [0xFF]])
  have letter : ([0x61] : Bytes).toByteArray.IsValidUTF8 := Utf8.isWellFormed_iff.mp (by decide)
  have euro : ([0xE2, 0x82, 0xAC] : Bytes).toByteArray.IsValidUTF8 :=
    Utf8.isWellFormed_iff.mp (by decide)
  obtain ⟨memory, stream⟩ := buffered_text_is_repaired
  obtain ⟨-, -, -, -, -, positions⟩ := memory calls
  obtain ⟨-, -, broken⟩ := positions _ rest reads
  obtain ⟨-, carried, -⟩ := positions _ _ (.done _)
  exact ⟨reads, stuck, broken (by decide) stuck, by decide, letter, carried [0x61] rest rfl letter,
    euro, stream [[0xE2, 0x82, 0xAC], [0xE2, 0x82]] (by simpa using euro)⟩

/-- A write that ends within a sequence is shown before the sequence is whole. -/
example :
    let writes := [Event.bytes [0xE2], .bytes [0x82, 0xAC]]
    (inMemory.deliver writes).bufferedText = "€" ∧
      (overText.deliver writes).content = Utf8.encode "\uFFFD\uFFFD\uFFFD" := by
  decide +kernel

end Output

end PlainShell

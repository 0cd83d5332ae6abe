import PlainShell.Text.Utf8

/-!
Reading octets as text loses none of them. A sequence that has begun is faithful: whichever octets
complete it, the character they make is written with the octets that were read. Stray bytes write
their own octet. So a text that was decoded encodes to the octets it came from. Octets below `0x80`
are characters wherever they stand, and the octets on their two sides are read apart.
-/

namespace PlainShell.Utf8

theorem toNat_charOfNat {code : Nat} (valid : code.isValidChar) :
    (Char.ofNat code).toNat = code := by
  rw [Char.ofNat, dif_pos valid]
  rfl

theorem ofNat_eq_octet (octet : UInt8) {code : Nat} (same : code = octet.toNat) :
    UInt8.ofNat code = octet := by
  rw [same, UInt8.ofNat_toNat]

/-! The octets of a character, by the size of its code. -/

section Sizes

variable {code : Nat} (valid : code.isValidChar)
include valid

theorem encodeChar_of_one (below : code < 0x80) :
    encodeChar (Char.ofNat code) = [UInt8.ofNat code] := by
  simp only [encodeChar, toNat_charOfNat valid, if_pos below]

theorem encodeChar_of_two (least : 0x80 ≤ code) (below : code < 0x800) :
    encodeChar (Char.ofNat code) =
      [UInt8.ofNat (0xC0 + code / 64), UInt8.ofNat (0x80 + code % 64)] := by
  simp only [encodeChar, toNat_charOfNat valid, if_neg (Nat.not_lt.mpr least), if_pos below]

theorem encodeChar_of_three (least : 0x800 ≤ code) (below : code < 0x10000) :
    encodeChar (Char.ofNat code) =
      [UInt8.ofNat (0xE0 + code / 4096), UInt8.ofNat (0x80 + code / 64 % 64),
        UInt8.ofNat (0x80 + code % 64)] := by
  have long : ¬code < 0x80 := by omega
  simp only [encodeChar, toNat_charOfNat valid, if_neg long, if_neg (Nat.not_lt.mpr least),
    if_pos below]

theorem encodeChar_of_four (least : 0x10000 ≤ code) :
    encodeChar (Char.ofNat code) =
      [UInt8.ofNat (0xF0 + code / 262144), UInt8.ofNat (0x80 + code / 4096 % 64),
        UInt8.ofNat (0x80 + code / 64 % 64), UInt8.ofNat (0x80 + code % 64)] := by
  have long : ¬code < 0x80 := by omega
  have longer : ¬code < 0x800 := by omega
  simp only [encodeChar, toNat_charOfNat valid, if_neg long, if_neg longer,
    if_neg (Nat.not_lt.mpr least)]

end Sizes

/-! Sequences that have begun. -/

/-- Whichever octets complete the sequence, they and those seen are the octets of its character. -/
def Completes : (left : Nat) → (seen : Bytes) → (value low high : Nat) → Prop
  | 0, seen, value, low, high => ∀ octet : UInt8, low ≤ octet.toNat → octet.toNat ≤ high →
      encodeChar (Char.ofNat (value * 64 + (octet.toNat - 0x80))) = seen ++ [octet]
  | left + 1, seen, value, low, high => ∀ octet : UInt8, low ≤ octet.toNat → octet.toNat ≤ high →
      Completes left (seen ++ [octet]) (value * 64 + (octet.toNat - 0x80)) 0x80 0xBF

structure Pending.Faithful (pending : Pending) : Prop where
  low : 0x80 ≤ pending.low
  seen : ∀ octet ∈ pending.seen, 0x80 ≤ octet.toNat
  completes : Completes pending.left pending.seen pending.value pending.low pending.high

theorem completes_two (lead : UInt8) (least : 0xC2 ≤ lead.toNat) (most : lead.toNat < 0xE0) :
    Completes 0 [lead] (lead.toNat - 0xC0) 0x80 0xBF := by
  intro second low high
  rw [encodeChar_of_two (Or.inl (by omega)) (by omega) (by omega), ofNat_eq_octet lead (by omega),
    ofNat_eq_octet second (by omega)]
  rfl

/-- The bounds on the second octet keep out the codes that two octets would spell, and the
surrogates. -/
theorem completes_three (lead : UInt8) (least : 0xE0 ≤ lead.toNat) (most : lead.toNat < 0xF0) :
    Completes 1 [lead] (lead.toNat - 0xE0) (if lead.toNat = 0xE0 then 0xA0 else 0x80)
      (if lead.toNat = 0xED then 0x9F else 0xBF) := by
  intro second low high third low' high'
  have continued : 0x80 ≤ second.toNat ∧ second.toNat ≤ 0xBF := by
    constructor
    · split at low <;> omega
    · split at high <;> omega
  have code : 0x800 ≤ ((lead.toNat - 0xE0) * 64 + (second.toNat - 0x80)) * 64 +
      (third.toNat - 0x80) := by
    split at low <;> omega
  have valid : (((lead.toNat - 0xE0) * 64 + (second.toNat - 0x80)) * 64 +
      (third.toNat - 0x80)).isValidChar := by
    by_cases below : lead.toNat < 0xEE
    · refine Or.inl ?_
      split at high <;> omega
    · exact Or.inr ⟨by omega, by omega⟩
  rw [encodeChar_of_three valid code (by omega), ofNat_eq_octet lead (by omega),
    ofNat_eq_octet second (by omega), ofNat_eq_octet third (by omega)]
  rfl

/-- The bounds on the second octet keep out the codes that three octets would spell, and what is
beyond the last code point. -/
theorem completes_four (lead : UInt8) (least : 0xF0 ≤ lead.toNat) (most : lead.toNat < 0xF5) :
    Completes 2 [lead] (lead.toNat - 0xF0) (if lead.toNat = 0xF0 then 0x90 else 0x80)
      (if lead.toNat = 0xF4 then 0x8F else 0xBF) := by
  intro second low high third low' high' fourth low'' high''
  have continued : 0x80 ≤ second.toNat ∧ second.toNat ≤ 0xBF := by
    constructor
    · split at low <;> omega
    · split at high <;> omega
  have code : 0x10000 ≤ (((lead.toNat - 0xF0) * 64 + (second.toNat - 0x80)) * 64 +
      (third.toNat - 0x80)) * 64 + (fourth.toNat - 0x80) := by
    split at low <;> omega
  have valid : ((((lead.toNat - 0xF0) * 64 + (second.toNat - 0x80)) * 64 +
      (third.toNat - 0x80)) * 64 + (fourth.toNat - 0x80)).isValidChar := by
    refine Or.inr ⟨by omega, ?_⟩
    split at high <;> omega
  rw [encodeChar_of_four valid code, ofNat_eq_octet lead (by omega),
    ofNat_eq_octet second (by omega), ofNat_eq_octet third (by omega),
    ofNat_eq_octet fourth (by omega)]
  rfl

/-! Steps, and whole runs. -/

theorem encode_append (first second : Text) :
    encode (first ++ second) = encode first ++ encode second := List.flatMap_append

theorem encode_strays {octets : Bytes} (high : ∀ octet ∈ octets, 0x80 ≤ octet.toNat) :
    encode (octets.map strayOf) = octets := by
  induction octets with
  | nil => rfl
  | cons octet rest ih =>
    obtain ⟨here, others⟩ := List.forall_mem_cons.mp high
    have most := octet.toNat_lt
    have own : encodeSymbol (strayOf octet) = [octet] :=
      congrArg ([·]) (ofNat_eq_octet octet (by simp only; omega))
    rw [List.map_cons, encode, List.flatMap_cons, own]
    exact congrArg (octet :: ·) (ih others)

/-- The octets of a sequence that waits to be completed. -/
def held : Option Pending → Bytes
  | none => []
  | some pending => pending.seen

def writtenBy (chunks : List Chunk) : Bytes := encode (chunks.flatMap Chunk.symbols)

/-- The step stands for these octets: those that it makes ready, and behind them those that wait. -/
structure Step.StandsFor (step : Step) (octets : Bytes) : Prop where
  octets : writtenBy step.1 ++ held step.2 = octets
  faithful : ∀ pending ∈ step.2, pending.Faithful

theorem Step.StandsFor.of_ready {chunk : Chunk} {octets : Bytes}
    (written : writtenBy [chunk] = octets) : Step.StandsFor ([chunk], none) octets :=
  ⟨by rw [held, List.append_nil, written], by simp⟩

theorem Step.StandsFor.of_pending {pending : Pending} (faithful : pending.Faithful) :
    Step.StandsFor ([], some pending) pending.seen :=
  ⟨rfl, by simpa using faithful⟩

theorem writtenBy_broken {octets : Bytes} (high : ∀ octet ∈ octets, 0x80 ≤ octet.toNat) :
    writtenBy [.broken octets] = octets := by
  simp [writtenBy, Chunk.symbols, encode_strays high]

theorem start_standsFor (octet : UInt8) : Step.StandsFor (start octet) [octet] := by
  have most := octet.toNat_lt
  unfold start
  dsimp only
  split
  · next ascii =>
    refine .of_ready ?_
    simp [writtenBy, Chunk.symbols, encode, encodeSymbol,
      encodeChar_of_one (Or.inl (by omega)) ascii]
  · next high =>
    have lead : ∀ seen ∈ [octet], 0x80 ≤ seen.toNat := by simpa using high
    split
    · exact .of_ready (writtenBy_broken lead)
    · split
      · exact .of_pending ⟨Nat.le_refl _, lead, completes_two octet (by omega) (by omega)⟩
      · split
        · refine .of_pending ⟨?_, lead, completes_three octet (by omega) (by omega)⟩
          split <;> simp
        · split
          · refine .of_pending ⟨?_, lead, completes_four octet (by omega) (by omega)⟩
            split <;> simp
          · exact .of_ready (writtenBy_broken lead)

theorem Pending.Faithful.advance {pending : Pending} (faithful : pending.Faithful) {octet : UInt8}
    (accepted : pending.accepts octet = true) :
    Step.StandsFor (pending.advance octet) (pending.seen ++ [octet]) := by
  obtain ⟨low, seen, completes⟩ := faithful
  simp only [accepts, Bool.and_eq_true, decide_eq_true_eq] at accepted
  unfold Pending.advance
  cases owed : pending.left with
  | zero =>
    rw [owed] at completes
    refine .of_ready ?_
    simpa [writtenBy, Chunk.symbols, encode, encodeSymbol] using
      completes octet accepted.1 accepted.2
  | succ left =>
    rw [owed] at completes
    refine .of_pending ⟨Nat.le_refl _, ?_, completes octet accepted.1 accepted.2⟩
    intro earlier member
    rcases List.mem_append.mp member with before | last
    · exact seen earlier before
    · rw [List.mem_singleton.mp last]
      omega

theorem step_standsFor {state : Option Pending} (faithful : ∀ pending ∈ state, pending.Faithful)
    (octet : UInt8) : Step.StandsFor (step state octet) (held state ++ [octet]) := by
  cases state with
  | none => exact start_standsFor octet
  | some pending =>
    have own : pending.Faithful := faithful pending rfl
    rw [step]
    split
    · next accepted => exact own.advance accepted
    · obtain ⟨octets, later⟩ := start_standsFor octet
      refine ⟨?_, later⟩
      calc
        _ = writtenBy [.broken pending.seen] ++
            (writtenBy (start octet).1 ++ held (start octet).2) := by
          simp [writtenBy, encode_append]
        _ = pending.seen ++ [octet] := by rw [writtenBy_broken own.seen, octets]

/-- The chunks write what was held before them and all that is read. -/
theorem writtenBy_chunksFrom {state : Option Pending}
    (faithful : ∀ pending ∈ state, pending.Faithful) (octets : Bytes) :
    writtenBy (chunksFrom state octets) = held state ++ octets := by
  induction octets generalizing state with
  | nil =>
    cases state with
    | none => rfl
    | some pending =>
      have own : pending.Faithful := faithful pending rfl
      rw [chunksFrom, writtenBy_broken own.seen, held, List.append_nil]
  | cons octet rest ih =>
    obtain ⟨octets, later⟩ := step_standsFor faithful octet
    calc
      _ = writtenBy (step state octet).1 ++ writtenBy (chunksFrom (step state octet).2 rest) := by
        simp [writtenBy, chunksFrom, encode_append]
      _ = writtenBy (step state octet).1 ++ held (step state octet).2 ++ rest := by
        rw [ih later, List.append_assoc]
      _ = held state ++ octet :: rest := by rw [octets, List.append_assoc, List.singleton_append]

/-- No octet is lost or changed on the way through a text. -/
theorem encode_decode (octets : Bytes) : encode (decode octets) = octets :=
  writtenBy_chunksFrom (by simp) octets

theorem decode_injective {first second : Bytes} (same : decode first = decode second) :
    first = second := by
  rw [← encode_decode first, same, encode_decode]

/-! Octets below `0x80`. -/

/-- The character of an octet below `0x80`. -/
def ascii (octet : UInt8) : Symbol := .char (Char.ofNat octet.toNat)

theorem step_ascii {octet : UInt8} (small : octet.toNat < 0x80) {state : Option Pending}
    (faithful : ∀ pending ∈ state, pending.Faithful) :
    step state octet = (chunksFrom state [] ++ [.character (Char.ofNat octet.toNat)], none) := by
  have begins : start octet = ([.character (Char.ofNat octet.toNat)], none) := by
    simp only [start, if_pos small]
  cases state with
  | none => exact begins
  | some pending =>
    have own : pending.Faithful := faithful pending rfl
    have refused : ¬pending.accepts octet = true := by
      have low := own.low
      simp only [Pending.accepts, Bool.and_eq_true, decide_eq_true_eq]
      omega
    rw [step, if_neg refused, begins]
    rfl

theorem chunksFrom_append_ascii {octet : UInt8} (small : octet.toNat < 0x80)
    {state : Option Pending} (faithful : ∀ pending ∈ state, pending.Faithful)
    (before later : Bytes) :
    chunksFrom state (before ++ octet :: later) =
      chunksFrom state before ++ .character (Char.ofNat octet.toNat) :: chunks later := by
  induction before generalizing state with
  | nil => simp [chunksFrom.eq_def _ (octet :: later), step_ascii small faithful, chunks]
  | cons first rest ih =>
    have later := (step_standsFor faithful first).faithful
    simp [chunksFrom, ih later]

/-- An octet below `0x80` cuts what is read: the octets on its two sides are read apart. -/
theorem decode_append_ascii {octet : UInt8} (small : octet.toNat < 0x80) (before later : Bytes) :
    decode (before ++ octet :: later) = decode before ++ ascii octet :: decode later := by
  rw [decode, chunks, chunksFrom_append_ascii small (by simp)]
  simp [decode, chunks, Chunk.symbols, ascii]

/-- A character below `0x80` is read only where its octet stands. -/
theorem not_mem_decode {octet : UInt8} (small : octet.toNat < 0x80) {octets : Bytes}
    (absent : octet ∉ octets) : ascii octet ∉ decode octets := by
  intro member
  have own : encodeSymbol (ascii octet) = [octet] := by
    rw [ascii, encodeSymbol, encodeChar_of_one (Or.inl (by omega)) small, UInt8.ofNat_toNat]
  apply absent
  rw [← encode_decode octets, encode]
  exact List.mem_flatMap.mpr ⟨_, member, by simp [own]⟩

theorem decode_eq_nil_iff {octets : Bytes} : decode octets = [] ↔ octets = [] := by
  constructor
  · exact fun empty => decode_injective empty
  · rintro rfl
    rfl

end PlainShell.Utf8

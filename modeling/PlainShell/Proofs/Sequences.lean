import PlainShell.Proofs.Octets

/-!
Well-formed sequences and broken pieces, told without the reader. A sequence is well-formed when it
spells a character. Where none stands, as much of one as there is makes a broken piece, or a single
octet if there is nothing of the kind. The reader's chunks are these: it takes every sequence for
its character, whatever follows, and every piece at its full length, and it goes on behind either as
if it began there.
-/

namespace PlainShell.Utf8

/-- Characters are written as in any string. -/
theorem utf8EncodeChar_eq (value : Char) : String.utf8EncodeChar value = encodeChar value := by
  have valid : value.toNat < 0xD800 ∨ 0xDFFF < value.toNat ∧ value.toNat < 0x110000 := value.valid
  have code : value.val.toNat = value.toNat := rfl
  simp only [String.utf8EncodeChar, encodeChar, code]
  by_cases one : value.toNat < 0x80
  · rw [if_pos (by omega), if_pos one]
  rw [if_neg (by omega), if_neg one]
  by_cases two : value.toNat < 0x800
  · rw [if_pos (by omega), if_pos two, Nat.mod_eq_of_lt (by omega : value.toNat / 64 < 0x20)]
    simp only [Nat.add_comm]
  rw [if_neg (by omega), if_neg two]
  by_cases three : value.toNat < 0x10000
  · rw [if_pos (by omega), if_pos three, Nat.mod_eq_of_lt (by omega : value.toNat / 4096 < 0x10)]
    simp only [Nat.add_comm]
  · rw [if_neg (by omega), if_neg three, Nat.mod_eq_of_lt (by omega : value.toNat / 262144 < 8)]
    simp only [Nat.add_comm]

/-- The octets begin a well-formed sequence and do not finish it. -/
def IsUnfinished (octets : Bytes) : Prop :=
  octets ≠ [] ∧ ∃ value : Char, octets <+: String.utf8EncodeChar value ∧
    octets ≠ String.utf8EncodeChar value

/-- No well-formed sequence stands at the beginning of the octets. The piece is the longest that
begins one there, or a single octet if nothing does. -/
structure IsBroken (piece octets : Bytes) : Prop where
  begins : piece <+: octets
  stuck : ∀ value : Char, ¬String.utf8EncodeChar value <+: octets
  longest :
    (IsUnfinished piece ∧
      ∀ other, other <+: octets → IsUnfinished other → other.length ≤ piece.length) ∨
    (piece.length = 1 ∧ ∀ other, other <+: octets → ¬IsUnfinished other)

namespace IsBroken

variable {piece octets : Bytes}

theorem ne_nil (broken : IsBroken piece octets) : piece ≠ [] := by
  rcases broken.longest with ⟨unfinished, _⟩ | ⟨single, _⟩
  · exact unfinished.1
  · rintro rfl
    simp at single

theorem unique {other : Bytes} (broken : IsBroken piece octets) (too : IsBroken other octets) :
    piece = other := by
  have lengths : piece.length = other.length := by
    rcases broken.longest with ⟨unfinished, longest⟩ | ⟨single, none⟩
    · rcases too.longest with ⟨unfinished', longest'⟩ | ⟨_, none⟩
      · exact Nat.le_antisymm (longest' _ broken.begins unfinished)
          (longest _ too.begins unfinished')
      · exact absurd unfinished (none _ broken.begins)
    · rcases too.longest with ⟨unfinished, _⟩ | ⟨single', _⟩
      · exact absurd unfinished (none _ too.begins)
      · rw [single, single']
  have begins : piece <+: other :=
    List.prefix_of_prefix_length_le broken.begins too.begins (Nat.le_of_eq lengths)
  exact begins.eq_of_length lengths

end IsBroken

/-! Sequences are read as their characters, by the number of their octets. -/

theorem start_of_two {lead : UInt8} (least : 0xC2 ≤ lead.toNat) (most : lead.toNat < 0xE0) :
    start lead = ([], some ⟨[lead], lead.toNat - 0xC0, 0x80, 0xBF, 0⟩) := by
  have long : ¬lead.toNat < 0x80 := by omega
  simp only [start, if_neg long, if_neg (Nat.not_lt.mpr least), if_pos most]

theorem start_of_three {lead : UInt8} (least : 0xE0 ≤ lead.toNat) (most : lead.toNat < 0xF0) :
    start lead = ([], some ⟨[lead], lead.toNat - 0xE0, if lead.toNat = 0xE0 then 0xA0 else 0x80,
      if lead.toNat = 0xED then 0x9F else 0xBF, 1⟩) := by
  have long : ¬lead.toNat < 0x80 := by omega
  have longer : ¬lead.toNat < 0xC2 := by omega
  simp only [start, if_neg long, if_neg longer, if_neg (Nat.not_lt.mpr least), if_pos most]

theorem start_of_four {lead : UInt8} (least : 0xF0 ≤ lead.toNat) (most : lead.toNat < 0xF5) :
    start lead = ([], some ⟨[lead], lead.toNat - 0xF0, if lead.toNat = 0xF0 then 0x90 else 0x80,
      if lead.toNat = 0xF4 then 0x8F else 0xBF, 2⟩) := by
  have long : ¬lead.toNat < 0x80 := by omega
  have longer : ¬lead.toNat < 0xC2 := by omega
  have longest : ¬lead.toNat < 0xE0 := by omega
  simp only [start, if_neg long, if_neg longer, if_neg longest, if_neg (Nat.not_lt.mpr least),
    if_pos most]

theorem chunks_cons_of_start {lead : UInt8} {ready : List Chunk} {state : Option Pending}
    (begun : start lead = (ready, state)) (rest : Bytes) :
    chunks (lead :: rest) = ready ++ chunksFrom state rest := by
  rw [chunks, chunksFrom, step, begun]

theorem Pending.accepts_iff {pending : Pending} {octet : UInt8} :
    pending.accepts octet = true ↔ pending.low ≤ octet.toNat ∧ octet.toNat ≤ pending.high := by
  simp [accepts]

section Feeding

variable {seen : Bytes} {value low high : Nat} {octet : UInt8} (least : low ≤ octet.toNat)
  (most : octet.toNat ≤ high)
include least most

/-- The octet that is owed last makes the character ready. -/
theorem chunksFrom_last {code : Nat} (whole : value * 64 + (octet.toNat - 0x80) = code)
    (rest : Bytes) :
    chunksFrom (some ⟨seen, value, low, high, 0⟩) (octet :: rest) =
      .character (Char.ofNat code) :: chunks rest := by
  have accepted : Pending.accepts ⟨seen, value, low, high, 0⟩ octet = true :=
    Pending.accepts_iff.mpr ⟨least, most⟩
  simp only [chunksFrom, step, if_pos accepted, Pending.advance, whole]
  rfl

theorem chunksFrom_next (left : Nat) (rest : Bytes) :
    chunksFrom (some ⟨seen, value, low, high, left + 1⟩) (octet :: rest) =
      chunksFrom (some ⟨seen ++ [octet], value * 64 + (octet.toNat - 0x80), 0x80, 0xBF, left⟩)
        rest := by
  have accepted : Pending.accepts ⟨seen, value, low, high, left + 1⟩ octet = true :=
    Pending.accepts_iff.mpr ⟨least, most⟩
  simp only [chunksFrom, step, if_pos accepted, Pending.advance]
  rfl

end Feeding

section Sizes

variable {code : Nat} (valid : code.isValidChar)
include valid

theorem chunks_of_two (least : 0x80 ≤ code) (below : code < 0x800) (rest : Bytes) :
    chunks (encodeChar (Char.ofNat code) ++ rest) =
      .character (Char.ofNat code) :: chunks rest := by
  have lead := UInt8.toNat_ofNat_of_lt' (by omega : 0xC0 + code / 64 < 256)
  have last := UInt8.toNat_ofNat_of_lt' (by omega : 0x80 + code % 64 < 256)
  rw [encodeChar_of_two valid least below]
  simp only [List.cons_append, List.nil_append]
  rw [chunks_cons_of_start (start_of_two (by omega) (by omega))]
  exact chunksFrom_last (by omega) (by omega) (by omega) rest

/-- The second octet is within its bounds because the code needs three octets and is no surrogate.
-/
theorem chunks_of_three (least : 0x800 ≤ code) (below : code < 0x10000) (rest : Bytes) :
    chunks (encodeChar (Char.ofNat code) ++ rest) =
      .character (Char.ofNat code) :: chunks rest := by
  have apart : code < 0xD800 ∨ 0xDFFF < code ∧ code < 0x110000 := valid
  have lead := UInt8.toNat_ofNat_of_lt' (by omega : 0xE0 + code / 4096 < 256)
  have second := UInt8.toNat_ofNat_of_lt' (by omega : 0x80 + code / 64 % 64 < 256)
  have last := UInt8.toNat_ofNat_of_lt' (by omega : 0x80 + code % 64 < 256)
  rw [encodeChar_of_three valid least below]
  simp only [List.cons_append, List.nil_append]
  rw [chunks_cons_of_start (start_of_three (by omega) (by omega)), List.nil_append,
    chunksFrom_next (by split <;> omega) (by split <;> omega)]
  exact chunksFrom_last (by omega) (by omega) (by omega) rest

/-- The second octet is within its bounds because the code needs four octets and is a code point. -/
theorem chunks_of_four (least : 0x10000 ≤ code) (rest : Bytes) :
    chunks (encodeChar (Char.ofNat code) ++ rest) =
      .character (Char.ofNat code) :: chunks rest := by
  have point : code < 0xD800 ∨ 0xDFFF < code ∧ code < 0x110000 := valid
  have lead := UInt8.toNat_ofNat_of_lt' (by omega : 0xF0 + code / 262144 < 256)
  have second := UInt8.toNat_ofNat_of_lt' (by omega : 0x80 + code / 4096 % 64 < 256)
  have third := UInt8.toNat_ofNat_of_lt' (by omega : 0x80 + code / 64 % 64 < 256)
  have last := UInt8.toNat_ofNat_of_lt' (by omega : 0x80 + code % 64 < 256)
  rw [encodeChar_of_four valid least]
  simp only [List.cons_append, List.nil_append]
  rw [chunks_cons_of_start (start_of_four (by omega) (by omega)), List.nil_append,
    chunksFrom_next (by split <;> omega) (by split <;> omega),
    chunksFrom_next (by omega) (by omega)]
  exact chunksFrom_last (by omega) (by omega) (by omega) rest

end Sizes

/-- A well-formed sequence is read as its character, whatever follows it. -/
theorem chunks_encodeChar_append (value : Char) (rest : Bytes) :
    chunks (encodeChar value ++ rest) = .character value :: chunks rest := by
  have valid : value.toNat.isValidChar := value.valid
  have same : Char.ofNat value.toNat = value := Char.ofNat_toNat value
  generalize value.toNat = code at valid same
  subst same
  by_cases one : code < 0x80
  · have small := UInt8.toNat_ofNat_of_lt' (by omega : code < 256)
    have begins : start (UInt8.ofNat code) = ([.character (Char.ofNat code)], none) := by
      simp only [start, small, if_pos one]
    rw [encodeChar_of_one valid one, List.singleton_append, chunks_cons_of_start begins]
    rfl
  · by_cases two : code < 0x800
    · exact chunks_of_two valid (Nat.not_lt.mp one) two rest
    · by_cases three : code < 0x10000
      · exact chunks_of_three valid (Nat.not_lt.mp two) three rest
      · exact chunks_of_four valid (Nat.not_lt.mp three) rest

/-- Where the reader meets a broken piece, no well-formed sequence stands. -/
theorem stuck_of_broken {octets piece : Bytes} {later : List Chunk}
    (read : chunks octets = .broken piece :: later) (value : Char) :
    ¬String.utf8EncodeChar value <+: octets := by
  rintro ⟨rest, rfl⟩
  rw [utf8EncodeChar_eq, chunks_encodeChar_append] at read
  cases read

/-- Octets that the reader breaks, whatever comes behind them, begin no well-formed sequence. -/
theorem not_isUnfinished_of_broken {octets piece : Bytes}
    (broken : ∀ owed, ∃ later, chunks (octets ++ owed) = .broken piece :: later) :
    ¬IsUnfinished octets := by
  rintro ⟨-, value, ⟨owed, whole⟩, -⟩
  obtain ⟨later, read⟩ := broken owed
  exact stuck_of_broken read value ⟨[], by rw [List.append_nil, whole]⟩

/-! Pieces are read at their full length. -/

theorem Completes.finish {left : Nat} {seen : Bytes} {value low high : Nat}
    (completes : Completes left seen value low high) (least : low ≤ high) (most : high ≤ 0xBF) :
    ∃ (character : Char) (owed : Bytes), owed ≠ [] ∧ encodeChar character = seen ++ owed := by
  have octet := UInt8.toNat_ofNat_of_lt' (by omega : low < 256)
  induction left generalizing seen value low high with
  | zero => exact ⟨_, [UInt8.ofNat low], by simp, completes _ (by omega) (by omega)⟩
  | succ left ih =>
    have further := completes (UInt8.ofNat low) (by omega) (by omega)
    obtain ⟨character, owed, -, whole⟩ := ih further (by decide) (by decide) rfl
    exact ⟨character, UInt8.ofNat low :: owed, by simp, by simpa using whole⟩

/-- The reader comes to wait for this sequence when it has read what is seen of it, and there are
octets that it would accept. -/
structure Pending.Begun (pending : Pending) : Prop where
  faithful : pending.Faithful
  least : pending.low ≤ pending.high
  most : pending.high ≤ 0xBF
  filled : pending.seen ≠ []
  reads : ∀ later, chunks (pending.seen ++ later) = chunksFrom (some pending) later

namespace Pending.Begun

variable {pending : Pending} (begun : pending.Begun)
include begun

theorem unfinished : IsUnfinished pending.seen := by
  obtain ⟨character, owed, filled, whole⟩ :=
    begun.faithful.completes.finish begun.least begun.most
  refine ⟨begun.filled, character, ?_, ?_⟩
  · rw [utf8EncodeChar_eq, whole]
    exact List.prefix_append ..
  · rw [utf8EncodeChar_eq, whole]
    intro same
    exact filled (List.self_eq_append_right.mp same)

/-- An octet that cannot continue the sequence leaves a broken piece, whatever comes after it. -/
theorem chunks_refused {octet : UInt8} (refused : ¬pending.accepts octet = true) (later : Bytes) :
    chunks (pending.seen ++ octet :: later) = .broken pending.seen :: chunks (octet :: later) := by
  rw [begun.reads]
  simp only [chunks, chunksFrom, step, if_neg refused, List.cons_append]

theorem chunks_ended {later : Bytes} (ends : ∀ octet ∈ later.head?, ¬pending.accepts octet = true) :
    chunks (pending.seen ++ later) = .broken pending.seen :: chunks later := by
  cases later with
  | nil => rw [begun.reads]; rfl
  | cons octet rest => exact begun.chunks_refused (ends octet rfl) rest

/-- Nothing longer begins a well-formed sequence: with the octet that was refused the reader would
have met a broken piece there as well. -/
theorem isBroken {later : Bytes} (ends : ∀ octet ∈ later.head?, ¬pending.accepts octet = true) :
    IsBroken pending.seen (pending.seen ++ later) := by
  refine ⟨List.prefix_append .., stuck_of_broken (begun.chunks_ended ends),
    Or.inl ⟨begun.unfinished, fun other begins unfinished => ?_⟩⟩
  refine Nat.not_lt.mp fun longer => ?_
  obtain ⟨beyond, rfl⟩ : pending.seen <+: other :=
    List.prefix_of_prefix_length_le (List.prefix_append ..) begins (Nat.le_of_lt longer)
  cases beyond with
  | nil => simp at longer
  | cons octet more =>
    obtain ⟨rest, rfl⟩ : octet :: more <+: later := (List.prefix_append_right_inj _).mp begins
    have read (owed : Bytes) : ∃ later, chunks (pending.seen ++ octet :: more ++ owed) =
        .broken pending.seen :: later := by
      rw [List.append_assoc]
      exact ⟨_, begun.chunks_refused (ends octet rfl) (more ++ owed)⟩
    exact not_isUnfinished_of_broken read unfinished

end Pending.Begun

theorem Pending.Begun.of_start {octet : UInt8} {pending : Pending}
    (begins : start octet = ([], some pending)) (seen : pending.seen = [octet])
    (least : pending.low ≤ pending.high) (most : pending.high ≤ 0xBF) : pending.Begun := by
  have faithful : pending.Faithful := (start_standsFor octet).faithful pending (by rw [begins]; rfl)
  refine ⟨faithful, least, most, by simp [seen], fun later => ?_⟩
  rw [seen, List.singleton_append, chunks_cons_of_start begins, List.nil_append]

/-- What an octet begins: a character, a broken piece, or a sequence that it leaves unfinished. -/
theorem start_cases (octet : UInt8) :
    (∃ value, start octet = ([.character value], none) ∧ encodeChar value = [octet]) ∨
    start octet = ([.broken [octet]], none) ∨
    ∃ pending : Pending, pending.seen = [octet] ∧ pending.Begun := by
  by_cases one : octet.toNat < 0x80
  · refine Or.inl ⟨Char.ofNat octet.toNat, by simp only [start, if_pos one], ?_⟩
    rw [encodeChar_of_one (Or.inl (by omega)) one, UInt8.ofNat_toNat]
  by_cases none : octet.toNat < 0xC2
  · exact Or.inr (Or.inl (by simp only [start, if_neg one, if_pos none]))
  by_cases two : octet.toNat < 0xE0
  · exact Or.inr (Or.inr ⟨_, rfl, .of_start (start_of_two (by omega) two) rfl (by simp) (by simp)⟩)
  by_cases three : octet.toNat < 0xF0
  · refine Or.inr (Or.inr ⟨_, rfl, .of_start (start_of_three (by omega) three) rfl ?_ ?_⟩)
    · dsimp only
      split <;> split <;> omega
    · dsimp only
      split <;> omega
  by_cases four : octet.toNat < 0xF5
  · refine Or.inr (Or.inr ⟨_, rfl, .of_start (start_of_four (by omega) four) rfl ?_ ?_⟩)
    · dsimp only
      split <;> split <;> omega
    · dsimp only
      split <;> omega
  · exact Or.inr (Or.inl (by simp only [start, if_neg one, if_neg none, if_neg two, if_neg three,
      if_neg four]))

theorem Pending.Begun.next {seen : Bytes} {value low high left : Nat} {octet : UInt8}
    (begun : Pending.Begun ⟨seen, value, low, high, left + 1⟩) (least : low ≤ octet.toNat)
    (most : octet.toNat ≤ high) :
    Pending.Begun ⟨seen ++ [octet], value * 64 + (octet.toNat - 0x80), 0x80, 0xBF, left⟩ := by
  have accepted : Pending.accepts ⟨seen, value, low, high, left + 1⟩ octet = true :=
    Pending.accepts_iff.mpr ⟨least, most⟩
  refine ⟨(begun.faithful.advance accepted).faithful _ rfl, by simp, by simp, by simp,
    fun later => ?_⟩
  calc
    _ = chunks (seen ++ octet :: later) := by simp
    _ = chunksFrom (some ⟨seen, value, low, high, left + 1⟩) (octet :: later) := begun.reads _
    _ = _ := chunksFrom_next least most left later

/-- The chunk is what stands at the beginning of the octets, and the rest follows it. -/
def Chunk.Heads : (chunk : Chunk) → (octets rest : Bytes) → Prop
  | .character value, octets, rest => octets = String.utf8EncodeChar value ++ rest
  | .broken piece, octets, rest => octets = piece ++ rest ∧ IsBroken piece octets

theorem Pending.Begun.heads {pending : Pending} (begun : pending.Begun) (later : Bytes) :
    ∃ chunk rest, chunk.Heads (pending.seen ++ later) rest ∧
      chunks (pending.seen ++ later) = chunk :: chunks rest := by
  -- An octet that is accepted moves from what comes later to what is seen.
  induction later generalizing pending with
  | nil =>
    have ends : ∀ octet ∈ ([] : Bytes).head?, ¬pending.accepts octet = true := by simp
    exact ⟨.broken pending.seen, [], ⟨rfl, begun.isBroken ends⟩, begun.chunks_ended ends⟩
  | cons octet rest ih =>
    by_cases accepted : pending.accepts octet = true
    · obtain ⟨seen, value, low, high, left⟩ := pending
      obtain ⟨least, most⟩ := Pending.accepts_iff.mp accepted
      have moved : seen ++ [octet] ++ rest = seen ++ octet :: rest := by simp
      cases left with
      | zero =>
        refine ⟨.character _, rest, ?_, (begun.reads _).trans (chunksFrom_last least most rfl _)⟩
        rw [Chunk.Heads, utf8EncodeChar_eq, begun.faithful.completes octet least most, moved]
      | succ left =>
        have heads := ih (begun.next least most)
        rwa [moved] at heads
    · have ends : ∀ first ∈ (octet :: rest).head?, ¬pending.accepts first = true := by
        simpa using accepted
      exact ⟨.broken pending.seen, octet :: rest, ⟨rfl, begun.isBroken ends⟩,
        begun.chunks_ended ends⟩

theorem IsBroken.of_start {octet : UInt8} (begins : start octet = ([.broken [octet]], none))
    (rest : Bytes) : IsBroken [octet] (octet :: rest) := by
  have read (later : Bytes) : chunks (octet :: later) = .broken [octet] :: chunks later :=
    chunks_cons_of_start begins later
  refine ⟨⟨rest, rfl⟩, stuck_of_broken (read rest), Or.inr ⟨rfl, fun other front unfinished => ?_⟩⟩
  cases other with
  | nil => exact unfinished.1 rfl
  | cons first more =>
    obtain ⟨rfl, -⟩ := List.cons_prefix_cons.mp front
    exact not_isUnfinished_of_broken (fun owed => ⟨_, read (more ++ owed)⟩) unfinished

/-- The first chunk is what stands there, and what follows is read as if it stood alone. -/
theorem chunks_heads {octets : Bytes} (filled : octets ≠ []) :
    ∃ chunk rest, chunk.Heads octets rest ∧ chunks octets = chunk :: chunks rest := by
  cases octets with
  | nil => exact absurd rfl filled
  | cons octet rest =>
    rcases start_cases octet with ⟨value, begins, whole⟩ | begins | ⟨pending, seen, begun⟩
    · refine ⟨.character value, rest, ?_, chunks_cons_of_start begins rest⟩
      rw [Chunk.Heads, utf8EncodeChar_eq, whole, List.singleton_append]
    · exact ⟨.broken [octet], rest, ⟨rfl, .of_start begins rest⟩, chunks_cons_of_start begins rest⟩
    · have heads := begun.heads rest
      rwa [seen, List.singleton_append] at heads

/-- After `0xED` an octet from `0xA0` on would begin a surrogate, so it begins anew. -/
example : chunks [0xE2, 0x82, 0x41, 0xED, 0xA0] =
    [.broken [0xE2, 0x82], .character 'A', .broken [0xED], .broken [0xA0]] := by decide

/-- Where no well-formed sequence stands, one broken piece does. -/
theorem exists_isBroken {octets : Bytes} (filled : octets ≠ [])
    (stuck : ∀ value : Char, ¬String.utf8EncodeChar value <+: octets) :
    ∃ piece rest, octets = piece ++ rest ∧ IsBroken piece octets ∧
      chunks octets = .broken piece :: chunks rest := by
  obtain ⟨chunk, rest, heads, read⟩ := chunks_heads filled
  cases chunk with
  | character value => exact absurd ⟨rest, heads.symm⟩ (stuck value)
  | broken piece => exact ⟨piece, rest, heads.1, heads.2, read⟩

/-- However a broken piece has been found, the reader finds the same. -/
theorem IsBroken.chunks_append {piece rest : Bytes} (broken : IsBroken piece (piece ++ rest)) :
    chunks (piece ++ rest) = .broken piece :: chunks rest := by
  have filled : piece ++ rest ≠ [] := List.append_ne_nil_of_left_ne_nil broken.ne_nil rest
  obtain ⟨other, later, whole, too, read⟩ := exists_isBroken filled broken.stuck
  obtain rfl : piece = other := broken.unique too
  obtain rfl : rest = later := List.append_cancel_left whole
  exact read

end PlainShell.Utf8

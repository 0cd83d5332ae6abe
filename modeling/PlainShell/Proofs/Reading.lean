import Mathlib.Data.List.DropRight
import PlainShell.ShellError
import PlainShell.Proofs.Typed

/-!
Reading an input to its end, and on. The lines come one after another, each without the blanks
around it, and after the last one every further call fails in the same way, whether or not something
without a line end is left. Which of the line ends an input uses makes no difference.
-/

namespace PlainShell

/-! Stripping. -/

def Symbol.isStray : Symbol → Bool
  | .char _ => false
  | .stray _ => true

namespace Text

/-- The line is what is left of the piece when nothing but blanks goes from its ends. -/
structure Trims (piece line : Text) : Prop where
  whole : ∃ front back, piece = front ++ line ++ back ∧
    ∀ symbol ∈ front ++ back, symbol.isBlank = true
  trimmed : line.IsTrimmed

theorem trims_strip (piece : Text) : Trims piece piece.strip := by
  have inner : piece.strip ++ (piece.dropWhile Symbol.isBlank).rtakeWhile Symbol.isBlank =
      piece.dropWhile Symbol.isBlank := List.rdropWhile_append_rtakeWhile
  refine ⟨⟨piece.takeWhile Symbol.isBlank,
    (piece.dropWhile Symbol.isBlank).rtakeWhile Symbol.isBlank, ?_, ?_⟩, ?_, ?_⟩
  · calc piece
        = piece.takeWhile Symbol.isBlank ++ piece.dropWhile Symbol.isBlank :=
          List.takeWhile_append_dropWhile.symm
      _ = piece.takeWhile Symbol.isBlank ++ (piece.strip ++
            (piece.dropWhile Symbol.isBlank).rtakeWhile Symbol.isBlank) :=
          congrArg (_ ++ ·) inner.symm
      _ = _ := (List.append_assoc ..).symm
  · intro symbol member
    rcases List.mem_append.mp member with front | back
    · exact List.mem_takeWhile_imp front
    · exact List.mem_rtakeWhile_imp back
  · exact fun symbol first => head?_strip first
  · intro symbol last
    have filled : piece.strip ≠ [] := by
      rintro empty
      simp [empty] at last
    have visible := List.rdropWhile_last_not Symbol.isBlank _ filled
    have same : piece.strip.getLast filled = symbol :=
      Option.some.inj ((List.getLast?_eq_some_getLast filled).symm.trans last)
    exact Bool.eq_false_iff.mpr (same ▸ visible)

namespace Trims

variable {piece line : Text} (trims : Trims piece line)
include trims

theorem subset : line ⊆ piece := by
  obtain ⟨front, back, rfl, -⟩ := trims.whole
  intro symbol member
  simp [member]

/-- A stray byte is no blank, so none is lost. -/
theorem filter_isStray : line.filter Symbol.isStray = piece.filter Symbol.isStray := by
  obtain ⟨front, back, rfl, blank⟩ := trims.whole
  have none {part : Text} (blanks : ∀ symbol ∈ part, symbol.isBlank = true) :
      part.filter Symbol.isStray = [] := by
    rw [List.filter_eq_nil_iff]
    intro symbol member
    have blank := blanks symbol member
    cases symbol with
    | char value => simp [Symbol.isStray]
    | stray low => simp [Symbol.isBlank] at blank
  obtain ⟨before, behind⟩ := List.forall_mem_append.mp blank
  rw [List.filter_append, List.filter_append, none before, none behind, List.nil_append,
    List.append_nil]

end Trims

end Text

/-! One call after another. -/

/-- What the caller of a reader is given. -/
def Input.Reading.result : Reading → Except Departure Text
  | .line text _ => .ok text
  | .failed details => .error (.fault (.shell (.inputRead details)))
  | .interrupted => .error .interrupt

namespace Input

/-- The input after a call. Where there is no line, what was left is gone. -/
def rest (input : Input) : Input :=
  match input.next with
  | .line _ rest => rest
  | .failed _ | .interrupted => input.drained

/-- What a call is given, when so many have been made before it. -/
def call (input : Input) : Nat → Except Departure Text
  | 0 => input.next.result
  | earlier + 1 => input.rest.call earlier

/-- What a call is given where the input is exhausted. -/
def endOfInput : Except Departure Text := .error (.fault (.shell (.inputRead "EOF")))

theorem lines_rest (input : Input) :
    input.rest.lines = input.lines.tail ∧ input.rest.ending = input.ending := by
  unfold rest
  cases read : input.next with
  | line text rest =>
    obtain ⟨lines, ending⟩ := lines_of_next_line read
    exact ⟨by rw [lines, List.tail_cons], ending⟩
  | failed details =>
    have none := (lines_of_next_failed read).1
    exact ⟨by rw [none]; rfl, rfl⟩
  | interrupted =>
    have none := (lines_of_next_interrupted read).1
    exact ⟨by rw [none]; rfl, rfl⟩

theorem result_next {input : Input} (ends : input.ending = .exhausted) :
    input.next.result = (input.lines.head?.map Except.ok).getD endOfInput := by
  cases read : input.next with
  | line text rest =>
    rw [(lines_of_next_line read).1]
    rfl
  | failed details =>
    obtain ⟨none, told⟩ := lines_of_next_failed read
    rw [ends] at told
    obtain rfl := Option.some.inj told
    rw [none]
    rfl
  | interrupted =>
    have other := (lines_of_next_interrupted read).2
    rw [ends] at other
    simp at other

/-- The calls are given the lines in their order, and from then on the end of the input. -/
theorem call_eq {input : Input} (ends : input.ending = .exhausted) (earlier : Nat) :
    input.call earlier = (input.lines[earlier]?.map Except.ok).getD endOfInput := by
  induction earlier generalizing input with
  | zero => rw [call, result_next ends, List.head?_eq_getElem?]
  | succ earlier ih =>
    obtain ⟨lines, ending⟩ := input.lines_rest
    rw [call, ih (ending.trans ends), lines, List.getElem?_tail]

/-! Pieces. -/

/-- The text is the pieces, each with a line feed behind it, and then a tail. -/
structure Pieces (text : Text) (pieces : List Text) (tail : Text) : Prop where
  whole : text = pieces.flatMap (· ++ [lineFeed]) ++ tail
  single : ∀ piece ∈ pieces, lineFeed ∉ piece
  unended : lineFeed ∉ tail

theorem exists_pieces (text : Text) : ∃ pieces tail, Pieces text pieces tail := by
  induction text with
  | nil => exact ⟨[], [], rfl, by simp, by simp⟩
  | cons symbol rest ih =>
    obtain ⟨pieces, tail, whole, single, unended⟩ := ih
    by_cases ends : symbol = lineFeed
    · exact ⟨[] :: pieces, tail, by simp [whole, ends], by simpa using single, unended⟩
    · cases pieces with
      | nil =>
        refine ⟨[], symbol :: tail, by simpa using whole, by simp, ?_⟩
        exact List.not_mem_cons_of_ne_of_not_mem (Ne.symm ends) unended
      | cons piece more =>
        obtain ⟨here, others⟩ := List.forall_mem_cons.mp single
        refine ⟨(symbol :: piece) :: more, tail, by simp [whole], ?_, unended⟩
        exact List.forall_mem_cons.mpr
          ⟨List.not_mem_cons_of_ne_of_not_mem (Ne.symm ends) here, others⟩

theorem Pieces.lines_eq {text tail : Text} {pieces : List Text} (cut : Pieces text pieces tail)
    (ending : Ending) : lines ⟨text, ending⟩ = pieces.map Text.strip := by
  obtain ⟨rfl, single, unended⟩ := cut
  induction pieces with
  | nil =>
    simp only [lines, List.flatMap_nil, List.nil_append, List.splitOn_eq_singleton unended]
    rfl
  | cons piece more ih =>
    obtain ⟨here, others⟩ := List.forall_mem_cons.mp single
    rw [List.flatMap_cons, List.append_assoc, List.append_assoc, List.singleton_append,
      lines_cons here, ih others]
    rfl

/-! Line ends. -/

/-- The second text is the first with a line feed for each of its line ends: for a carriage return
and a line feed together, and for a carriage return alone. -/
inductive Unifies : Text → Text → Prop
  | done : Unifies [] []
  | pair {rest unified : Text} (onward : Unifies rest unified) :
    Unifies (carriageReturn :: lineFeed :: rest) (lineFeed :: unified)
  | alone {rest unified : Text} (apart : rest.head? ≠ some lineFeed)
    (onward : Unifies rest unified) : Unifies (carriageReturn :: rest) (lineFeed :: unified)
  | kept {symbol : Symbol} {rest unified : Text} (other : symbol ≠ carriageReturn)
    (onward : Unifies rest unified) : Unifies (symbol :: rest) (symbol :: unified)

theorem unifies_unifyLineEnds (text : Text) :
    Unifies text (unifyLineEnds false text) ∧
      Unifies (carriageReturn :: text) (lineFeed :: unifyLineEnds true text) := by
  have differ : carriageReturn ≠ lineFeed := by decide
  induction text with
  | nil => exact ⟨.done, .alone (by simp) .done⟩
  | cons symbol rest ih =>
    obtain ⟨plain, returned⟩ := ih
    by_cases carriage : symbol = carriageReturn
    · subst carriage
      have same (afterReturn : Bool) : unifyLineEnds afterReturn (carriageReturn :: rest) =
          lineFeed :: unifyLineEnds true rest := if_pos rfl
      rw [same, same]
      exact ⟨returned, .alone (by simpa using differ) returned⟩
    · have kept : unifyLineEnds false (symbol :: rest) = symbol :: unifyLineEnds false rest := by
        rw [unifyLineEnds, if_neg carriage, if_neg (by simp)]
      refine ⟨kept ▸ .kept carriage plain, ?_⟩
      by_cases feed : symbol = lineFeed
      · subst feed
        rw [unifyLineEnds, if_neg carriage, if_pos (by simp)]
        exact .pair plain
      · rw [unifyLineEnds, if_neg carriage, if_neg (by simp [feed])]
        exact .alone (by simpa using feed) (.kept carriage plain)

/-- The list with the others in place of each mark in it. -/
def replaced {α : Type} [DecidableEq α] (mark : α) (others list : List α) : List α :=
  list.flatMap fun item => if item = mark then others else [item]

theorem replaced_of_not_mem {α : Type} [DecidableEq α] {mark : α} {list : List α}
    (absent : mark ∉ list) (others : List α) : replaced mark others list = list := by
  refine (List.flatMap_congr fun item member => if_neg ?_).trans (List.flatMap_singleton' list)
  exact ne_of_mem_of_not_mem member absent

theorem replaced_append_cons {α : Type} [DecidableEq α] {mark : α} {before : List α}
    (absent : mark ∉ before) (others later : List α) :
    replaced mark others (before ++ mark :: later) =
      before ++ (others ++ replaced mark others later) := by
  rw [replaced, List.flatMap_append, List.flatMap_cons, if_pos rfl]
  exact congrArg (· ++ _) (replaced_of_not_mem absent others)

section Kinds

variable {ends : Bytes} (kind : ends = [0x0D, 0x0A] ∨ ends = [0x0D])
include kind

theorem decode_append_ends (before later : Bytes) :
    Utf8.decode (before ++ (ends ++ later)) =
      Utf8.decode before ++ (Utf8.decode ends ++ Utf8.decode later) := by
  have carriage (before later : Bytes) : Utf8.decode (before ++ 0x0D :: later) =
      Utf8.decode before ++ carriageReturn :: Utf8.decode later :=
    Utf8.decode_append_ascii (by decide) before later
  rcases kind with rfl | rfl
  · exact (carriage before (0x0A :: later)).trans
      (congrArg (_ ++ carriageReturn :: ·) (Utf8.decode_append_lineFeed [] later))
  · exact carriage before later

/-- Line feeds are octets of their own, so they can be replaced before the decoding or after it. -/
theorem decode_replaced (octets : Bytes) :
    Utf8.decode (replaced 0x0A ends octets) =
      replaced lineFeed (Utf8.decode ends) (Utf8.decode octets) := by
  have apart {part : Bytes} (feed : 0x0A ∉ part) : lineFeed ∉ Utf8.decode part :=
    Utf8.not_mem_decode (by decide) feed
  by_cases feed : 0x0A ∈ octets
  · obtain ⟨before, later, cut, first⟩ := List.eq_append_cons_of_mem feed
    have shorter : later.length < octets.length := by
      rw [cut, List.length_append, List.length_cons]
      omega
    rw [cut, replaced_append_cons first, decode_append_ends kind, decode_replaced later,
      Utf8.decode_append_lineFeed, replaced_append_cons (apart first)]
  · rw [replaced_of_not_mem feed, replaced_of_not_mem (apart feed)]
termination_by octets.length

theorem unifyLineEnds_replaced {text : Text} (carriage : carriageReturn ∉ text)
    (afterReturn : Bool) :
    unifyLineEnds afterReturn (replaced lineFeed (Utf8.decode ends) text) = text := by
  induction text generalizing afterReturn with
  | nil => rfl
  | cons symbol rest ih =>
    have other := List.ne_of_not_mem_cons carriage
    have onward := List.not_mem_of_not_mem_cons carriage
    rw [replaced, List.flatMap_cons]
    by_cases feed : symbol = lineFeed
    · rw [if_pos feed, feed]
      rcases kind with rfl | rfl
      · exact congrArg (lineFeed :: ·) (ih onward false)
      · exact congrArg (lineFeed :: ·) (ih onward true)
    · rw [if_neg feed, List.singleton_append, unifyLineEnds, if_neg (Ne.symm other),
        if_neg (by simp [feed])]
      exact congrArg (symbol :: ·) (ih onward false)

/-- Octets without a carriage return may have either kind of line end with one instead. -/
theorem ofBytes_replaced {octets : Bytes} (single : 0x0D ∉ octets) (ending : Ending) :
    ofBytes (replaced 0x0A ends octets) ending = ofBytes octets ending := by
  have carriage : carriageReturn ∉ Utf8.decode octets := Utf8.not_mem_decode (by decide) single
  have plain : unifyLineEnds false (Utf8.decode octets) = Utf8.decode octets := by
    simpa only [List.append_nil, unifyLineEnds] using unifyLineEnds_plain carriage []
  rw [ofBytes, ofBytes, decode_replaced kind, unifyLineEnds_replaced kind carriage, plain]

end Kinds

/-! The whole input. -/

theorem call_of_pieces {input : Input} {pieces : List Text} {tail : Text}
    (cut : Pieces input.pending pieces tail) (ends : input.ending = .exhausted) (earlier : Nat) :
    input.call earlier =
      match pieces[earlier]? with
      | some piece => .ok piece.strip
      | none => endOfInput := by
  have lines : input.lines = pieces.map Text.strip := cut.lines_eq input.ending
  rw [call_eq ends, lines, List.getElem?_map]
  cases pieces[earlier]? <;> rfl

/-- Octets read to their end: what the line ends are makes no difference, every piece that has one
is read without the blanks around it and with all else in it, and then there is only the end of the
input, whatever is left. -/
theorem reading_keeps_lines (octets : Bytes) :
    ∃ pieces tail,
      Unifies (Utf8.decode octets) (ofBytes octets .exhausted).pending ∧
      Pieces (ofBytes octets .exhausted).pending pieces tail ∧
      (∀ earlier, (ofBytes octets .exhausted).call earlier =
        match pieces[earlier]? with
        | some piece => .ok piece.strip
        | none => .error (.fault (.shell (.inputRead "EOF")))) ∧
      (∀ piece ∈ pieces, Text.Trims piece piece.strip ∧ lineFeed ∉ piece.strip ∧
        piece.strip.filter Symbol.isStray = piece.filter Symbol.isStray) ∧
      (0x0D ∉ octets → ∀ ends, ends = [0x0D, 0x0A] ∨ ends = [0x0D] → ∀ earlier,
        (ofBytes (replaced 0x0A ends octets) .exhausted).call earlier =
          (ofBytes octets .exhausted).call earlier) := by
  obtain ⟨pieces, tail, cut⟩ := exists_pieces (ofBytes octets .exhausted).pending
  refine ⟨pieces, tail, (unifies_unifyLineEnds _).1, cut, call_of_pieces cut rfl, ?_, ?_⟩
  · intro piece member
    have trims := Text.trims_strip piece
    exact ⟨trims, mt (trims.subset ·) (cut.single piece member), trims.filter_isStray⟩
  · intro single ends kind earlier
    rw [ofBytes_replaced kind single]

/-- Two stray bytes around a space, a line of spaces, and a letter that no line end follows. -/
theorem reading_keeps_lines_of_stray :
    0x0D ∉ ([0x85, 0x20, 0xA0, 0x0A, 0x20, 0x0A, 0x61] : Bytes) ∧
      ∃ input : Input, input = ofBytes [0x85, 0x20, 0xA0, 0x0A, 0x20, 0x0A, 0x61] .exhausted ∧
        input.call 0 = .ok [.stray 5, ' ', .stray 32] ∧ input.call 1 = .ok [] ∧
        input.call 2 = endOfInput ∧ input.call 3 = endOfInput ∧
        ∀ earlier, (ofBytes [0x85, 0x20, 0xA0, 0x0D, 0x20, 0x0D, 0x61] .exhausted).call earlier =
          input.call earlier := by
  have single : 0x0D ∉ ([0x85, 0x20, 0xA0, 0x0A, 0x20, 0x0A, 0x61] : Bytes) := by decide
  obtain ⟨-, -, -, -, -, -, same⟩ :=
    reading_keeps_lines [0x85, 0x20, 0xA0, 0x0A, 0x20, 0x0A, 0x61]
  exact ⟨single, _, rfl, rfl, rfl, rfl, rfl, same single [0x0D] (.inr rfl)⟩

end Input

end PlainShell

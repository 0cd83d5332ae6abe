import Mathlib.Data.List.Basic
import PlainShell.Proofs.Tokens

/-!
A line as tokens with gaps around them. A gap is a run of spaces; the first and the last may be
empty, those between two tokens may not. Every line can be written so, with one list of tokens and
no other, and these are the tokens that it is cut into.
-/

namespace PlainShell

namespace Tokens

/-- What can stand between two gaps: something, without a space in it. -/
structure IsWord (word : Text) : Prop where
  filled : word ≠ []
  whole : separator ∉ word

instance (word : Text) : Decidable (IsWord word) :=
  decidable_of_iff (word ≠ [] ∧ separator ∉ word)
    ⟨fun proper => ⟨proper.1, proper.2⟩, fun proper => ⟨proper.filled, proper.whole⟩⟩

/-- A run of spaces, of any width. -/
def gap (width : Nat) : Text := List.replicate width separator

/-- The line is a first gap and then the words, each with the gap behind it. -/
structure Spells (first : Nat) (spaced : List (Text × Nat)) (line : Text) : Prop where
  whole : line = gap first ++ spaced.flatMap fun entry => entry.1 ++ gap entry.2
  words : ∀ entry ∈ spaced, IsWord entry.1
  apart : ∀ entry ∈ spaced.dropLast, 0 < entry.2

/-! Building a line up and taking it apart, word by word. -/

theorem gap_succ (width : Nat) : gap (width + 1) = separator :: gap width := rfl

theorem spells_gap (width : Nat) : Spells width [] (gap width) :=
  ⟨(List.append_nil _).symm, by simp, by simp⟩

section Word

variable {first width : Nat} {word line rest : Text} {more : List (Text × Nat)}

/-- The gap behind a word is the first gap of the rest. -/
theorem Spells.cons (proper : IsWord word) (apart : more ≠ [] → 0 < width)
    (spells : Spells width more rest) :
    Spells first ((word, width) :: more) (gap first ++ (word ++ rest)) := by
  refine ⟨?_, List.forall_mem_cons.mpr ⟨proper, spells.words⟩, ?_⟩
  · rw [spells.whole, List.flatMap_cons, List.append_assoc]
  · by_cases last : more = []
    · simp [last]
    · rw [List.dropLast_cons_of_ne_nil last]
      exact List.forall_mem_cons.mpr ⟨apart last, spells.apart⟩

theorem Spells.uncons (spells : Spells first ((word, width) :: more) line) :
    ∃ rest, line = gap first ++ (word ++ rest) ∧ IsWord word ∧ (more ≠ [] → 0 < width) ∧
      Spells width more rest := by
  obtain ⟨proper, others⟩ := List.forall_mem_cons.mp spells.words
  refine ⟨gap width ++ more.flatMap fun entry => entry.1 ++ gap entry.2, ?_, proper, ?_, rfl,
    others, ?_⟩
  · rw [spells.whole, List.flatMap_cons, List.append_assoc]
  · intro further
    have apart := spells.apart
    rw [List.dropLast_cons_of_ne_nil further] at apart
    exact apart (word, width) (List.mem_cons_self ..)
  · intro entry member
    have further : more ≠ [] := by
      rintro rfl
      simp at member
    have apart := spells.apart
    rw [List.dropLast_cons_of_ne_nil further] at apart
    exact apart entry (List.mem_cons_of_mem _ member)

end Word

/-! Every line is spelled in some way. -/

theorem isWord_single {symbol : Symbol} (visible : symbol ≠ separator) : IsWord [symbol] :=
  ⟨by simp, by simpa using visible.symm⟩

/-- A symbol other than a space, in front of a line: it joins the word that begins there, or it is a
word by itself. -/
theorem Spells.push {symbol : Symbol} (visible : symbol ≠ separator) {first : Nat}
    {spaced : List (Text × Nat)} {line : Text} (spells : Spells first spaced line) :
    ∃ longer, Spells 0 longer (symbol :: line) := by
  cases first with
  | succ before =>
    exact ⟨_, .cons (isWord_single visible) (fun _ => before.succ_pos) spells⟩
  | zero =>
    cases spaced with
    | nil => exact ⟨_, .cons (isWord_single visible) (absurd rfl) spells⟩
    | cons entry more =>
      obtain ⟨rest, rfl, proper, apart, onward⟩ := spells.uncons
      have joined : IsWord (symbol :: entry.1) :=
        ⟨by simp, List.not_mem_cons_of_ne_of_not_mem visible.symm proper.whole⟩
      exact ⟨_, .cons joined apart onward⟩

theorem exists_spells (line : Text) : ∃ first spaced, Spells first spaced line := by
  induction line with
  | nil => exact ⟨0, [], spells_gap 0⟩
  | cons symbol rest ih =>
    obtain ⟨first, spaced, spells⟩ := ih
    by_cases space : symbol = separator
    · refine ⟨first + 1, spaced, ?_, spells.words, spells.apart⟩
      rw [space, spells.whole, gap_succ, List.cons_append]
    · obtain ⟨longer, pushed⟩ := spells.push space
      exact ⟨0, longer, pushed⟩

/-! However a line is spelled, its tokens are the words. -/

theorem ofLine_gap_append (width : Nat) (line : Text) :
    ofLine (gap width ++ line) = ofLine line := by
  induction width with
  | zero => rfl
  | succ width ih => rw [gap_succ, List.cons_append, ofLine_cons_separator, ih]

namespace Spells

variable {first : Nat} {spaced : List (Text × Nat)} {line : Text}
  (spells : Spells first spaced line)
include spells

theorem ofLine_eq : ofLine line = spaced.map Prod.fst := by
  induction spaced generalizing first line with
  | nil =>
    have bare : line = gap first ++ [] := spells.whole
    rw [bare, ofLine_gap_append]
    rfl
  | cons entry more ih =>
    obtain ⟨rest, rfl, proper, apart, onward⟩ := spells.uncons
    have behind : ofLine (entry.1 ++ rest) = entry.1 :: ofLine rest := by
      have alone := ofLine_word proper.filled proper.whole
      cases width : entry.2 with
      | zero =>
        -- Without a gap behind it the word is the last.
        obtain rfl : more = [] := by
          by_contra further
          simp [width] at apart
          exact further apart
        obtain rfl : rest = [] := by
          rw [onward.whole, width]
          rfl
        rw [List.append_nil, alone]
        rfl
      | succ further =>
        rw [width] at onward
        have opens : rest = separator :: (gap further ++
            more.flatMap fun entry => entry.1 ++ gap entry.2) := onward.whole
        rw [opens, ofLine_append_separator, alone, ofLine_cons_separator]
        rfl
    rw [ofLine_gap_append, behind, ih onward, List.map_cons]

theorem firstWord_eq :
    firstWord line = if first = 0 then (spaced.map Prod.fst).head?.getD [] else [] := by
  cases first with
  | succ before =>
    have opens : line = separator :: (gap before ++
        spaced.flatMap fun entry => entry.1 ++ gap entry.2) := spells.whole
    rw [if_neg before.succ_ne_zero, opens]
    simp [firstWord, Text.before]
  | zero =>
    rw [if_pos rfl]
    cases spaced with
    | nil =>
      obtain rfl : line = [] := spells.whole
      rfl
    | cons entry more =>
      have head : (ofLine line).head? = some entry.1 := by rw [spells.ofLine_eq]; rfl
      obtain ⟨rest, rfl, proper, -, -⟩ := spells.uncons
      refine firstWord_of_head?_ofLine ?_ head
      obtain ⟨symbol, others, filled⟩ := List.exists_cons_of_ne_nil proper.filled
      have visible : symbol ≠ separator := by
        rintro rfl
        exact proper.whole (by simp [filled])
      simpa [gap, filled] using visible

/-- What is no space is in the words. -/
theorem flatten_eq : (spaced.map Prod.fst).flatten = line.filter (· ≠ separator) := by
  have none (width : Nat) : (gap width).filter (· ≠ separator) = [] := by simp [gap]
  have all : ∀ entry ∈ spaced,
      (entry.1 ++ gap entry.2).filter (· ≠ separator) = entry.1 := by
    intro entry member
    have whole := (spells.words entry member).whole
    rw [List.filter_append, none, List.append_nil, List.filter_eq_self]
    intro symbol inside
    exact decide_eq_true (ne_of_mem_of_not_mem inside whole)
  rw [spells.whole, List.filter_append, none, List.nil_append, List.filter_flatMap,
    List.flatMap_congr all]
  rfl

end Spells

theorem ofLine_eq_iff {line : Text} {tokens : List Text} :
    ofLine line = tokens ↔
      ∃ first spaced, spaced.map Prod.fst = tokens ∧ Spells first spaced line := by
  constructor
  · rintro rfl
    obtain ⟨first, spaced, spells⟩ := exists_spells line
    exact ⟨first, spaced, spells.ofLine_eq.symm, spells⟩
  · rintro ⟨first, spaced, rfl, spells⟩
    exact spells.ofLine_eq

/-- The tokens are the line without its spaces. -/
theorem flatten_ofLine (line : Text) : (ofLine line).flatten = line.filter (· ≠ separator) := by
  obtain ⟨first, spaced, spells⟩ := exists_spells line
  rw [spells.ofLine_eq, spells.flatten_eq]

theorem ofLine_eq_nil_iff {line : Text} :
    ofLine line = [] ↔ ∀ symbol ∈ line, symbol = separator := by
  constructor
  · intro none
    have nothing := flatten_ofLine line
    rw [none] at nothing
    simpa using List.filter_eq_nil_iff.mp nothing.symm
  · intro spaces
    have bare : line = gap line.length := List.eq_replicate_of_mem spaces
    rw [bare]
    exact (spells_gap line.length).ofLine_eq

theorem ofLine_joined {words : List Text} (proper : ∀ word ∈ words, IsWord word) :
    ofLine (Text.joined " " words) = words := by
  have space : (" " : Text) = [separator] := rfl
  induction words with
  | nil => rfl
  | cons word rest ih =>
    obtain ⟨here, others⟩ := List.forall_mem_cons.mp proper
    have alone := ofLine_word here.filled here.whole
    cases rest with
    | nil => rw [Text.joined, List.intercalate_singleton, alone]
    | cons next later =>
      rw [Text.joined, List.intercalate_cons_cons, space, List.append_assoc,
        List.singleton_append, ofLine_append_separator, alone, ← space, ih others]
      rfl

/-- The tokens of a line are the one list of words that, with gaps around and between them, spells
the line. The first word of the line is the first of them if the line begins with it, and empty
otherwise. Words with single spaces between them are the tokens of that line, and two lines with a
space between them have the tokens of both. -/
theorem tokens_spell_line (line : Text) :
    (∀ tokens, ofLine line = tokens ↔
      ∃ first spaced, spaced.map Prod.fst = tokens ∧ Spells first spaced line) ∧
    (∀ first spaced, Spells first spaced line →
      firstWord line = if first = 0 then (spaced.map Prod.fst).head?.getD [] else []) ∧
    (ofLine line = [] ↔ ∀ symbol ∈ line, symbol = separator) ∧
    (ofLine line).flatten = line.filter (· ≠ separator) ∧
    (∀ words, (∀ word ∈ words, IsWord word) → ofLine (Text.joined " " words) = words) ∧
    ∀ other, ofLine (line ++ " " ++ other) = ofLine line ++ ofLine other := by
  refine ⟨fun tokens => ofLine_eq_iff, fun first spaced => Spells.firstWord_eq, ofLine_eq_nil_iff,
    flatten_ofLine line, fun words => ofLine_joined, ?_⟩
  intro other
  have space : (" " : Text) = [separator] := rfl
  rw [space, List.append_assoc, List.singleton_append, ofLine_append_separator]

/-- A line with a tab in front, which belongs to the first word, and with gaps of several widths. -/
theorem tokens_spell_line_of_tab :
    Spells 0 [("\techo", 2), ("a", 1), ("b", 3)] "\techo  a b   " ∧
      (∀ word ∈ [("\techo" : Text), "a"], IsWord word) ∧
      ofLine "\techo  a b   " = ["\techo", "a", "b"] ∧ firstWord "\techo  a b   " = "\techo" ∧
      ofLine "\techo a" = ["\techo", "a"] := by
  have spells : Spells 0 [("\techo", 2), ("a", 1), ("b", 3)] "\techo  a b   " :=
    ⟨by decide, by decide, by decide⟩
  have proper : ∀ word ∈ [("\techo" : Text), "a"], IsWord word := by decide
  obtain ⟨cut, first, -⟩ := tokens_spell_line "\techo  a b   "
  obtain ⟨-, -, -, -, joined, -⟩ := tokens_spell_line "\techo a"
  exact ⟨spells, proper, (cut _).mpr ⟨0, _, rfl, spells⟩, first 0 _ spells, joined _ proper⟩

end Tokens

end PlainShell

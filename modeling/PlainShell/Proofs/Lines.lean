import Mathlib.Data.List.TakeWhile
import PlainShell.Input

/-!
The lines of an input, taken all at once. Reading them one by one gives the same texts: as long as a
line end is left there is a next line, and after the last one the reader meets the ending.
-/

namespace PlainShell

namespace Text

/-- A cut shows the text as it was, and the first side is free of the mark. -/
theorem eq_of_cut {mark : Symbol} {text first rest : Text}
    (found : cut mark text = some (first, rest)) :
    text = first ++ mark :: rest ∧ mark ∉ first := by
  unfold cut before at found
  split at found
  · simp at found
  · next symbol tail whole =>
    simp only [Option.some.injEq, Prod.mk.injEq] at found
    obtain ⟨rfl, rfl⟩ := found
    have marked : symbol = mark := by
      have stopped := List.head?_dropWhile_not (fun symbol => decide (symbol ≠ mark)) text
      rw [whole] at stopped
      simpa using stopped
    refine ⟨?_, ?_⟩
    · rw [marked] at whole
      rw [← whole, List.takeWhile_append_dropWhile]
    · intro inside
      have kept := List.mem_takeWhile_imp inside
      simp at kept

theorem not_mem_of_cut {mark : Symbol} {text : Text} (absent : cut mark text = none) :
    mark ∉ text := by
  unfold cut at absent
  split at absent
  · next whole =>
    intro inside
    have kept := List.dropWhile_eq_nil_iff.mp whole mark inside
    simp at kept
  · simp at absent

end Text

/-- What the reader is told at this ending; an interrupt tells nothing. -/
def Ending.failure? : Ending → Option Text
  | .exhausted => some "EOF"
  | .failed details => some details
  | .interrupted => none

namespace Input

/-- The lines that have their end, without the blanks around them. What follows the last line end is
no line. -/
def lines (input : Input) : List Text :=
  (input.pending.splitOn lineFeed).dropLast.map Text.strip

theorem lines_of_next_line {input rest : Input} {line : Text}
    (read : input.next = .line line rest) :
    input.lines = line :: rest.lines ∧ rest.ending = input.ending := by
  unfold next at read
  split at read
  · next piece later found =>
    obtain ⟨whole, free⟩ := Text.eq_of_cut found
    simp only [Reading.line.injEq] at read
    obtain ⟨rfl, rfl⟩ := read
    have pieces := List.splitOn_append_cons_self_of_not_mem free later
    refine ⟨?_, rfl⟩
    rw [lines, whole, pieces, List.dropLast_cons_of_ne_nil (List.splitOn_ne_nil _ _), List.map_cons]
    rfl
  · split at read <;> simp at read

private theorem lines_of_no_cut {input : Input} (absent : Text.cut lineFeed input.pending = none) :
    input.lines = [] := by
  rw [lines, List.splitOn_eq_singleton (Text.not_mem_of_cut absent)]
  rfl

theorem lines_of_next_failed {input : Input} {details : Text}
    (read : input.next = .failed details) :
    input.lines = [] ∧ input.ending.failure? = some details := by
  unfold next at read
  split at read
  · simp at read
  · next absent =>
    refine ⟨lines_of_no_cut absent, ?_⟩
    split at read <;> simp_all [Ending.failure?]

theorem lines_of_next_interrupted {input : Input} (read : input.next = .interrupted) :
    input.lines = [] ∧ input.ending = .interrupted := by
  unfold next at read
  split at read
  · simp at read
  · next absent =>
    refine ⟨lines_of_no_cut absent, ?_⟩
    split at read <;> simp_all

end Input

end PlainShell

import Mathlib.Data.List.TakeWhile
import PlainShell.Text.Blank
import PlainShell.Tokens

/-!
The tokens of a line are cut at its spaces. The first word of a line and its first token are the
same word when the line does not begin with a space, and a line that has been stripped does not.
-/

namespace PlainShell

namespace Text

theorem head?_splitOn (mark : Symbol) (text : Text) :
    (text.splitOn mark).head? = some (before mark text) := by
  induction text with
  | nil => rfl
  | cons symbol rest ih =>
    rw [List.splitOn_cons_eq_if_modifyHead]
    by_cases marked : symbol = mark
    · simp [marked, before]
    · have kept : before mark (symbol :: rest) = symbol :: before mark rest := by
        simp [before, marked]
      have other : (symbol == mark) = false := by simp [marked]
      rw [other, kept]
      cases pieces : rest.splitOn mark with
      | nil => exact absurd pieces (List.splitOn_ne_nil mark rest)
      | cons piece later =>
        rw [pieces, List.head?_cons, Option.some.injEq] at ih
        simp [ih]

theorem dropEndWhile_prefix (unwanted : Symbol → Bool) (text : Text) :
    dropEndWhile unwanted text <+: text := by
  rw [dropEndWhile, ← List.reverse_suffix, List.reverse_reverse]
  exact List.dropWhile_suffix unwanted

/-- A stripped text does not begin with a blank. -/
theorem head?_strip {text : Text} {symbol : Symbol} (first : text.strip.head? = some symbol) :
    symbol.isBlank = false := by
  obtain ⟨rest, whole⟩ := dropEndWhile_prefix Symbol.isBlank (text.dropWhile Symbol.isBlank)
  have kept : (text.dropWhile Symbol.isBlank).head? = some symbol := by
    rw [← whole]
    change (text.strip ++ rest).head? = _
    rw [List.head?_append, first]
    rfl
  have stopped := List.head?_dropWhile_not Symbol.isBlank text
  simpa [kept] using stopped

end Text

namespace Tokens

/-- A space cuts a line, whatever stands on its two sides. -/
theorem ofLine_append_separator (before later : Text) :
    ofLine (before ++ separator :: later) = ofLine before ++ ofLine later := by
  rw [ofLine, List.splitOn_append_cons_self, List.filter_append]
  rfl

theorem ofLine_cons_separator (line : Text) : ofLine (separator :: line) = ofLine line :=
  ofLine_append_separator [] line

theorem ofLine_word {word : Text} (filled : word ≠ []) (whole : separator ∉ word) :
    ofLine word = [word] := by
  rw [ofLine, List.splitOn_eq_singleton whole]
  simp [filled]

theorem head?_ofLine_of_firstWord {line word : Text} (first : firstWord line = word)
    (filled : word ≠ []) : (ofLine line).head? = some word := by
  have head := Text.head?_splitOn separator line
  unfold ofLine
  cases pieces : line.splitOn separator with
  | nil => exact absurd pieces (List.splitOn_ne_nil separator line)
  | cons piece rest =>
    rw [pieces, List.head?_cons, Option.some.injEq] at head
    have same : piece = word := head.trans first
    simp [same, filled]

/-- Without a space in front, the first token of a line is its first word. -/
theorem firstWord_of_head?_ofLine {line word : Text} (flush : line.head? ≠ some separator)
    (first : (ofLine line).head? = some word) : firstWord line = word := by
  cases line with
  | nil => simp [ofLine] at first
  | cons symbol rest =>
    have visible : symbol ≠ separator := by simpa using flush
    have filled : firstWord (symbol :: rest) ≠ [] := by simp [firstWord, Text.before, visible]
    have own := head?_ofLine_of_firstWord rfl filled
    exact Option.some.inj (own.symm.trans first)

end Tokens

end PlainShell

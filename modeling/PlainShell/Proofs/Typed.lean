import PlainShell.Proofs.Lines
import PlainShell.Proofs.Octets
import PlainShell.Proofs.Tokens

/-!
Lines as they are typed, octet by octet. Spaces, line feeds and carriage returns are octets below
`0x80`, so the text of a line is cut where its octets are cut, whatever stands between the cuts: the
tokens of the text are the texts of the tokens, and the lines of an input are the texts of what
stands between its line feeds.
-/

namespace PlainShell

theorem Utf8.decode_append_space (before later : Bytes) :
    Utf8.decode (before ++ 0x20 :: later) =
      Utf8.decode before ++ Tokens.separator :: Utf8.decode later :=
  Utf8.decode_append_ascii (by decide) before later

theorem Utf8.decode_append_lineFeed (before later : Bytes) :
    Utf8.decode (before ++ 0x0A :: later) =
      Utf8.decode before ++ Input.lineFeed :: Utf8.decode later :=
  Utf8.decode_append_ascii (by decide) before later

/-! Tokens. -/

/-- What can be typed as one token: something, without a space and without a line end. -/
structure IsToken (octets : Bytes) : Prop where
  filled : octets ≠ []
  space : 0x20 ∉ octets
  lineFeed : 0x0A ∉ octets
  carriageReturn : 0x0D ∉ octets

/-- The tokens, typed as one line with one space or more between neighbours. -/
inductive Spaced : List Bytes → Bytes → Prop
  | last {token : Bytes} (proper : IsToken token) : Spaced [token] token
  | cons {token : Bytes} {tokens : List Bytes} {line : Bytes} (proper : IsToken token) (more : Nat)
      (rest : Spaced tokens line) :
      Spaced (token :: tokens) (token ++ 0x20 :: (List.replicate more 0x20 ++ line))

theorem IsToken.ofLine_decode {token : Bytes} (proper : IsToken token) :
    Tokens.ofLine (Utf8.decode token) = [Utf8.decode token] := by
  apply Tokens.ofLine_word
  · exact mt Utf8.decode_eq_nil_iff.mp proper.filled
  · exact Utf8.not_mem_decode (by decide) proper.space

theorem ofLine_decode_spaces (count : Nat) (line : Bytes) :
    Tokens.ofLine (Utf8.decode (List.replicate count 0x20 ++ line)) =
      Tokens.ofLine (Utf8.decode line) := by
  induction count with
  | zero => rfl
  | succ count ih =>
    have first := Utf8.decode_append_space [] (List.replicate count 0x20 ++ line)
    rw [List.nil_append] at first
    rw [List.replicate_succ, List.cons_append, first, ← ih]
    exact Tokens.ofLine_cons_separator _

namespace Spaced

variable {tokens : List Bytes} {line : Bytes}

/-- A line is cut into the texts of its tokens, however wide the gaps are. -/
theorem ofLine_decode (spaced : Spaced tokens line) :
    Tokens.ofLine (Utf8.decode line) = tokens.map Utf8.decode := by
  induction spaced with
  | last proper => exact proper.ofLine_decode
  | cons proper more rest ih =>
    rw [Utf8.decode_append_space, Tokens.ofLine_append_separator, proper.ofLine_decode,
      ofLine_decode_spaces, ih]
    rfl

theorem not_mem {octet : UInt8} (visible : octet ≠ 0x20) (spaced : Spaced tokens line)
    (absent : ∀ token ∈ tokens, octet ∉ token) : octet ∉ line := by
  induction spaced with
  | last proper => exact absent _ (List.mem_singleton_self _)
  | cons proper more rest ih =>
    obtain ⟨here, others⟩ := List.forall_mem_cons.mp absent
    simp [here, visible, ih others]

theorem isToken (spaced : Spaced tokens line) : ∀ token ∈ tokens, IsToken token := by
  induction spaced with
  | last proper => simpa using proper
  | cons proper more rest ih => exact List.forall_mem_cons.mpr ⟨proper, ih⟩

end Spaced

/-- The text has no blank at its ends, so that reading it as a line leaves it as it is. -/
def Text.IsTrimmed (text : Text) : Prop :=
  (∀ symbol ∈ text.head?, symbol.isBlank = false) ∧
    ∀ symbol ∈ text.getLast?, symbol.isBlank = false

instance (text : Text) : Decidable text.IsTrimmed :=
  inferInstanceAs (Decidable (_ ∧ _))

theorem Text.dropWhile_blank {text : Text} (flush : ∀ symbol ∈ text.head?, symbol.isBlank = false) :
    text.dropWhile Symbol.isBlank = text := by
  cases text with
  | nil => rfl
  | cons symbol rest => exact List.dropWhile_cons_of_neg (by simp [flush symbol rfl])

theorem Text.IsTrimmed.strip_eq {text : Text} (trimmed : text.IsTrimmed) : text.strip = text := by
  have ending : ∀ symbol ∈ text.reverse.head?, symbol.isBlank = false := by
    rw [List.head?_reverse]
    exact trimmed.2
  rw [strip, dropWhile_blank trimmed.1, dropEndWhile, dropWhile_blank ending, List.reverse_reverse]

/-! Lines. -/

namespace Input

theorem unifyLineEnds_append_lineFeed (afterReturn : Bool) (before later : Text) :
    unifyLineEnds afterReturn (before ++ lineFeed :: later) =
      unifyLineEnds afterReturn (before ++ [lineFeed]) ++ unifyLineEnds false later := by
  induction before generalizing afterReturn with
  | nil => cases afterReturn <;> rfl
  | cons symbol rest ih =>
    simp only [List.cons_append, unifyLineEnds, ih]
    split
    · rfl
    · split <;> rfl

/-- What ends with a line feed still does so, unless it was nothing but the second half of a line
end. -/
theorem getLast?_unifyLineEnds (afterReturn : Bool) (text : Text) :
    (unifyLineEnds afterReturn (text ++ [lineFeed])).getLast? =
      if afterReturn ∧ text = [] then none else some lineFeed := by
  induction text generalizing afterReturn with
  | nil => cases afterReturn <;> rfl
  | cons symbol rest ih =>
    simp only [List.cons_append, unifyLineEnds]
    split
    · rw [List.getLast?_cons, ih]
      split <;> simp
    · split
      · simp [ih]
      · simp [List.getLast?_cons, ih]

/-- Without a carriage return there is nothing to unify. -/
theorem unifyLineEnds_plain {text : Text} (carriage : carriageReturn ∉ text) (later : Text) :
    unifyLineEnds false (text ++ later) = text ++ unifyLineEnds false later := by
  induction text with
  | nil => rfl
  | cons symbol rest ih =>
    simp only [List.mem_cons, not_or] at carriage
    rw [List.cons_append, unifyLineEnds, if_neg (Ne.symm carriage.1), if_neg (by simp),
      ih carriage.2]
    rfl

theorem lines_append {first : Text} (whole : first = [] ∨ first.getLast? = some lineFeed)
    (second : Text) (ending : Ending) :
    lines ⟨first ++ second, ending⟩ = lines ⟨first, ending⟩ ++ lines ⟨second, ending⟩ := by
  rcases whole with rfl | last
  · rfl
  · obtain ⟨before, rfl⟩ := List.getLast?_eq_some_iff.mp last
    have nonempty := List.splitOn_ne_nil lineFeed second
    have empty : List.splitOn lineFeed ([] : Text) = [[]] := rfl
    simp only [lines, List.append_assoc, List.singleton_append, List.splitOn_append_cons_self,
      List.dropLast_append_of_ne_nil nonempty, empty, List.dropLast_concat, List.map_append]

theorem lines_cons {line : Text} (whole : lineFeed ∉ line) (later : Text) (ending : Ending) :
    lines ⟨line ++ lineFeed :: later, ending⟩ = line.strip :: lines ⟨later, ending⟩ := by
  have nonempty := List.splitOn_ne_nil lineFeed later
  simp only [lines, List.splitOn_append_cons_self_of_not_mem whole,
    List.dropLast_cons_of_ne_nil nonempty, List.map_cons]

/-- Octets that end where a line ends. -/
def EndsLine (octets : Bytes) : Prop := octets = [] ∨ octets.getLast? = some 0x0A

/-- Where a line has ended the input can be read on as if it began there. -/
theorem lines_ofBytes_append {earlier : Bytes} (ended : EndsLine earlier) (later : Bytes)
    (ending : Ending) :
    (ofBytes (earlier ++ later) ending).lines =
      (ofBytes earlier ending).lines ++ (ofBytes later ending).lines := by
  rcases ended with rfl | last
  · rfl
  · obtain ⟨before, rfl⟩ := List.getLast?_eq_some_iff.mp last
    have read := Utf8.decode_append_lineFeed before later
    have alone := Utf8.decode_append_lineFeed before []
    have still := getLast?_unifyLineEnds false (Utf8.decode before)
    rw [ofBytes, List.append_assoc, List.singleton_append, read, unifyLineEnds_append_lineFeed,
      lines_append (Or.inr (by simpa using still))]
    rw [ofBytes, alone]
    rfl

theorem lines_ofBytes_line {line : Bytes} (feed : 0x0A ∉ line) (carriage : 0x0D ∉ line)
    (later : Bytes) (ending : Ending) :
    (ofBytes (line ++ 0x0A :: later) ending).lines =
      (Utf8.decode line).strip :: (ofBytes later ending).lines := by
  have whole : lineFeed ∉ Utf8.decode line := Utf8.not_mem_decode (by decide) feed
  have single : carriageReturn ∉ Utf8.decode line := Utf8.not_mem_decode (by decide) carriage
  have plain := unifyLineEnds_plain single (lineFeed :: Utf8.decode later)
  have onward : unifyLineEnds false (lineFeed :: Utf8.decode later) =
      lineFeed :: unifyLineEnds false (Utf8.decode later) := rfl
  rw [ofBytes, Utf8.decode_append_lineFeed, plain, onward, lines_cons whole]
  rfl

/-- Tokens typed as one line are read as that line, between the lines before and after them. -/
theorem lines_ofBytes_spaced {tokens : List Bytes} {earlier line : Bytes}
    (spaced : Spaced tokens line) (trimmed : (Utf8.decode line).IsTrimmed)
    (ended : EndsLine earlier) (later : Bytes) (ending : Ending) :
    (ofBytes (earlier ++ (line ++ 0x0A :: later)) ending).lines =
      (ofBytes earlier ending).lines ++ Utf8.decode line :: (ofBytes later ending).lines := by
  have proper := spaced.isToken
  have feed : 0x0A ∉ line :=
    spaced.not_mem (by decide) fun token member => (proper token member).lineFeed
  have carriage : 0x0D ∉ line :=
    spaced.not_mem (by decide) fun token member => (proper token member).carriageReturn
  rw [lines_ofBytes_append ended, lines_ofBytes_line feed carriage, trimmed.strip_eq]

end Input

end PlainShell

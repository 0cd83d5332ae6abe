/-!
Texts as the shell handles them. Command lines, file names and environment values arrive as bytes,
and bytes need not spell characters, so a text is a sequence of symbols: characters, and stray bytes
that belong to no character. Nothing a user types is lost on the way through.
-/

namespace PlainShell

abbrev Bytes := List UInt8

/-- A character, or the stray byte `0x80 + low`. Bytes below `0x80` always are characters. -/
inductive Symbol where
  | char (value : Char)
  | stray (low : Fin 128)
  deriving DecidableEq, Repr

abbrev Text := List Symbol

/-- The place of a symbol in the order of code points. Stray bytes take `0xDC80` to `0xDCFF`, which
no character has, so the codes of two symbols differ whenever the symbols do. -/
def Symbol.code : Symbol → Nat
  | .char value => value.toNat
  | .stray low => 0xDC80 + low.val

instance : LT Symbol := ⟨fun first second => first.code < second.code⟩

instance : DecidableLT Symbol := fun first second =>
  inferInstanceAs (Decidable (first.code < second.code))

instance : Coe Char Symbol := ⟨Symbol.char⟩

namespace Text

def nul : Symbol := '\x00'

def ofString (value : String) : Text := value.toList.map Symbol.char

instance : Coe String Text := ⟨ofString⟩

/-- The decimal digits of a whole number, with a minus sign in front when it is negative. -/
def ofInt (value : Int) : Text := ofString (toString value)

/-- The longest beginning without the mark. -/
def before (mark : Symbol) (text : Text) : Text := text.takeWhile (· ≠ mark)

/-- The two sides of the first mark. -/
def cut (mark : Symbol) (text : Text) : Option (Text × Text) :=
  match text.dropWhile (· ≠ mark) with
  | [] => none
  | _ :: rest => some (before mark text, rest)

theorem length_lt_of_cut {mark : Symbol} {text first rest : Text}
    (found : cut mark text = some (first, rest)) : rest.length < text.length := by
  unfold cut at found
  have shorter := (List.dropWhile_sublist (l := text) (· ≠ mark)).length_le
  split at found
  · simp at found
  · next whole =>
    simp only [Option.some.injEq, Prod.mk.injEq] at found
    rw [whole, found.2, List.length_cons] at shorter
    omega

/-- All the texts in one, the glue between neighbours only. -/
abbrev joined (glue : Text) (texts : List Text) : Text := List.intercalate glue texts

/-- The text without the unwanted symbols at its end. -/
def dropEndWhile (unwanted : Symbol → Bool) (text : Text) : Text :=
  (text.reverse.dropWhile unwanted).reverse

end Text

/-- Whether one of the closed ranges holds the code. -/
def codeIn (ranges : List (Nat × Nat)) (code : Nat) : Bool :=
  ranges.any fun range => range.1 ≤ code && code ≤ range.2

end PlainShell

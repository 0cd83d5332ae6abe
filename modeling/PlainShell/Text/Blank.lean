import PlainShell.Text

/-!
White space at the two ends of a line. The set is wider than the separator of tokens: it has the
Unicode spaces, the line and paragraph separators and the four information separators of ASCII.
Stray bytes are never blank, even where a character of the same number would be.
-/

namespace PlainShell

def blankRanges : List (Nat × Nat) :=
  [(0x09, 0x0D), (0x1C, 0x20), (0x85, 0x85), (0xA0, 0xA0), (0x1680, 0x1680), (0x2000, 0x200A),
   (0x2028, 0x2029), (0x202F, 0x202F), (0x205F, 0x205F), (0x3000, 0x3000)]

def Symbol.isBlank : Symbol → Bool
  | .char value => codeIn blankRanges value.toNat
  | .stray _ => false

/-- The text without the blanks at its two ends. -/
def Text.strip (text : Text) : Text :=
  Text.dropEndWhile Symbol.isBlank (text.dropWhile Symbol.isBlank)

end PlainShell

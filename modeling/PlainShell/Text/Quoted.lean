import PlainShell.Text.Printable

/-!
Texts written unambiguously: between quotes, with a backslash before what would end or change the
reading. Single quotes are used unless the text has one and no double quote.
-/

namespace PlainShell.Quoted

def single : Char := '\x27'

def double : Char := '\x22'

def hexadecimal (width code : Nat) : Text :=
  let digits := Nat.toDigits 16 code
  (List.replicate (width - digits.length) '0' ++ digits).map Symbol.char

/-- A code as an escape of two, four or eight hexadecimal digits, as few as it fits. -/
def numeric (code : Nat) : Text :=
  if code < 0x100 then "\\x" ++ hexadecimal 2 code
  else if code < 0x10000 then "\\u" ++ hexadecimal 4 code
  else "\\U" ++ hexadecimal 8 code

def mark (text : Text) : Symbol :=
  if .char single ∈ text ∧ .char double ∉ text then double else single

def escaped (mark : Symbol) (symbol : Symbol) : Text :=
  if symbol = mark ∨ symbol = .char '\\' then [.char '\\', symbol]
  else if symbol = .char '\n' then "\\n"
  else if symbol = .char '\r' then "\\r"
  else if symbol = .char '\t' then "\\t"
  else if symbol.isPrintable then [symbol]
  else numeric symbol.code

def quote (text : Text) : Text :=
  [mark text] ++ text.flatMap (escaped (mark text)) ++ [mark text]

def quoteAll (texts : List Text) : Text :=
  "[" ++ Text.joined ", " (texts.map quote) ++ "]"

/-- The text with its stray bytes spelled out, for places that take characters only. -/
def spellStrays (text : Text) : Text :=
  text.flatMap fun
    | .char value => [.char value]
    | .stray low => numeric (Symbol.stray low).code

end PlainShell.Quoted

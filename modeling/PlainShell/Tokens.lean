import PlainShell.Text

/-!
A command line is cut at spaces and nowhere else. Runs of spaces count as one, there is no quoting,
and other white space is part of the tokens.
-/

namespace PlainShell.Tokens

def separator : Symbol := ' '

/-- The tokens of a line, the first being the command name. No token is empty or has a space. -/
def ofLine (line : Text) : List Text := (line.splitOn separator).filter (· ≠ [])

/-- The line up to its first space, which is empty when the line begins with one. -/
def firstWord (line : Text) : Text := Text.before separator line

end PlainShell.Tokens

/-!
# Literal text in patterns

Characters that a pattern could take for operators or layout are written after a backslash.
-/

namespace HeaderRules.Regex

def specialChars : List Char :=
  ['(', ')', '[', ']', '\x7b', '\x7d', '?', '*', '+', '-', '|', '^', '$', '\\', '.', '&', '~', '#',
   ' ', '\t', '\n', '\r', '\x0b', '\x0c']

/-- A character written so that a pattern takes it literally. -/
def escapeChar (c : Char) : List Char := if c ∈ specialChars then ['\\', c] else [c]

end HeaderRules.Regex

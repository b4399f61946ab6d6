import HeaderRules.Yaml.Source
/-!
# A place in the text of a document

The text from some place on, with the number of characters before it, its line and its column.
-/

namespace HeaderRules.Yaml

def isBreak (c : Char) : Bool := c == '\n' || c == '\x85' || c == '\u2028' || c == '\u2029'

/-- Spaces and tabs. -/
def isSpace (c : Char) : Bool := c == ' ' || c == '\t'

/-- Characters of names: ASCII letters, digits, hyphens and underscores. -/
def isNameChar (c : Char) : Bool := c.isAlphanum || c == '-' || c == '_'

structure Cursor where
  rest : List Char
  index : Nat
  line : Nat
  column : Nat
deriving Repr

namespace Cursor

def start (text : List Char) : Cursor := ⟨text, 0, 0, 0⟩

def peek? (c : Cursor) : Option Char := c.rest.head?

def peekAt? (c : Cursor) (n : Nat) : Option Char := (c.rest.drop n).head?

def sees (c : Cursor) (ch : Char) : Bool := c.peek? == some ch

/-- Goes past one character. A byte order mark takes no column. -/
def next (c : Cursor) : Cursor :=
  match c.rest with
  | [] => c
  | ch :: rest =>
    if isBreak ch then ⟨rest, c.index + 1, c.line + 1, 0⟩
    else ⟨rest, c.index + 1, c.line, if ch = '\uFEFF' then c.column else c.column + 1⟩

def skip : Nat → Cursor → Cursor
  | 0, c => c
  | n + 1, c => skip n c.next

def ahead (c : Cursor) (p : Char → Bool) : List Char := c.rest.takeWhile p

def skipWhile (c : Cursor) (p : Char → Bool) : Cursor := c.skip (c.ahead p).length

def skipLine (c : Cursor) : Cursor := c.skipWhile fun ch => !isBreak ch

/-- Whether the character behind some others is a break, or the text ends there. -/
def endsLineAt (c : Cursor) (n : Nat) : Bool := (c.peekAt? n).all isBreak

/-- Whether the character behind some others is a space, tab or break, or the text ends there. -/
def isGapAt (c : Cursor) (n : Nat) : Bool := (c.peekAt? n).all fun ch => isSpace ch || isBreak ch

/-- Whether the text goes on with a space or break, or ends. Tabs do not count. -/
def isPlainGap (c : Cursor) : Bool := c.peek?.all fun ch => ch == ' ' || isBreak ch

/-- Goes past a break, if one is next, and tells what it stands for in a scalar: most breaks stand
for a line feed. -/
def lineBreak (c : Cursor) : List Char × Cursor :=
  match c.peek? with
  | some ch =>
    if ch = '\n' ∨ ch = '\x85' then (['\n'], c.next)
    else if isBreak ch then ([ch], c.next)
    else ([], c)
  | none => ([], c)

def seesMark (c : Cursor) (mark : List Char) : Bool := mark.isPrefixOf c.rest && c.isGapAt 3

def seesDocumentMark (c : Cursor) : Bool :=
  c.seesMark ['-', '-', '-'] || c.seesMark ['.', '.', '.']

end Cursor

end HeaderRules.Yaml

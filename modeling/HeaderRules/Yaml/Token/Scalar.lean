import HeaderRules.Text.Digit
import HeaderRules.Text.Raw
import HeaderRules.Yaml.Cursor
/-!
# Scalars in the text of a document

The three ways of writing a scalar: between quotes, plain, and as an indented block. Each reader
gives the text that is meant and the place behind it.
-/

namespace HeaderRules.Yaml

open HeaderRules.Text (digitIn? ofDigits)

/-- A text that has been read, and the place behind it. -/
abbrev Piece := List Char × Cursor

/-- A text in which escapes may name any code points, and the place behind it. -/
abbrev RawPiece := RawText × Cursor

def Piece.raw (p : Piece) : RawPiece := (p.1.map .char, p.2)

/-! ## Quoted scalars -/

def letterEscape? : Char → Option Char
  | '0' => some '\x00'
  | 'a' => some '\x07'
  | 'b' => some '\x08'
  | 't' => some '\t'
  | '\t' => some '\t'
  | 'n' => some '\n'
  | 'v' => some '\x0b'
  | 'f' => some '\x0c'
  | 'r' => some '\r'
  | 'e' => some '\x1b'
  | ' ' => some ' '
  | '"' => some '"'
  | '\\' => some '\\'
  | '/' => some '/'
  | 'N' => some '\x85'
  | '_' => some '\xa0'
  | 'L' => some '\u2028'
  | 'P' => some '\u2029'
  | _ => none

def codeWidth? : Char → Option Nat
  | 'x' => some 2
  | 'u' => some 4
  | 'U' => some 8
  | _ => none

def hexCode? (width : Nat) (s : List Char) : Option Nat :=
  let digits := s.take width
  if digits.length = width ∧ digits.all (fun c => (digitIn? 16 c).isSome) then
    some (ofDigits 16 digits)
  else none

/-- Reads the digits of an escape. Two escapes for the halves of a character name two code
points. -/
def codeEscape (width : Nat) (c : Cursor) : Except Fault RawPiece :=
  match hexCode? width c.rest with
  | none => .error .malformed
  | some code =>
    if 0x80000000 ≤ code then .error .codeTooLarge
    else if 0x110000 ≤ code then .error .codeOutOfRange
    else .ok ([.ofNat code], c.skip width)

def quotedBreaks : Nat → Cursor → Except Fault Piece
  | 0, c => .ok ([], c)
  | fuel + 1, c =>
    if c.seesDocumentMark then .error .malformed
    else
      let c := c.skipWhile isSpace
      match c.lineBreak with
      | ([], _) => .ok ([], c)
      | (line, c) => do
        let (more, c) ← quotedBreaks fuel c
        return (line ++ more, c)

/-- What a break and the empty lines behind it stand for: a break alone stands for a space. -/
def foldBreaks (first more : List Char) : List Char :=
  if first ≠ ['\n'] then first ++ more else if more = [] then [' '] else more

def quotedBlanks (c : Cursor) : Except Fault Piece :=
  let blanks := c.ahead isSpace
  let c := c.skip blanks.length
  match c.peek?, c.lineBreak with
  | none, _ => .error .malformed
  | _, ([], _) => .ok (blanks, c)
  | _, (line, c) => do
    let (more, c) ← quotedBreaks (c.rest.length + 1) c
    return (foldBreaks line more, c)

def escape (c : Cursor) : Except Fault RawPiece :=
  match c.peek? with
  | none => .error .malformed
  | some letter =>
    match letterEscape? letter, codeWidth? letter with
    | some meant, _ => .ok ([.char meant], c.next)
    | none, some width => codeEscape width c.next
    | none, none =>
      match c.lineBreak with
      | ([], _) => .error .malformed
      | (_, c) => (quotedBreaks (c.rest.length + 1) c).map Piece.raw

/-- Reads the rest of a quoted scalar. Between double quotes a backslash begins an escape; between
single quotes two of them stand for one. -/
def quotedText (double : Bool) : Nat → Cursor → Except Fault RawPiece
  | 0, _ => .error .malformed
  | fuel + 1, c => do
    let (text, c) ←
      match c.peek? with
      | none => .error .malformed
      | some ch =>
        if isSpace ch || isBreak ch then (quotedBlanks c).map Piece.raw
        else if double && ch == '"' then return ([], c.next)
        else if double && ch == '\\' then escape c.next
        else if !double && ch == '\'' then
          if c.peekAt? 1 = some '\'' then .ok ([.char '\''], c.skip 2) else return ([], c.next)
        else .ok ([.char ch], c.next)
    let (more, c) ← quotedText double fuel c
    return (text ++ more, c)

def quotedScalar (double : Bool) (c : Cursor) : Except Fault RawPiece :=
  quotedText double (c.rest.length + 1) c.next

/-! ## Plain scalars -/

def isFlowMark (c : Char) : Bool :=
  c == ',' || c == '[' || c == ']' || c == '\x7b' || c == '\x7d'

/-- The beginning of a text that belongs to a plain scalar without a blank. -/
def plainWord (flow : Bool) : List Char → List Char
  | [] => []
  | ch :: rest =>
    let endsKey := ch == ':' && rest.head?.all fun after =>
      isSpace after || isBreak after || (flow && isFlowMark after)
    if isSpace ch || isBreak ch || endsKey || (flow && (isFlowMark ch || ch == '?')) then []
    else ch :: plainWord flow rest

/-- The blanks between the words of a plain scalar: what they stand for, which is nothing where the
scalar ends, and whether there is a break among them. -/
structure PlainGap where
  text : List Char
  broken : Bool
  cursor : Cursor

/-- Reads the breaks and indentation between two lines of a plain scalar, up to a mark that
separates documents. -/
def plainBreaks : Nat → Cursor → Option (List Char) × Cursor
  | 0, c => (some [], c)
  | fuel + 1, c =>
    let c := c.skipWhile (· == ' ')
    match c.lineBreak with
    | ([], _) => (some [], c)
    | (line, c) =>
      if c.seesDocumentMark then (none, c)
      else
        let (more, c) := plainBreaks fuel c
        (more.map (line ++ ·), c)

/-- Reads the blanks behind a word. Tabs are not among them. -/
def plainGap (c : Cursor) : PlainGap :=
  let spaces := c.ahead (· == ' ')
  let c := c.skip spaces.length
  match c.lineBreak with
  | ([], _) => ⟨spaces, false, c⟩
  | (line, c) =>
    if c.seesDocumentMark then ⟨[], true, c⟩
    else
      match plainBreaks (c.rest.length + 1) c with
      | (none, c) => ⟨[], true, c⟩
      | (some more, c) => ⟨foldBreaks line more, true, c⟩

/-- A plain scalar, the place behind it, and whether the last blanks before that place have a
break among them. -/
structure PlainScalar where
  text : List Char
  broken : Bool
  cursor : Cursor

/-- Reads the words of a plain scalar; `gap` are the blanks before the next one. Outside brackets
the scalar ends at a line that is indented less than `indent`. -/
def plainText (flow : Bool) (indent : Int) : Nat → PlainGap → PlainScalar
  | 0, gap => ⟨[], gap.broken, gap.cursor⟩
  | fuel + 1, gap =>
    let word := plainWord flow gap.cursor.rest
    if gap.cursor.sees '#' || word.isEmpty then ⟨[], gap.broken, gap.cursor⟩
    else
      let next := plainGap (gap.cursor.skip word.length)
      if next.text.isEmpty || next.cursor.sees '#' || (!flow && next.cursor.column < indent) then
        ⟨gap.text ++ word, next.broken, next.cursor⟩
      else
        let more := plainText flow indent fuel next
        { more with text := gap.text ++ word ++ more.text }

def plainScalar (flow : Bool) (indent : Int) (c : Cursor) : PlainScalar :=
  plainText flow indent (c.rest.length + 1) ⟨[], false, c⟩

/-! ## Block scalars -/

/-- What becomes of the breaks behind the last line of a block scalar. -/
inductive Chomping
  | strip
  | clip
  | keep
deriving DecidableEq, Repr

def chomping? : Char → Option Chomping
  | '+' => some .keep
  | '-' => some .strip
  | _ => none

def chompingMark (c : Cursor) : Option Chomping × Cursor :=
  match c.peek?.bind chomping? with
  | some chomping => (some chomping, c.next)
  | none => (none, c)

/-- Reads a digit of indentation, if there is one. Zero is refused. -/
def indentMark (c : Cursor) : Except Fault (Option Nat × Cursor) :=
  match c.peek?.bind (digitIn? 10) with
  | none => .ok (none, c)
  | some 0 => .error .malformed
  | some n => .ok (some n, c.next)

/-- Goes past a comment to the end of the line. Nothing else may stand there. -/
def restOfLine (c : Cursor) : Except Fault Cursor :=
  let c := c.skipWhile (· == ' ')
  let c := if c.sees '#' then c.skipLine else c
  if c.endsLineAt 0 then .ok c.lineBreak.2 else .error .malformed

/-- Reads the first line of a block scalar: the marks, in either order, and a comment. -/
def blockHeader (c : Cursor) : Except Fault (Chomping × Option Nat × Cursor) := do
  let (first, c) := chompingMark c
  let (indent, c) ← indentMark c
  let (second, c) := if first.isNone && indent.isSome then chompingMark c else (none, c)
  if !c.isPlainGap then throw .malformed
  let c ← restOfLine c
  return ((first.or second).getD .clip, indent, c)

def skipIndent (indent : Nat) (c : Cursor) : Cursor :=
  c.skip (min (c.ahead (· == ' ')).length (indent - c.column))

def blockBreaks (indent : Nat) : Nat → Cursor → Piece
  | 0, c => ([], skipIndent indent c)
  | fuel + 1, c =>
    let c := skipIndent indent c
    match c.lineBreak with
    | ([], _) => ([], c)
    | (line, c) =>
      let (more, c) := blockBreaks indent fuel c
      (line ++ more, c)

/-- Reads the empty lines before the first line of a block scalar and finds its indentation, which
is that of the longest of these lines or of the first line itself. -/
def findIndent (widest : Nat) : Nat → Cursor → Nat × Piece
  | 0, c => (widest, [], c)
  | fuel + 1, c =>
    let c := c.skipWhile (· == ' ')
    let widest := max widest c.column
    match c.lineBreak with
    | ([], _) => (widest, [], c)
    | (line, c) =>
      let (widest, more, c) := findIndent widest fuel c
      (widest, line ++ more, c)

/-- The lines of a block scalar, the break behind the last of them, and the empty lines behind. -/
structure BlockLines where
  text : List Char
  lastBreak : List Char
  breaks : List Char
  cursor : Cursor

/-- Reads the lines of a block scalar; `breaks` are the empty lines before the next one. In a folded
scalar a break between two lines that do not begin with a blank stands for a space. -/
def blockLines (folded : Bool) (indent : Nat) : Nat → List Char → Cursor → BlockLines
  | 0, breaks, c => ⟨[], [], breaks, c⟩
  | fuel + 1, breaks, c =>
    let atLine (c : Cursor) : Bool := c.column == indent && c.peek?.isSome
    let beginsBlank (c : Cursor) : Bool := c.peek?.any isSpace
    if !atLine c then ⟨[], [], breaks, c⟩
    else
      let line := c.ahead fun ch => !isBreak ch
      let (lineBreak, after) := (c.skip line.length).lineBreak
      let (more, next) := blockBreaks indent (after.rest.length + 1) after
      if !atLine next then ⟨breaks ++ line, lineBreak, more, next⟩
      else
        let glue :=
          if folded && lineBreak == ['\n'] && !beginsBlank c && !beginsBlank next then
            if more.isEmpty then [' '] else []
          else lineBreak
        let rest := blockLines folded indent fuel more next
        { rest with text := breaks ++ line ++ glue ++ rest.text }

/-- Reads a block scalar from its mark on, inside a collection indented by `indent`. -/
def blockScalar (folded : Bool) (indent : Int) (c : Cursor) : Except Fault Piece := do
  let (chomping, increment, c) ← blockHeader c.next
  let least := (max 1 (indent + 1)).toNat
  let fuel := c.rest.length + 1
  let (indent, breaks, c) :=
    match increment with
    | none =>
      let (widest, breaks, c) := findIndent 0 fuel c
      (max least widest, breaks, c)
    | some n =>
      let indent := least + n - 1
      let (breaks, c) := blockBreaks indent fuel c
      (indent, breaks, c)
  let lines := blockLines folded indent fuel breaks c
  let tail :=
    match chomping with
    | .strip => []
    | .clip => lines.lastBreak
    | .keep => lines.lastBreak ++ lines.breaks
  return (lines.text ++ tail, lines.cursor)

end HeaderRules.Yaml

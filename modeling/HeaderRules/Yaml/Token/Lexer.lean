import HeaderRules.Yaml.Token.Property
/-!
# The tokens of a text

The text is cut into tokens from left to right. Indentation becomes tokens that open and close
collections. A token that may turn out to be a key is remembered until a colon confirms it; the
tokens that mark the key are then put in front of it.
-/

namespace HeaderRules.Yaml

/-- A token that may turn out to be a key: its number, whether only a key may stand there, and its
place. -/
structure KeyCandidate where
  number : Nat
  required : Bool
  index : Nat
  line : Nat
  column : Nat
deriving Repr

/-- The state of cutting a text: the place reached, the tokens so far in reverse order, how many
brackets are open, the columns of the open collections, whether a key may begin here, and the
candidates by the number of open brackets around them. -/
structure Lexer where
  cursor : Cursor
  tokens : List Token
  depth : Nat
  indent : Int
  indents : List Int
  keyAllowed : Bool
  candidates : List (Nat × KeyCandidate)

namespace Lexer

def start (text : List Char) : Lexer := ⟨.start text, [], 0, -1, [], true, []⟩

def push (l : Lexer) (t : Token) : Lexer := { l with tokens := t :: l.tokens }

def take (l : Lexer) (t : Token) (length : Nat) : Lexer :=
  { l.push t with cursor := l.cursor.skip length }

/-- Puts tokens in front of the token of some number. -/
def insertAt (l : Lexer) (number : Nat) (tokens : List Token) : Lexer :=
  let behind := l.tokens.length - number
  { l with tokens := l.tokens.take behind ++ tokens.reverse ++ l.tokens.drop behind }

/-! ## Candidates for keys -/

/-- The distance within which a colon has to follow a key. -/
def maxKeyLength : Nat := 1024

/-- Whether a candidate can no longer be a key: a key and its colon stand on one line, close
together. -/
def isStale (l : Lexer) (k : KeyCandidate) : Bool :=
  k.line != l.cursor.line || maxKeyLength < l.cursor.index - k.index

def dropStale (l : Lexer) : Except Fault Lexer :=
  let stale (entry : Nat × KeyCandidate) : Bool := l.isStale entry.2
  if l.candidates.any fun entry => stale entry && entry.2.required then .error .malformed
  else .ok { l with candidates := l.candidates.filter (!stale ·) }

/-- Forgets the candidate between the innermost brackets. -/
def dropCandidate (l : Lexer) : Except Fault Lexer :=
  if (l.candidates.lookup l.depth).any (·.required) then .error .malformed
  else .ok { l with candidates := l.candidates.filter (·.1 != l.depth) }

def noteCandidate (l : Lexer) : Except Fault Lexer :=
  if !l.keyAllowed then .ok l
  else do
    let l ← l.dropCandidate
    let required := l.depth == 0 && l.indent == l.cursor.column
    let candidate : KeyCandidate :=
      ⟨l.tokens.length, required, l.cursor.index, l.cursor.line, l.cursor.column⟩
    return { l with candidates := (l.depth, candidate) :: l.candidates }

/-! ## Indentation -/

/-- Closes the collections that are indented more than a column. -/
def unwindTo (column : Int) : Nat → Lexer → Lexer
  | 0, l => l
  | fuel + 1, l =>
    if column < l.indent then
      let outer : Lexer := { l with indent := l.indents.headD (-1), indents := l.indents.drop 1 }
      unwindTo column fuel (outer.push .blockEnd)
    else l

/-- Closes the collections that are indented more than a column, outside brackets. -/
def unwind (l : Lexer) (column : Int) : Lexer :=
  if l.depth = 0 then unwindTo column (l.indents.length + 1) l else l

/-- Opens a collection at a column, if no open one is indented as much. -/
def opens (l : Lexer) (column : Nat) : Bool := l.depth == 0 && l.indent < column

def indentTo (l : Lexer) (column : Nat) : Lexer :=
  { l with indent := column, indents := l.indent :: l.indents }

def openHere (l : Lexer) (t : Token) : Lexer :=
  if l.opens l.cursor.column then (l.indentTo l.cursor.column).push t else l

/-! ## Single tokens -/

def allowKey (l : Lexer) (allowed : Bool) : Lexer := { l with keyAllowed := allowed }

def lexEnd (l : Lexer) : Except Fault Lexer := do
  let l ← (l.unwind (-1)).dropCandidate
  return { l.push .streamEnd with keyAllowed := false, candidates := [] }

def lexDirective (l : Lexer) : Except Fault Lexer := do
  let l ← (l.unwind (-1)).dropCandidate
  let (directive, cursor) ← readDirective l.cursor
  return { l.push (.directive directive) with cursor := cursor, keyAllowed := false }

def lexDocumentMark (t : Token) (l : Lexer) : Except Fault Lexer := do
  let l ← (l.unwind (-1)).dropCandidate
  return (l.allowKey false).take t 3

def lexOpening (t : Token) (l : Lexer) : Except Fault Lexer := do
  let l ← l.noteCandidate
  return ({ l with depth := l.depth + 1 }.allowKey true).take t 1

def lexClosing (t : Token) (l : Lexer) : Except Fault Lexer := do
  let l ← l.dropCandidate
  return ({ l with depth := l.depth - 1 }.allowKey false).take t 1

def lexComma (l : Lexer) : Except Fault Lexer := do
  let l ← l.dropCandidate
  return (l.allowKey true).take .flowEntry 1

def lexHyphen (l : Lexer) : Except Fault Lexer := do
  if l.depth = 0 ∧ !l.keyAllowed then throw .malformed
  let l ← (l.openHere .blockSequenceStart).dropCandidate
  return (l.allowKey true).take .blockEntry 1

def lexQuestion (l : Lexer) : Except Fault Lexer := do
  if l.depth = 0 ∧ !l.keyAllowed then throw .malformed
  let l ← (l.openHere .blockMappingStart).dropCandidate
  return (l.allowKey (l.depth == 0)).take .key 1

/-- Confirms a candidate as a key, which may open a mapping. -/
def confirmKey (l : Lexer) (k : KeyCandidate) : Lexer :=
  let l := { l with candidates := l.candidates.filter (·.1 != l.depth) }
  if l.opens k.column then (l.indentTo k.column).insertAt k.number [.blockMappingStart, .key]
  else l.insertAt k.number [.key]

def lexColon (l : Lexer) : Except Fault Lexer := do
  match l.candidates.lookup l.depth with
  | some k => return ((l.confirmKey k).allowKey false).take .value 1
  | none =>
    if l.depth = 0 ∧ !l.keyAllowed then throw .malformed
    let l ← (l.openHere .blockMappingStart).dropCandidate
    return (l.allowKey (l.depth == 0)).take .value 1

def lexName (token : String → Token) (l : Lexer) : Except Fault Lexer := do
  let l ← l.noteCandidate
  let (name, cursor) ← anchorName l.cursor
  return { l.push (token name) with cursor := cursor, keyAllowed := false }

def lexTag (l : Lexer) : Except Fault Lexer := do
  let l ← l.noteCandidate
  let (tag, cursor) ← readTag l.cursor
  return { l.push (.tag tag) with cursor := cursor, keyAllowed := false }

def lexBlockScalar (folded : Bool) (l : Lexer) : Except Fault Lexer := do
  let l ← l.dropCandidate
  let (text, cursor) ← blockScalar folded l.indent l.cursor
  return { l.push (.scalar false (text.map .char)) with cursor := cursor, keyAllowed := true }

def lexQuoted (double : Bool) (l : Lexer) : Except Fault Lexer := do
  let l ← l.noteCandidate
  let (text, cursor) ← quotedScalar double l.cursor
  return { l.push (.scalar false text) with cursor := cursor, keyAllowed := false }

def lexPlain (l : Lexer) : Except Fault Lexer := do
  let l ← l.noteCandidate
  let scalar := plainScalar (l.depth != 0) (l.indent + 1) l.cursor
  return { l.push (.scalar true (scalar.text.map .char)) with
    cursor := scalar.cursor, keyAllowed := scalar.broken }

/-! ## The text -/

def isIndicator (c : Char) : Bool :=
  "-?:,[]\x7b\x7d#&*!|>'\"%@".toList.contains c || c == Char.ofNat 0x60

def beginsPlain (l : Lexer) (ch : Char) : Bool :=
  !(isSpace ch || isBreak ch || isIndicator ch) ||
    (!l.cursor.isGapAt 1 && (ch == '-' || (l.depth == 0 && (ch == '?' || ch == ':'))))

/-- Goes past spaces, breaks and comments. Outside brackets a key may begin on a new line. -/
def skipGap : Nat → Lexer → Lexer
  | 0, l => l
  | fuel + 1, l =>
    let c := l.cursor.skipWhile (· == ' ')
    let c := if c.sees '#' then c.skipLine else c
    match c.lineBreak with
    | ([], _) => { l with cursor := c }
    | (_, c) => skipGap fuel { l with cursor := c, keyAllowed := l.keyAllowed || l.depth == 0 }

def skipByteOrderMark (l : Lexer) : Lexer :=
  if l.cursor.index = 0 ∧ l.cursor.sees '\uFEFF' then { l with cursor := l.cursor.next } else l

/-- Whether a mark that needs a gap behind it is next; between brackets it needs none. -/
def seesMark (l : Lexer) (mark ch : Char) : Bool :=
  ch == mark && (l.depth != 0 || l.cursor.isGapAt 1)

def lexToken (l : Lexer) (ch : Char) : Except Fault Lexer :=
  let c := l.cursor
  if ch = '%' ∧ c.column = 0 then l.lexDirective
  else if c.column = 0 ∧ c.seesMark ['-', '-', '-'] then l.lexDocumentMark .documentStart
  else if c.column = 0 ∧ c.seesMark ['.', '.', '.'] then l.lexDocumentMark .documentEnd
  else if ch = '[' then l.lexOpening .flowSequenceStart
  else if ch = '\x7b' then l.lexOpening .flowMappingStart
  else if ch = ']' then l.lexClosing .flowSequenceEnd
  else if ch = '\x7d' then l.lexClosing .flowMappingEnd
  else if ch = ',' then l.lexComma
  else if ch = '-' ∧ c.isGapAt 1 then l.lexHyphen
  else if l.seesMark '?' ch then l.lexQuestion
  else if l.seesMark ':' ch then l.lexColon
  else if ch = '*' then l.lexName .alias
  else if ch = '&' then l.lexName .anchor
  else if ch = '!' then l.lexTag
  else if ch = '|' ∧ l.depth = 0 then l.lexBlockScalar false
  else if ch = '>' ∧ l.depth = 0 then l.lexBlockScalar true
  else if ch = '\'' then l.lexQuoted false
  else if ch = '"' then l.lexQuoted true
  else if l.beginsPlain ch then l.lexPlain
  else .error .malformed

/-- Reads the next token, with those that indentation puts before it. -/
def step (l : Lexer) : Except Fault Lexer := do
  let l ← ((l.skipByteOrderMark).skipGap (l.cursor.rest.length + 1)).dropStale
  let l := l.unwind l.cursor.column
  match l.cursor.peek? with
  | none => l.lexEnd
  | some ch => l.lexToken ch

/-- The tokens whose place in the order is certain: those before the first candidate. -/
def settled (l : Lexer) : List Token :=
  let pending := l.candidates.filter fun entry => !l.isStale entry.2
  let count := (pending.map (·.2.number)).foldl min l.tokens.length
  l.tokens.reverse.take count

end Lexer

/-- The tokens of a document, and the fault that ends them if they do not end with the end of the
text. -/
structure TokenStream where
  tokens : List Token
  fault : Option Fault
deriving Repr

namespace TokenStream

/-- Cuts the rest of a text. A fault of the source shows when the text before it is used up. -/
def lexFrom (beyond : Option Fault) : Nat → Lexer → TokenStream
  | 0, l => ⟨l.settled, some .malformed⟩
  | fuel + 1, l =>
    match l.step, beyond with
    | .error fault, _ => ⟨l.settled, some fault⟩
    | .ok next, none =>
      if next.tokens.head? = some .streamEnd then ⟨next.tokens.reverse, none⟩
      else lexFrom beyond fuel next
    | .ok next, some fault =>
      if next.cursor.rest.isEmpty then ⟨l.settled, some fault⟩ else lexFrom beyond fuel next

def ofSource (s : Source) : TokenStream := lexFrom s.fault (s.text.length + 2) (.start s.text)

end TokenStream

end HeaderRules.Yaml

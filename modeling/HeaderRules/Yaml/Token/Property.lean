import HeaderRules.Yaml.Token.Basic
import HeaderRules.Yaml.Token.Scalar
/-!
# Names, tags and directives in the text of a document

The readers of what stands before nodes and documents. Each gives what has been read and the place
behind it.
-/

namespace HeaderRules.Yaml

def readName (c : Cursor) : Except Fault Piece :=
  let name := c.ahead isNameChar
  if name.isEmpty then .error .malformed else .ok (name, c.skip name.length)

/-! ## Anchors -/

def endsAnchor (c : Char) : Bool :=
  isSpace c || isBreak c ||
    ['?', ':', ',', ']', '\x7d', '%', '@', Char.ofNat 0x60].contains c

def anchorName (c : Cursor) : Except Fault (String × Cursor) := do
  let (name, c) ← readName c.next
  if c.peek?.all endsAnchor then return (String.ofList name, c) else throw .malformed

/-! ## Tags -/

def isTagChar (c : Char) : Bool := c.isAlphanum || "-;/?:@&=+$,_.!~*'()[]".toList.contains c

/-- Reads bytes that are written as percent signs with two digits each. -/
def percentBytes : Nat → Cursor → Except Fault (List UInt8 × Cursor)
  | 0, c => .ok ([], c)
  | fuel + 1, c =>
    if c.sees '%' then
      match hexCode? 2 c.next.rest with
      | none => .error .malformed
      | some code => do
        let (more, c) ← percentBytes fuel (c.skip 3)
        return (code.toUInt8 :: more, c)
    else .ok ([], c)

def tagChars : Nat → Cursor → Except Fault Piece
  | 0, c => .ok ([], c)
  | fuel + 1, c =>
    match c.peek? with
    | none => .ok ([], c)
    | some ch =>
      if ch = '%' then do
        let (bytes, c) ← percentBytes (c.rest.length + 1) c
        match Text.Utf8.decode? bytes with
        | none => throw .malformed
        | some text =>
          let (more, c) ← tagChars fuel c
          return (text ++ more, c)
      else if isTagChar ch then do
        let (more, c) ← tagChars fuel c.next
        return (ch :: more, c)
      else .ok ([], c)

def tagText (c : Cursor) : Except Fault (String × Cursor) := do
  let (text, after) ← tagChars (c.rest.length + 1) c
  if after.index = c.index then throw .malformed
  return (String.ofList text, after)

/-- Reads a handle: an exclamation mark alone before a space, or a name between two of them. -/
def tagHandle (c : Cursor) : Except Fault (String × Cursor) :=
  if !c.sees '!' then .error .malformed
  else if c.peekAt? 1 = some ' ' then .ok ("!", c.next)
  else
    let name := c.next.ahead isNameChar
    let behind := c.next.skip name.length
    if behind.sees '!' then .ok (String.ofList ('!' :: name ++ ['!']), behind.next)
    else .error .malformed

/-- Whether another exclamation mark comes before the next space or break. -/
def hasSecondMark (c : Cursor) : Bool :=
  (c.next.ahead fun ch => ch != ' ' && !isBreak ch).contains '!'

def tagParts (c : Cursor) : Except Fault (TagText × Cursor) :=
  if c.peekAt? 1 = some '<' then do
    let (text, c) ← tagText (c.skip 2)
    if c.sees '>' then return (⟨none, text⟩, c.next) else throw .malformed
  else if c.isGapAt 1 then .ok (⟨none, "!"⟩, c.next)
  else do
    let (handle, c) ← if hasSecondMark c then tagHandle c else .ok ("!", c.next)
    let (text, c) ← tagText c
    return (⟨some handle, text⟩, c)

def readTag (c : Cursor) : Except Fault (TagText × Cursor) := do
  let (tag, c) ← tagParts c
  if c.isPlainGap then return (tag, c) else throw .malformed

/-! ## Directives -/

def versionNumber (c : Cursor) : Except Fault (Nat × Cursor) :=
  let digits := c.ahead Char.isDigit
  if digits.isEmpty then .error .malformed
  else if Number.maxDigits < digits.length then .error (.integerTooLong digits.length)
  else .ok (Text.ofDigits 10 digits, c.skip digits.length)

/-- Goes past a blank that has to be there, or the end of the line. -/
def expectGap (c : Cursor) : Except Fault Unit :=
  if c.isPlainGap then .ok () else .error .malformed

def directiveValue (name : List Char) (c : Cursor) : Except Fault (Directive × Cursor) :=
  let past (c : Cursor) : Cursor := c.skipWhile (· == ' ')
  if name = "YAML".toList then do
    let (major, c) ← versionNumber (past c)
    if !c.sees '.' then throw .malformed
    let (minor, c) ← versionNumber c.next
    expectGap c
    return (.version major minor, c)
  else if name = "TAG".toList then do
    let (handle, c) ← tagHandle (past c)
    if !c.sees ' ' then throw .malformed
    let (lead, c) ← tagText (past c)
    expectGap c
    return (.tagHandle handle lead, c)
  else .ok (.other, c.skipLine)

def readDirective (c : Cursor) : Except Fault (Directive × Cursor) := do
  let (name, c) ← readName c.next
  expectGap c
  let (directive, c) ← directiveValue name c
  return (directive, ← restOfLine c)

end HeaderRules.Yaml

import HeaderRules.Yaml.Fault
/-!
# The text of a document

The bytes of a document are read in chunks and the text in blocks, so that a fault of the bytes
shows only when the text before it has been used up. Line ends are told from the next character,
and all of them become a line feed.
-/

namespace HeaderRules.Yaml

/-- The text that can be read of a document, and the fault behind it if there is one. -/
structure Source where
  text : List Char
  fault : Option Fault
deriving Repr

namespace Source

/-- The number of bytes that are decoded at a time. -/
def chunkSize : Nat := 8192

/-- The number of characters that are asked for at a time. -/
def blockSize : Nat := 4096

def isReadable (c : Char) : Bool :=
  let n := c.toNat
  n == 0x09 || n == 0x0A || n == 0x0D || (0x20 ≤ n && n ≤ 0x7E) || n == 0x85 ||
    (0xA0 ≤ n && n ≤ 0xFFFD) || 0x10000 ≤ n

/-- The state of reading: bytes to come, bytes of a character that is not complete, whether a
carriage return waits for the next character, characters that have been decoded, and whether all
bytes have been. -/
structure Reading where
  bytes : List UInt8
  held : List UInt8
  waiting : Bool
  ready : List Char
  ended : Bool

/-- Turns every line end into a line feed; with `waiting` after a carriage return. -/
def unifyLineEnds (waiting : Bool) : List Char → List Char
  | [] => []
  | c :: rest =>
    if c = '\r' then '\n' :: unifyLineEnds true rest
    else if c = '\n' ∧ waiting then unifyLineEnds false rest
    else c :: unifyLineEnds false rest

/-- Decodes one chunk more. At the end a character that is not complete is a fault. A carriage
return at the end of a chunk waits for what comes next. -/
def Reading.decodeChunk (r : Reading) : Except Fault Reading :=
  let chunk := r.bytes.take chunkSize
  let data := r.held ++ chunk
  let final := chunk.isEmpty
  let decoded := Text.Utf8.decode data
  let fault (start length : Nat) (reason : Text.Utf8.Reason) : Fault :=
    .undecodable ((data.drop start).headD 0) start length reason
  let next (held : List UInt8) : Reading :=
    let text := if r.waiting && (final || !decoded.chars.isEmpty) then '\r' :: decoded.chars
      else decoded.chars
    let waits := !final && text.getLast? == some '\r'
    { bytes := r.bytes.drop chunkSize
      held := held
      waiting := waits || (r.waiting && text.isEmpty)
      ready := r.ready ++ unifyLineEnds false (if waits then text.dropLast else text)
      ended := final }
  match decoded.ending with
  | .complete => .ok (next [])
  | .within read =>
    let start := data.length - read
    if final then .error (fault start read .ending) else .ok (next (data.drop start))
  | .refused start length reason => .error (fault start length reason)

/-- Decodes chunks until a block is ready or all bytes have been decoded. -/
def Reading.fill : Nat → Reading → Except Fault Reading
  | 0, r => .ok r
  | fuel + 1, r =>
    if r.ended || blockSize ≤ r.ready.length then .ok r
    else r.decodeChunk.bind (fill fuel)

def Reading.block (r : Reading) : Except Fault (List Char × Reading) := do
  let r ← r.fill (r.bytes.length + 2)
  return (r.ready.take blockSize, { r with ready := r.ready.drop blockSize })

def checkReadable (block : List Char) : Except Fault (List Char) :=
  if block.all isReadable then .ok block else .error .malformed

def readBlocks : Nat → Reading → Source
  | 0, _ => ⟨[], none⟩
  | fuel + 1, r =>
    match r.block with
    | .error fault => ⟨[], some fault⟩
    | .ok ([], _) => ⟨[], none⟩
    | .ok (block, r) =>
      match checkReadable block with
      | .error fault => ⟨[], some fault⟩
      | .ok block =>
        let rest := readBlocks fuel r
        { rest with text := block ++ rest.text }

/-- The source of a document. The first two blocks are read at once. -/
def ofBytes (bytes : List UInt8) : Source :=
  let start : Reading := ⟨bytes, [], false, [], false⟩
  let first : Except Fault (List Char × Reading) := do
    let (a, r) ← start.block
    let (b, r) ← r.block
    return (← checkReadable (a ++ b), r)
  match first with
  | .error fault => ⟨[], some fault⟩
  | .ok (text, r) =>
    let rest := readBlocks (bytes.length + 1) r
    { rest with text := text ++ rest.text }

end Source

end HeaderRules.Yaml

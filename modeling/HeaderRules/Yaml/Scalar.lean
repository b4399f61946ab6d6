import HeaderRules.Number.Decimal
import HeaderRules.Text.Base64
import HeaderRules.Text.Case
import HeaderRules.Value
import HeaderRules.Yaml.Tag
/-!
# Scalars from text

The value that a text spells under a tag. A tag that the document names may not fit the text.
-/

namespace HeaderRules.Yaml

open HeaderRules.Number (Binary64)

def withoutUnderscores (s : List Char) : List Char := s.filter (· != '_')

/-! ## Truth values -/

def truthTexts : List (String × Bool) :=
  [("yes", true), ("no", false), ("true", true), ("false", false), ("on", true), ("off", false)]

def readBool (text : String) : Except Fault Bool :=
  let lowered := String.ofList (Text.lower text.toList)
  match truthTexts.lookup lowered with
  | some b => .ok b
  | none => .error (.notBoolean lowered)

/-! ## Whole numbers -/

def readDigits (s : List Char) : Except Fault Int :=
  match Number.readInteger s with
  | .ok n => .ok n
  | .error .malformed => .error (.notInteger 10 (String.ofList s))
  | .error (.tooLong digits) => .error (.integerTooLong digits)

def readBased (base : Nat) (s : List Char) : Except Fault Int :=
  match Number.readInBase? base s with
  | some n => .ok n
  | none => .error (.notInteger base (String.ofList s))

/-- Reads a whole number without its sign: `0b` and `0x` begin base two and sixteen, a zero begins
base eight, and colons separate digits of base sixty. -/
def readUnsigned (s : List Char) : Except Fault Int :=
  match s with
  | [] => .error .emptyNumber
  | ['0'] => .ok 0
  | '0' :: 'b' :: rest => readBased 2 rest
  | '0' :: 'x' :: rest => readBased 16 rest
  | '0' :: _ => readBased 8 s
  | _ =>
    if s.contains ':' then do
      let digits ← (Text.split ':' s).mapM readDigits
      return digits.foldl (fun n d => 60 * n + d) 0
    else readDigits s

def readInt (text : String) : Except Fault Int := do
  let s := withoutUnderscores text.toList
  if s.isEmpty then throw .emptyNumber
  let n ← readUnsigned (Tag.dropSign s)
  return if s.head? = some '-' then -n else n

/-! ## Floating point numbers -/

def readNumeral (s : List Char) : Except Fault Binary64 :=
  match Binary64.read? s with
  | some x => .ok x
  | none => .error (.notFloat (String.ofList s))

/-- The sum of digits of base sixty, the last of them first, with the weight of the first one in
the list. -/
def sumSixties (sum : Binary64) (weight : Nat) : List Binary64 → Except Fault Binary64
  | [] => .ok sum
  | digit :: rest =>
    let factor := Binary64.ofInt weight
    if factor.isFinite then sumSixties (sum.add (digit.mul factor)) (weight * 60) rest
    else .error .floatOverflow

def readFloatUnsigned (s : List Char) : Except Fault Binary64 :=
  if s = ".inf".toList then .ok (.infinite false)
  else if s = ".nan".toList then .ok .nan
  else if s.contains ':' then do
    let digits ← (Text.split ':' s).mapM readNumeral
    sumSixties (.zero false) 1 digits.reverse
  else readNumeral s

def readFloat (text : String) : Except Fault Binary64 := do
  let s := Text.lower (withoutUnderscores text.toList)
  if s.isEmpty then throw .emptyNumber
  let x ← readFloatUnsigned (Tag.dropSign s)
  return if s.head? = some '-' then x.neg else x

/-! ## Bytes, dates and times -/

def readBytes (text : String) : Except Fault (List UInt8) :=
  if text.toList.all (·.toNat < 0x80) then
    match Text.Base64.decode? text.toList with
    | some bytes => .ok bytes
    | none => .error .malformed
  else .error .malformed

def readTimestamp (text : String) : Except Fault Scalar :=
  match Timestamp.read? (Tag.dropLineFeed text.toList) with
  | none => .error .notTimestamp
  | some stamp => stamp.toScalar.mapError .calendar

/-- The value of a text under a tag of single values. Other tags are refused. Only the tag of texts
has a use for halves of surrogate pairs. -/
def readScalar (tag : Tag) (raw : RawText) : Except Fault Scalar :=
  let text := raw.patched
  match tag with
  | .null => .ok .null
  | .bool => (readBool text).map .bool
  | .int => (readInt text).map .int
  | .float => (readFloat text).map .float
  | .binary => (readBytes text).map .bytes
  | .timestamp => readTimestamp text
  | .text => .ok (.ofRaw raw)
  | .list | .map | .set | .orderedMap | .pairs | .merge | .default | .unknown => .error .malformed

end HeaderRules.Yaml

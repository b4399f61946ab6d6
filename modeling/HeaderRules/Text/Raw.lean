import HeaderRules.Text.Quoted
/-!
# Raw texts

An escape may name half of a surrogate pair, which is no character. A text with such a half in it is
a text all the same: it can be compared, joined and shown, but it has no UTF-8 form. Ids are such
texts, for their hash goes by that form. In the other texts of a document two halves that make up a
pair become its character, and any other half becomes the replacement character.
-/

namespace HeaderRules

/-- A code point: a character, or one of the halves of surrogate pairs, counted from the first. -/
inductive CodePoint
  | char (c : Char)
  | half (offset : Fin 0x800)
deriving DecidableEq, Repr

namespace CodePoint

def ofNat (n : Nat) : CodePoint :=
  if n < 0xD800 then .char (Char.ofNat n)
  else if h : n - 0xD800 < 0x800 then .half ⟨n - 0xD800, h⟩
  else .char (Char.ofNat n)

def toNat : CodePoint → Nat
  | char c => c.toNat
  | half offset => 0xD800 + offset

def isHalf : CodePoint → Bool
  | char _ => false
  | half _ => true

/-- A code point as a character, with the replacement character for a half. -/
def patched : CodePoint → Char
  | char c => c
  | half _ => '\uFFFD'

/-- A half is written as an escape between quotes. -/
def quoted (quote : Char) : CodePoint → List Char
  | char c => Text.quoteChar quote c
  | half offset => '\\' :: 'u' :: Text.digitsPadded 16 4 (0xD800 + offset)

end CodePoint

abbrev RawText := List CodePoint

namespace RawText

@[coe]
def ofString (s : String) : RawText := s.toList.map .char

instance : Coe String RawText := ⟨ofString⟩

/-- Whether a text has no UTF-8 form. -/
def isRagged (t : RawText) : Bool := t.any CodePoint.isHalf

def before (s t : RawText) : Bool := s.map CodePoint.toNat < t.map CodePoint.toNat

/-! ## UTF-8 -/

/-- Why a text has no UTF-8 form: its first half, where that stands, and how many halves there are
in a row. -/
structure EncodeFault where
  half : Fin 0x800
  start : Nat
  length : Nat
deriving DecidableEq, Repr

def EncodeFault.message (fault : EncodeFault) : String :=
  "'utf-8' codec can't encode " ++
    (if fault.length = 1 then
      "character '\\u" ++ String.ofList (Text.digitsPadded 16 4 (0xD800 + fault.half)) ++
        "' in position " ++ toString fault.start
    else
      "characters in position " ++ toString fault.start ++ "-" ++
        toString (fault.start + fault.length - 1)) ++
    ": surrogates not allowed"

def encodeFrom (position : Nat) : RawText → Except EncodeFault (List UInt8)
  | [] => .ok []
  | .char c :: rest => do return String.utf8EncodeChar c ++ (← encodeFrom (position + 1) rest)
  | .half h :: rest => .error ⟨h, position, 1 + (rest.takeWhile CodePoint.isHalf).length⟩

def encode (t : RawText) : Except EncodeFault (List UInt8) := encodeFrom 0 t

/-! ## Showing -/

def patched (t : RawText) : String := String.ofList (t.map CodePoint.patched)

/-- The characters of a text: two halves that make up a pair become its character, and any other
half becomes the replacement character. -/
def paired : RawText → List Char
  | [] => []
  | .char c :: rest => c :: paired rest
  | .half high :: .half low :: rest =>
    if high.val < 0x400 ∧ 0x400 ≤ low.val then
      Char.ofNat (0x10000 + high * 0x400 + (low - 0x400)) :: paired rest
    else '\uFFFD' :: paired (.half low :: rest)
  | .half _ :: rest => '\uFFFD' :: paired rest

def shown (t : RawText) : String := String.ofList t.paired

def quoted (t : RawText) : String :=
  let quote := Text.quoteFor t.patched.toList
  String.ofList (quote :: (t.flatMap (CodePoint.quoted quote) ++ [quote]))

end RawText

abbrev RaggedText := { t : RawText // t.isRagged = true }

end HeaderRules

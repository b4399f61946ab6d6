/-!
# UTF-8

Reading characters from bytes, one byte at a time. A sequence of bytes that can be no character is
refused at the first byte that rules it out.
-/

namespace HeaderRules.Text.Utf8

inductive Reason
  | start
  | continuation
  | ending
deriving DecidableEq, Repr

def Reason.message : Reason → String
  | start => "invalid start byte"
  | continuation => "invalid continuation byte"
  | ending => "unexpected end of data"

/-- The beginning of a character: the bits read so far, the number of bytes read and still owed,
and the range of the next byte. -/
structure Opened where
  bits : Nat
  read : Nat
  owed : Nat
  low : Nat
  high : Nat
deriving DecidableEq, Repr

/-- The character that a first byte above the ASCII range opens. Bytes that would open an overlong
form, a surrogate or a number beyond the last character narrow the range of the next byte. -/
def opened? (byte : Nat) : Option Opened :=
  if byte < 0xC2 then none
  else if byte < 0xE0 then some ⟨byte - 0xC0, 1, 1, 0x80, 0xBF⟩
  else if byte < 0xF0 then
    some ⟨byte - 0xE0, 1, 2, if byte = 0xE0 then 0xA0 else 0x80, if byte = 0xED then 0x9F else 0xBF⟩
  else if byte < 0xF5 then
    some ⟨byte - 0xF0, 1, 3, if byte = 0xF0 then 0x90 else 0x80, if byte = 0xF4 then 0x8F else 0xBF⟩
  else none

/-- How reading ends: between characters, within one of which some bytes have been read, or at
bytes that are refused. -/
inductive Ending
  | complete
  | within (read : Nat)
  | refused (start length : Nat) (reason : Reason)
deriving DecidableEq, Repr

structure Decoded where
  chars : List Char
  ending : Ending
deriving Repr

def Decoded.cons (c : Char) (d : Decoded) : Decoded := { d with chars := c :: d.chars }

/-- Reads on from a position, within a character or between two. -/
def decodeFrom (position : Nat) : Option Opened → List UInt8 → Decoded
  | none, [] => ⟨[], .complete⟩
  | some o, [] => ⟨[], .within o.read⟩
  | none, byte :: rest =>
    let b := byte.toNat
    if b < 0x80 then (decodeFrom (position + 1) none rest).cons (Char.ofNat b)
    else
      match opened? b with
      | none => ⟨[], .refused position 1 .start⟩
      | some o => decodeFrom (position + 1) (some o) rest
  | some o, byte :: rest =>
    let b := byte.toNat
    if b < o.low ∨ o.high < b then ⟨[], .refused (position - o.read) o.read .continuation⟩
    else
      let bits := o.bits * 0x40 + (b - 0x80)
      if o.owed ≤ 1 then (decodeFrom (position + 1) none rest).cons (Char.ofNat bits)
      else decodeFrom (position + 1) (some ⟨bits, o.read + 1, o.owed - 1, 0x80, 0xBF⟩) rest

def decode (bytes : List UInt8) : Decoded := decodeFrom 0 none bytes

/-- The characters of bytes that hold characters only. -/
def decode? (bytes : List UInt8) : Option (List Char) :=
  match decode bytes with
  | ⟨chars, .complete⟩ => some chars
  | _ => none

end HeaderRules.Text.Utf8

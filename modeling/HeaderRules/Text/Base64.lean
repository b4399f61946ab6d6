/-!
# Base 64

Reading bytes that are written as text, six bits a character. Characters outside the alphabet are
passed over, and padding that completes a group of four ends the text.
-/

namespace HeaderRules.Text.Base64

def bits? (c : Char) : Option Nat :=
  if 'A' ≤ c ∧ c ≤ 'Z' then some (c.toNat - 'A'.toNat)
  else if 'a' ≤ c ∧ c ≤ 'z' then some (c.toNat - 'a'.toNat + 26)
  else if '0' ≤ c ∧ c ≤ '9' then some (c.toNat - '0'.toNat + 52)
  else if c = '+' then some 62
  else if c = '/' then some 63
  else none

/-- Reads on within a group of which `read` characters have been read, the last of them with bits
left over, and `pads` marks of padding since then. -/
def decodeFrom (read left pads : Nat) : List Char → Option (List UInt8)
  | [] => if read = 0 then some [] else none
  | c :: rest =>
    if c = '=' then
      if 2 ≤ read ∧ 4 ≤ read + (pads + 1) then some []
      else decodeFrom read left (if 2 ≤ read then pads + 1 else pads) rest
    else
      match bits? c with
      | none => decodeFrom read left pads rest
      | some bits =>
        match read with
        | 0 => decodeFrom 1 bits 0 rest
        | 1 => (decodeFrom 2 (bits % 16) 0 rest).map ((left * 4 + bits / 16).toUInt8 :: ·)
        | 2 => (decodeFrom 3 (bits % 4) 0 rest).map ((left * 16 + bits / 4).toUInt8 :: ·)
        | _ => (decodeFrom 0 0 0 rest).map ((left * 64 + bits).toUInt8 :: ·)

/-- The bytes that a text stands for, unless its last group is cut short. -/
def decode? (s : List Char) : Option (List UInt8) := decodeFrom 0 0 0 s

end HeaderRules.Text.Base64

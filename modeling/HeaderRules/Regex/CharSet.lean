import HeaderRules.Text.Case
import HeaderRules.Text.Blank
import HeaderRules.Text.Digit
import HeaderRules.Text.WordTable
import HeaderRules.Regex.Syntax
/-!
# Characters against a pattern

When a character of a text agrees with a character, a class or a set of a pattern. Comparison is
exact, blind to the case of ASCII letters, or blind to the case of all letters.
-/

namespace HeaderRules.Regex

open HeaderRules.Text

inductive Folding
  | exact
  | ascii
  | unicode
deriving DecidableEq, Repr

def Flags.folding (flags : Flags) : Folding :=
  if flags.ignoreCase then if flags.ascii then .ascii else .unicode else .exact

namespace Folding

def fold : Folding → Nat → Nat
  | .exact, code => code
  | .ascii, code => lowerAscii code
  | .unicode, code => lowerCode code

def agrees : Folding → (wanted code : Nat) → Bool
  | .exact, wanted, code => wanted == code
  | .ascii, wanted, code => lowerAscii wanted == lowerAscii code
  | .unicode, wanted, code => sameLetter wanted code

/-- The code points that agree with a folded one, where that can differ from being equal. -/
def class? : Folding → Nat → List Nat
  | .exact, code => [code]
  | .ascii, code => code :: if 0x61 ≤ code ∧ code ≤ 0x7A then [code - 32] else []
  | .unicode, code => (cousins code).flatMap lowerSources

end Folding

namespace CharKind

/-- Whether a code point belongs to a class; with `ascii`, only ASCII characters do. -/
def holds (ascii : Bool) (code : Nat) : CharKind → Bool
  | .digit => if ascii then 0x30 ≤ code && code ≤ 0x39
    else zeroDigits.any fun z => z ≤ code && code < z + 10
  | .space => inRanges blankRanges code && !(ascii && (0x1C ≤ code && code ≤ 0x1F || 0x80 ≤ code))
  | .word => (inRanges letterOrDigitRanges code || code == 0x5F) && !(ascii && 0x80 ≤ code)

end CharKind

/-- The last code point that a case-blind range treats letter by letter; above it a range is
compared with the folded character and its upper case. -/
def lastFoldedCode : Nat := 0xFFFF

/-- Whether a folded code point agrees with some code point of a range. -/
def rangeHolds (folding : Folding) (lo hi folded : Nat) : Bool :=
  let within (code : Nat) : Bool := lo ≤ code && code ≤ hi
  match folding with
  | .exact => within folded
  | folding =>
    ((folding.class? folded).any fun code => within code && code ≤ lastFoldedCode) ||
      lastFoldedCode < hi && (within folded || within (upperCode folded))

def SetItem.holds (folding : Folding) (ascii : Bool) (folded : Nat) : SetItem → Bool
  | .one code =>
    if folding ≠ .exact ∧ lastFoldedCode < folding.fold code then code == folded
    else folding.agrees code folded
  | .range lo hi => rangeHolds folding lo hi folded
  | .kind k negated => k.holds ascii folded != negated

def setHolds (flags : Flags) (negated : Bool) (items : List SetItem) (c : Char) : Bool :=
  let folding := flags.folding
  items.any (SetItem.holds folding flags.ascii (folding.fold c.toNat)) != negated

end HeaderRules.Regex

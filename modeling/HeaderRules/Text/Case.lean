import HeaderRules.Text.Ranges
import HeaderRules.Text.CaseTable
/-!
# Letter case

Lower and upper case of single characters, the lower case of a text, and the relation of
characters that a case-blind comparison does not tell apart.
-/

namespace HeaderRules.Text

def CaseRun.holds (run : CaseRun) (code : Nat) : Bool :=
  run.first ≤ code && code ≤ run.last && (code - run.first) % run.step == 0

/-- The image of a code point under the first run that holds it, and itself outside all runs.
The runs ascend, so the search stops at one that begins above the code point. -/
def mapCase : List CaseRun → Nat → Nat
  | [], code => code
  | run :: rest, code =>
    if code < run.first then code
    else if run.holds code then (code + run.shift).toNat
    else mapCase rest code

def lowerCode (code : Nat) : Nat := mapCase lowerRuns code

def upperCode (code : Nat) : Nat := mapCase upperRuns code

def lowerAscii (code : Nat) : Nat := if 0x41 ≤ code ∧ code ≤ 0x5A then code + 32 else code

/-- Lower case code points that share their upper case, grouped. -/
def caseCousins : List (List Nat) :=
  [[0x69, 0x131], [0x73, 0x17F], [0xB5, 0x3BC], [0x345, 0x3B9, 0x1FBE], [0x390, 0x1FD3],
   [0x3B0, 0x1FE3], [0x3B2, 0x3D0], [0x3B5, 0x3F5], [0x3B8, 0x3D1], [0x3BA, 0x3F0],
   [0x3C0, 0x3D6], [0x3C1, 0x3F1], [0x3C2, 0x3C3], [0x3C6, 0x3D5], [0x432, 0x1C80],
   [0x434, 0x1C81], [0x43E, 0x1C82], [0x441, 0x1C83], [0x442, 0x1C84, 0x1C85],
   [0x44A, 0x1C86], [0x463, 0x1C87], [0x1C88, 0xA64B], [0x1E61, 0x1E9B], [0xFB05, 0xFB06]]

/-- All lower case code points that share their upper case with the given one, itself first. -/
def cousins (code : Nat) : List Nat :=
  code :: ((caseCousins.find? (·.contains code)).getD []).filter (· != code)

/-- Whether a case-blind comparison takes two code points for the same letter. -/
def sameLetter (a b : Nat) : Bool := (cousins (lowerCode a)).contains (lowerCode b)

def CaseRun.source? (run : CaseRun) (code : Nat) : Option Nat :=
  let source := ((code : Int) - run.shift).toNat
  if run.holds source then some source else none

def lowerSources (code : Nat) : List Nat :=
  (code :: lowerRuns.filterMap (·.source? code)).filter (lowerCode · == code)

def isCased (c : Char) : Bool := inRanges casedRanges c.toNat

/-- Whether a character is passed over when a neighbour with case is looked for. -/
def isCaseIgnorable (c : Char) : Bool := inRanges caseIgnorableRanges c.toNat

def nextIsCased (cs : List Char) : Bool :=
  match cs.dropWhile isCaseIgnorable with
  | [] => false
  | c :: _ => isCased c

/-- Lower case of a text, given the characters before it in reverse order: a sigma that ends a
word takes its final form, and a dotted capital i keeps its dot as an accent. -/
def lowerAfter (before : List Char) : List Char → List Char
  | [] => []
  | c :: rest =>
    let lowered :=
      if c = 'Σ' then [if nextIsCased before && !nextIsCased rest then 'ς' else 'σ']
      else if c = 'İ' then ['i', '\u0307']
      else [Char.ofNat (lowerCode c.toNat)]
    lowered ++ lowerAfter (c :: before) rest

def lower (s : List Char) : List Char := lowerAfter [] s

end HeaderRules.Text

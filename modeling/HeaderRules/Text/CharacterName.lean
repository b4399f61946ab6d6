import HeaderRules.Text.Digit
import HeaderRules.Text.NameTable.Aliases
import HeaderRules.Text.NameTable.Ancient
import HeaderRules.Text.NameTable.Basic
import HeaderRules.Text.NameTable.Pictures
import HeaderRules.Text.NameTable.Symbols
import HeaderRules.Text.NameTable.Upper
import HeaderRules.Text.Split
/-!
# Character names

The names by which a pattern can ask for a character (Unicode 14).

Most names stand in tables. A line of a table is a code point and the names of the characters from
there on. A name begins with the number of words that it shares with the name before it, goes on
with words of its own, and ends, behind a plus sign, with the number of words at its end that are
those of the name before it: after LATIN CAPITAL LETTER A, the names LATIN CAPITAL LETTER B and
LATIN SMALL LETTER B are written 3B and 1SMALL+2. Ideographs are named by their code points, and
Hangul syllables by their sounds.
-/

namespace HeaderRules.Text

/-! ## Tables -/

/-- The words of a name, given those of the name before it. -/
def nameWords (before : List (List Char)) : List Char → List (List Char)
  | [] => []
  | front :: rest =>
    let (own, back) := rest.span (· ≠ '+')
    before.take (ofDigits 10 [front]) ++ (if own = [] then [] else split ' ' own) ++
      before.drop (before.length - ofDigits 10 back)

/-- How far a table has been searched: the last name, the code point of the next one, and the code
point that has been found. -/
structure NameSearch where
  last : List (List Char)
  next : Nat
  found : Option Nat

namespace NameSearch

def readName (wanted : List (List Char)) (search : NameSearch) (entry : List Char) : NameSearch :=
  let words := nameWords search.last entry
  ⟨words, search.next + 1, if words = wanted then some search.next else search.found⟩

def readLine (wanted : List (List Char)) (search : NameSearch) (line : List Char) : NameSearch :=
  let (code, names) := line.span (· ≠ ' ')
  (split ',' (names.drop 1)).foldl (readName wanted) { search with next := ofDigits 16 code }

def start : NameSearch := ⟨[], 0, none⟩

end NameSearch

def findName (name : List Char) (table : String) : Option Nat :=
  ((split '\n' table.toList).foldl (NameSearch.readLine (split ' ' name)) .start).found

def nameTables : List String :=
  [basicNames, symbolNames, upperNames, ancientNames, pictureNames, aliasNames]

/-! ## Names with numbers -/

def behind? (beginning : String) (name : List Char) : Option (List Char) :=
  if beginning.toList.isPrefixOf name then some (name.drop beginning.length) else none

/-- A code point in four or five digits, with capital letters, in one of some closed ranges. -/
def numberIn? (ranges : List (Nat × Nat)) (digits : List Char) : Option Nat :=
  let code := ofDigits 16 digits
  if (digits.length = 4 ∨ digits.length = 5) ∧ digits.all (fun c => c.isDigit || ('A' ≤ c && c ≤ 'F'))
      ∧ ranges.any (fun range => range.1 ≤ code && code ≤ range.2) then some code
  else none

/-- Names that end in the code point, with the code points that have them. -/
def numberedNames : List (String × List (Nat × Nat)) :=
  [("CJK COMPATIBILITY IDEOGRAPH-", [(0xF900, 0xFA6D), (0xFA70, 0xFAD9), (0x2F800, 0x2FA1D)]),
   ("KHITAN SMALL SCRIPT CHARACTER-", [(0x18B00, 0x18CD5)]),
   ("NUSHU CHARACTER-", [(0x1B170, 0x1B2FB)])]

def numberedName? (name : List Char) : Option Nat :=
  numberedNames.findSome? fun (beginning, ranges) => do
    let digits ← behind? beginning name
    let code ← numberIn? ranges digits
    if digits.head? = some '0' then none else some code

def ideographRanges : List (Nat × Nat) :=
  [(0x3400, 0x4DBF), (0x4E00, 0x9FFF), (0x20000, 0x2A6DF), (0x2A700, 0x2B738), (0x2B740, 0x2B81D),
   (0x2B820, 0x2CEA1), (0x2CEB0, 0x2EBE0), (0x30000, 0x3134A)]

/-- The code point of a unified ideograph. Its name is written in capital letters. -/
def ideograph? (name : List Char) : Option Nat := do
  numberIn? ideographRanges (← behind? "CJK UNIFIED IDEOGRAPH-" name)

/-! ## Syllables -/

def leadSounds : List String :=
  ["G", "GG", "N", "D", "DD", "R", "M", "B", "BB", "S", "SS", "", "J", "JJ", "C", "K", "T", "P", "H"]

def vowelSounds : List String :=
  ["A", "AE", "YA", "YAE", "EO", "E", "YEO", "YE", "O", "WA", "WAE", "OE", "YO", "U", "WEO", "WE",
   "WI", "YU", "EU", "YI", "I"]

def tailSounds : List String :=
  ["", "G", "GG", "GS", "N", "NJ", "NH", "D", "L", "LG", "LM", "LB", "LS", "LT", "LP", "LH", "M", "B",
   "BS", "S", "SS", "NG", "J", "C", "K", "T", "P", "H"]

/-- The place of the first of some sounds for which something is found behind it, and that. -/
def soundThen? (name : List Char) (inner : List Char → Option Nat) (factor : Nat) :
    Nat → List String → Option Nat
  | _, [] => none
  | place, sound :: rest =>
    match (behind? sound name).bind inner with
    | some found => some (place * factor + found)
    | none => soundThen? name inner factor (place + 1) rest

/-- The code point of a Hangul syllable. Its name is written in capital letters. -/
def syllable? (name : List Char) : Option Nat := do
  let ended (rest : List Char) : Option Nat := if rest = [] then some 0 else none
  let tail (rest : List Char) := soundThen? rest ended 1 0 tailSounds
  let vowel (rest : List Char) := soundThen? rest tail 28 0 vowelSounds
  let place ← soundThen? (← behind? "HANGUL SYLLABLE " name) vowel 588 0 leadSounds
  return 0xAC00 + place

/-! ## All names -/

/-- The code point of a character name. In tables small and capital letters are alike. -/
def characterNamed? : List Char → Option Nat
  | [] => none
  | first :: rest =>
    let name := first :: rest
    let capital := name.map Char.toUpper
    ((nameTables.findSome? (findName capital)).or (numberedName? capital)).or
      ((ideograph? name).or (syllable? name))

end HeaderRules.Text

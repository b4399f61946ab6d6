import HeaderRules.Regex.Reader
import HeaderRules.Text.CharacterName
/-!
# Escapes

What a backslash and the characters after it stand for, inside bracketed sets and outside.
-/

namespace HeaderRules.Regex

open HeaderRules.Text (digitIn? ofDigits)

def isHex (c : Char) : Bool := (digitIn? 16 c).isSome

def isOctal (c : Char) : Bool := (digitIn? 8 c).isSome

def isDecimal (c : Char) : Bool := (digitIn? 10 c).isSome

def isAsciiLetter (c : Char) : Bool := ('a' ≤ c ∧ c ≤ 'z') ∨ ('A' ≤ c ∧ c ≤ 'Z')

def controlEscape? : Char → Option Nat
  | 'a' => some 0x07
  | 'b' => some 0x08
  | 'f' => some 0x0C
  | 'n' => some 0x0A
  | 'r' => some 0x0D
  | 't' => some 0x09
  | 'v' => some 0x0B
  | '\\' => some 0x5C
  | _ => none

def kindEscape? : Char → Option SetItem
  | 'd' => some (.kind .digit false)
  | 'D' => some (.kind .digit true)
  | 's' => some (.kind .space false)
  | 'S' => some (.kind .space true)
  | 'w' => some (.kind .word false)
  | 'W' => some (.kind .word true)
  | _ => none

def anchorEscape? : Char → Option Anchor
  | 'A' => some .textStart
  | 'Z' => some .textEnd
  | 'b' => some .wordEdge
  | 'B' => some .notWordEdge
  | _ => none

def escapeText (cs : List Char) : String := String.ofList ('\\' :: cs)

/-- A code point written with a fixed number of hexadecimal digits after the letter `c`. -/
def hexEscape (c : Char) (digits : Nat) (s : Source) : Except Error (Nat × Source) := do
  let (cs, t) ← s.takeWhile isHex digits
  if cs.length ≠ digits then
    t.fail (.incompleteEscape (escapeText (c :: cs))) (cs.length + 2)
  else
    let code := ofDigits 16 cs
    if 0x80000000 ≤ code then .error .hugeCode
    else if 0x110000 ≤ code then t.fail (.badEscape (escapeText (c :: cs))) (cs.length + 2)
    else return (code, t)

/-- An escape that stands for one code point, common to sets and to the rest of a pattern. -/
def codeEscape (c : Char) (s : Source) : Except Error (Nat × Source) :=
  match c with
  | 'x' => hexEscape c 2 s
  | 'u' => hexEscape c 4 s
  | 'U' => hexEscape c 8 s
  | 'N' => do
    let (brace, s) ← s.accept '\x7b'
    if !brace then s.fail .missingBrace 0
    else
      let (cs, s) ← s.name '\x7d' "character name"
      match Text.characterNamed? cs with
      | some code => return (code, s)
      | none => s.fail (.undefinedCharacter (String.ofList cs)) (cs.length + 4)
  | _ =>
    if isAsciiLetter c ∨ isDecimal c then s.fail (.badEscape (escapeText [c])) 2
    else return (c.toNat, s)

/-- An octal code point of at most three digits, the first of which is `c`. -/
def octalEscape (c : Char) (s : Source) : Except Error (Nat × Source) := do
  let (cs, t) ← s.takeWhile isOctal 2
  let code := ofDigits 8 (c :: cs)
  if 0o377 < code then t.fail (.octalTooLarge (escapeText (c :: cs))) (cs.length + 2)
  else return (code, t)

def setEscape (c : Char) (s : Source) : Except Error (SetItem × Source) :=
  match controlEscape? c with
  | some code => return (.one code, s)
  | none =>
    match kindEscape? c with
    | some item => return (item, s)
    | none => do
      let (code, t) ← if isOctal c then octalEscape c s else codeEscape c s
      return (.one code, t)

def groupReference (index length : Nat) (r : Reader) : Except Error (Node × Reader) :=
  if r.groups ≤ index then r.source.fail (.invalidGroup index) (length - 1)
  else
    match r.closedWidth? index with
    | none => r.source.fail .openGroup length
    | some width => do
      r.checkLookbehind index
      return (.backref index width, r)

/-- An escape that begins with a nonzero digit: three octal digits are a code point, anything
else is a reference to a group of one or two digits. -/
def digitEscape (c : Char) (r : Reader) : Except Error (Node × Reader) := do
  match r.source.peek with
  | some (.plain d) =>
    if isDecimal d then
      let s ← r.source.skip
      match s.peek with
      | some (.plain e) =>
        if isOctal c && isOctal d && isOctal e then
          let t ← s.skip
          let code := ofDigits 8 [c, d, e]
          if 0o377 < code then t.fail (.octalTooLarge (escapeText [c, d, e])) 4
          else return (.one code, { r with source := t })
        else groupReference (ofDigits 10 [c, d]) 3 { r with source := s }
      | _ => groupReference (ofDigits 10 [c, d]) 3 { r with source := s }
    else groupReference (ofDigits 10 [c]) 2 r
  | _ => groupReference (ofDigits 10 [c]) 2 r

def itemEscape (c : Char) (r : Reader) : Except Error (Node × Reader) :=
  match anchorEscape? c, kindEscape? c, controlEscape? c with
  | some place, _, _ => return (.anchor place, r)
  | _, some item, _ => return (.set false [item], r)
  | _, _, some code => return (.one code, r)
  | none, none, none =>
    if c = '0' then do
      let (cs, s) ← r.source.takeWhile isOctal 2
      return (.one (ofDigits 8 (c :: cs)), { r with source := s })
    else if isDecimal c then digitEscape c r
    else do
      let (code, s) ← codeEscape c r.source
      return (.one code, { r with source := s })

end HeaderRules.Regex

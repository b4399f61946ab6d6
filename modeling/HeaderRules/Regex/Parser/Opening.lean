import HeaderRules.Number.Integer
import HeaderRules.Regex.Reader
import HeaderRules.Text.CharacterName
/-!
# Openings of groups

What follows an opening parenthesis: a name, options, a look ahead or behind, a condition, or
nothing at all.
-/

namespace HeaderRules.Regex

open HeaderRules.Text (isIdentifier)
open HeaderRules.Number (readInteger)

def flagOf? : Char → Option Flags
  | 'i' => some { ignoreCase := true }
  | 'm' => some { multiline := true }
  | 's' => some { dotAll := true }
  | 'x' => some { verbose := true }
  | 'a' => some { ascii := true }
  | 'u' => some { unicode := true }
  | 't' => some { noRepeat := true }
  | _ => none

/-- Whether a letter names an option; `L` does, but no pattern may ask for it. -/
def isFlagLetter (c : Char) : Bool := (flagOf? c).isSome || c == 'L'

/-- The fault of a token that stands where an option was expected: any letter is taken for an
unknown option. -/
def flagFault (token : Token) (otherwise : Fault) : Fault :=
  match token with
  | .plain c => if Text.isLetter c then .unknownFlag else otherwise
  | .escaped _ => otherwise

/-- Letters that turn options on; returns the character that ends them. -/
def flagsOn : Nat → Char → Flags → Source → Except Error (Flags × Char × Source)
  | 0, _, _, s => s.fail .flagListOpen 0
  | fuel + 1, letter, on, s =>
    match flagOf? letter with
    | none => s.fail .localeFlag 0
    | some flag => do
      let on := on.union flag
      if (flag.ascii || flag.unicode) && on.ascii && on.unicode then s.fail .alphabetsExclude 0
      else
        let (token, s) ← s.next
        match token with
        | none => s.fail .flagListOpen 0
        | some (.plain c) =>
          if c = ')' ∨ c = '-' ∨ c = ':' then return (on, c, s)
          else if isFlagLetter c then flagsOn fuel c on s
          else s.fail (flagFault (.plain c) .flagListOpen) 1
        | some token => s.fail (flagFault token .flagListOpen) token.text.length

/-- Letters that turn options off, up to the colon. -/
def flagsOff : Nat → Char → Flags → Source → Except Error (Flags × Source)
  | 0, _, _, s => s.fail .missingColon 0
  | fuel + 1, letter, off, s =>
    match flagOf? letter with
    | none => s.fail .alphabetOff 0
    | some flag =>
      if flag.ascii || flag.unicode then s.fail .alphabetOff 0
      else do
        let off := off.union flag
        let (token, s) ← s.next
        match token with
        | none => s.fail .missingColon 0
        | some (.plain c) =>
          if c = ':' then return (off, s)
          else if isFlagLetter c then flagsOff fuel c off s
          else s.fail (flagFault (.plain c) .missingColon) 1
        | some token => s.fail (flagFault token .missingColon) token.text.length

inductive Opening
  | nothing
  | item (node : Node)
  | globalFlags
  | look (behind negated : Bool)
  | condition (index : Nat)
  | capture (name : Option (List Char))
  | plain (on off : Flags)
  | atomic
deriving Repr

/-- Options written after a question mark, beginning with the given character. -/
def parseFlags (first : Char) (r : Reader) : Except Error (Opening × Reader) := do
  let fuel := r.source.rest.length + 1
  let (on, close, s) ←
    if first = '-' then pure ({}, '-', r.source) else flagsOn fuel first {} r.source
  if close = ')' then
    return (.globalFlags, { r with source := s, flags := r.flags.union on })
  else if on.noRepeat then s.fail .globalFlagOn 1
  else if close = ':' then return (.plain on {}, { r with source := s })
  else
    let (token, s) ← s.next
    match token with
    | none => s.fail .missingFlag 0
    | some (.plain c) =>
      if isFlagLetter c then
        let (off, s) ← flagsOff fuel c {} s
        if off.noRepeat then s.fail .globalFlagOff 1
        else if on.meets off then s.fail .flagOnAndOff 1
        else return (.plain on off, { r with source := s })
      else s.fail (flagFault (.plain c) .missingFlag) 1
    | some token => s.fail (flagFault token .missingFlag) token.text.length

def checkName (cs : List Char) (s : Source) : Except Error Unit :=
  if isIdentifier cs then return else s.fail (.badGroupName (String.ofList cs)) (cs.length + 1)

/-- Group numbers from here on are refused. -/
def groupLimit : Nat := 0x7FFFFFFF

def conditionGroup (r : Reader) : Except Error (Nat × Reader) := do
  let (cs, s) ← r.source.name ')' "group name"
  let r := { r with source := s }
  let back := cs.length + 1
  if isIdentifier cs then
    match r.names.lookup (String.ofList cs) with
    | some index =>
      r.checkLookbehind index
      return (index, r)
    | none => s.fail (.unknownGroup (String.ofList cs)) back
  else
    match readInteger cs with
    | .error _ => s.fail (.badGroupName (String.ofList cs)) back
    | .ok n =>
      if n < 0 then s.fail (.badGroupName (String.ofList cs)) back
      else if n = 0 then s.fail .badGroupNumber back
      else
        let index := n.toNat
        if groupLimit ≤ index then s.fail (.invalidGroup index) back
        else
          let r := if (r.asked.lookup index).isSome then r
            else { r with asked := r.asked ++ [(index, s.pos - back)] }
          r.checkLookbehind index
          return (index, r)

/-- A reference to a group by name, from the character after the equals sign on. -/
def namedReference (r : Reader) : Except Error (Node × Reader) := do
  let (cs, s) ← r.source.name ')' "group name"
  let r := { r with source := s }
  checkName cs s
  match r.names.lookup (String.ofList cs) with
  | none => s.fail (.unknownGroup (String.ofList cs)) (cs.length + 1)
  | some index =>
    match r.closedWidth? index with
    | none => s.fail .openGroup (cs.length + 1)
    | some width =>
      r.checkLookbehind index
      return (.backref index width, r)

/-- A name or a reference by name, from the character after the letter on. -/
def namedOpening (r : Reader) : Except Error (Opening × Reader) := do
  let (named, s) ← r.source.accept '<'
  if named then
    let (cs, s) ← s.name '>' "group name"
    checkName cs s
    return (.capture (some cs), { r with source := s })
  else
    let (reference, s) ← s.accept '='
    if reference then
      let (node, r) ← namedReference { r with source := s }
      return (.item node, r)
    else
      let (token, s) ← s.next
      match token with
      | none => s.fail .unexpectedEnd 0
      | some token =>
        s.fail (.unknownExtension (String.ofList ('P' :: token.text))) (token.text.length + 2)

/-- Reads what follows an opening parenthesis at `start`, up to the contents of the group. -/
def parseOpening (start : Nat) (r : Reader) : Except Error (Opening × Reader) := do
  let (extended, s) ← r.source.accept '?'
  if !extended then return (.capture none, r)
  else
    let (token, s) ← s.next
    let r := { r with source := s }
    match token with
    | none => s.fail .unexpectedEnd 0
    | some (.plain 'P') => namedOpening r
    | some (.plain ':') => return (.plain {} {}, r)
    | some (.plain '#') => return (.nothing, { r with source := ← s.skipComment start })
    | some (.plain '=') => return (.look false false, r)
    | some (.plain '!') => return (.look false true, r)
    | some (.plain '<') =>
      let (token, s) ← s.next
      match token with
      | none => s.fail .unexpectedEnd 0
      | some (.plain '=') => return (.look true false, { r with source := s })
      | some (.plain '!') => return (.look true true, { r with source := s })
      | some token =>
        s.fail (.unknownExtension (String.ofList ('<' :: token.text))) (token.text.length + 2)
    | some (.plain '(') =>
      let (index, r) ← conditionGroup r
      return (.condition index, r)
    | some (.plain '>') => return (.atomic, r)
    | some token =>
      match token with
      | .plain c =>
        if isFlagLetter c || c == '-' then parseFlags c r
        else s.fail (.unknownExtension (String.ofList token.text)) (token.text.length + 1)
      | _ => s.fail (.unknownExtension (String.ofList token.text)) (token.text.length + 1)

end HeaderRules.Regex

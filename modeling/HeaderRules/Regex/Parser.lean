import HeaderRules.Regex.Parser.Bracket
import HeaderRules.Regex.Parser.Opening
import HeaderRules.Regex.Parser.Repeat
/-!
# Reading pattern texts

An expression is a list of alternatives, each of them a sequence of items, and a group holds an
expression again.
-/

namespace HeaderRules.Regex

/-- Spaces that the verbose option lets a pattern hold for the eye only. -/
def isLayout (c : Char) : Bool :=
  c == ' ' || c == '\t' || c == '\n' || c == '\r' || c == '\x0b' || c == '\x0c'

def closeParenthesis (start : Nat) (r : Reader) : Except Error Reader := do
  let (closed, s) ← r.source.accept ')'
  if closed then return { r with source := s } else .error (.fault .unterminatedGroup start)

/-- A character that stands for itself, an anchor, a dot or a set, from a single character that
has been taken and is no operator. -/
def simpleItem (c : Char) (r : Reader) : Except Error (Node × Reader) :=
  match c with
  | '[' => do
    let (node, s) ← parseSet r.source
    return (node, { r with source := s })
  | '.' => return (.any, r)
  | '^' => return (.anchor .lineStart, r)
  | '$' => return (.anchor .lineEnd, r)
  | c => return (.one c.toNat, r)

mutual

/-- Alternatives between bars, up to a closing parenthesis or the end. -/
def parseAlternatives : Nat → (verbose nested first : Bool) → Reader → Except Error (Node × Reader)
  | 0, _, _, _, r => r.source.fail .unexpectedEnd 0
  | fuel + 1, verbose, nested, first, r => do
    let (node, r) ← parseItems fuel verbose first [] r
    let (bar, s) ← r.source.accept '|'
    if bar then
      let verbose := if nested then verbose else r.flags.verbose
      let (others, r) ← parseAlternatives fuel verbose nested false { r with source := s }
      return (.alt node others, r)
    else return (node, r)

/-- Items one after the other, up to a bar, a closing parenthesis or the end. The items read so
far come last first. -/
def parseItems :
    Nat → (verbose first : Bool) → List Node → Reader → Except Error (Node × Reader)
  | 0, _, _, _, r => r.source.fail .unexpectedEnd 0
  | fuel + 1, verbose, first, items, r =>
    match r.source.peek with
    | none | some (.plain '|') | some (.plain ')') => return (Node.ofList items.reverse, r)
    | some token => do
      let s ← r.source.skip
      let start := s.pos - 1
      let r := { r with source := s }
      match token with
      | .escaped c =>
        let (node, r) ← itemEscape c r
        parseItems fuel verbose first (node :: items) r
      | .plain c =>
        if verbose && isLayout c then parseItems fuel verbose first items r
        else if verbose && c == '#' then
          parseItems fuel verbose first items { r with source := ← s.skipLine }
        else
          match c with
          | '?' => do
            let (items, s) ← repeatLast start ⟨0, some 1⟩ items s
            parseItems fuel verbose first items { r with source := s }
          | '*' => do
            let (items, s) ← repeatLast start ⟨0, none⟩ items s
            parseItems fuel verbose first items { r with source := s }
          | '+' => do
            let (items, s) ← repeatLast start ⟨1, none⟩ items s
            parseItems fuel verbose first items { r with source := s }
          | '\x7b' => do
            match ← parseBounds s with
            | none => parseItems fuel verbose first (.one c.toNat :: items) r
            | some (bounds, t) =>
              let (items, t) ← repeatLast start bounds items t
              parseItems fuel verbose first items { r with source := t }
          | '(' => do
            let (opening, r) ← parseOpening start r
            match opening with
            | .nothing => parseItems fuel verbose first items r
            | .item node => parseItems fuel verbose first (node :: items) r
            | .globalFlags =>
              if !first || !items.isEmpty then .error (.fault .flagsNotAtStart start)
              else parseItems fuel r.flags.verbose first items r
            | opening =>
              let (node, r) ← parseGroup fuel verbose start opening r
              parseItems fuel verbose first (node :: items) r
          | c => do
            let (node, r) ← simpleItem c r
            parseItems fuel verbose first (node :: items) r

def parseGroup :
    Nat → (verbose : Bool) → (start : Nat) → Opening → Reader → Except Error (Node × Reader)
  | 0, _, _, _, r => r.source.fail .unexpectedEnd 0
  | fuel + 1, verbose, start, opening, r =>
    match opening with
    | .look behind negated => do
      let outer := r.lookbehindFrom
      let r := if behind && outer.isNone then { r with lookbehindFrom := some r.groups } else r
      let (body, r) ← parseAlternatives fuel verbose true false r
      let r := if behind then { r with lookbehindFrom := outer } else r
      return (.look behind negated body, ← closeParenthesis start r)
    | .condition index => do
      let (yes, r) ← parseItems fuel verbose false [] r
      let (bar, s) ← r.source.accept '|'
      let r := { r with source := s }
      let (no, r) ← if bar then parseItems fuel verbose false [] r else pure (.empty, r)
      if bar && r.source.starts '|' then r.source.fail .tooManyBranches 0
      else return (.condition index yes no, ← closeParenthesis start r)
    | .atomic => do
      let (body, r) ← parseAlternatives fuel verbose true false r
      return (.atomic body, ← closeParenthesis start r)
    | .plain on off => do
      let (body, r) ←
        parseAlternatives fuel ((verbose || on.verbose) && !off.verbose) true false r
      return (.options on off body, ← closeParenthesis start r)
    | .capture name => do
      let (index, r) ← r.openGroup name
      let (body, r) ← parseAlternatives fuel verbose true false r
      let r ← closeParenthesis start r
      return (.group index body, r.closeGroup index body.width)
    | .nothing | .item _ | .globalFlags => return (.empty, r)

end

/-- An expression with the options that hold for all of it. -/
structure Pattern where
  flags : Flags
  node : Node
deriving Repr

def parse (text : List Char) (given : Flags := {}) : Except Error Pattern := do
  let source ← Source.at? 0 text
  let (node, r) ←
    parseAlternatives (3 * text.length + 3) given.verbose false true { source, flags := given }
  if r.flags.ascii && r.flags.unicode then .error .alphabetConflict
  else if r.source.peek.isSome then r.source.fail .unbalancedParenthesis 0
  else
    match r.asked.find? fun (index, _) => r.groups ≤ index with
    | some (index, pos) => .error (.fault (.invalidGroup index) pos)
    | none => return ⟨r.flags, node⟩

end HeaderRules.Regex

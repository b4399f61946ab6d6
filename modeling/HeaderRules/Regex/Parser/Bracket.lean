import HeaderRules.Regex.Parser.Escape
/-!
# Bracketed sets

A set lists characters, ranges and classes between brackets; a caret in front turns it around.
-/

namespace HeaderRules.Regex

def addItem (items : List SetItem) (item : SetItem) : List SetItem :=
  if items.contains item then items else items ++ [item]

/-- The expression for a set: one character stands for itself. -/
def setNode (negated : Bool) : List SetItem → Node
  | [.one code] => if negated then .notOne code else .one code
  | items => .set negated items

def setMember (token : Token) (s : Source) : Except Error (SetItem × Source) :=
  match token with
  | .plain c => return (.one c.toNat, s)
  | .escaped c => setEscape c s

def setLoop (start : Nat) : Nat → List SetItem → Source → Except Error (List SetItem × Source)
  | 0, _, _ => .error (.fault .unterminatedSet start)
  | fuel + 1, items, s => do
    let (token, s) ← s.next
    match token with
    | none => .error (.fault .unterminatedSet start)
    | some this =>
      if this = .plain ']' ∧ items ≠ [] then return (items, s)
      else
        let (item, s) ← setMember this s
        let (dash, s) ← s.accept '-'
        if !dash then setLoop start fuel (addItem items item) s
        else
          let (token, s) ← s.next
          match token with
          | none => .error (.fault .unterminatedSet start)
          | some that =>
            if that = .plain ']' then return (addItem (addItem items item) (.one '-'.toNat), s)
            else
              let (last, s) ← setMember that s
              let refuse : Except Error (List SetItem × Source) :=
                s.fail (.badRange (String.ofList (this.text ++ '-' :: that.text)))
                  (this.text.length + 1 + that.text.length)
              match item, last with
              | .one lo, .one hi =>
                if hi < lo then refuse else setLoop start fuel (addItem items (.range lo hi)) s
              | _, _ => refuse

/-- A bracketed set, from the character after its bracket on. -/
def parseSet (s : Source) : Except Error (Node × Source) := do
  let start := s.pos - 1
  let (negated, s) ← s.accept '^'
  let (items, s) ← setLoop start (s.rest.length + 1) [] s
  return (setNode negated items, s)

end HeaderRules.Regex

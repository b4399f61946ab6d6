import HeaderRules.Rule.Basic
/-!
# Distinct rule ids

Of the rules with one id only the first is kept. Ids are compared as keys are, so that `1` and
`true` are one id, and lists and mappings are none.
-/

namespace HeaderRules

inductive IdFault
  | notAKey (id : Value)
  | unordered (first second : Scalar)
deriving Repr

def IdFault.message : IdFault → String
  | notAKey id => "unhashable type: '" ++ id.typeName ++ "'"
  | unordered a b =>
    "'<' not supported between instances of '" ++ a.typeName ++ "' and '" ++ b.typeName ++ "'"

def Value.idKey : Value → Except IdFault Scalar
  | .scalar s => .ok s
  | v => .error (.notAKey v)

namespace Scalar

/-- The number that a scalar stands for in comparisons; truth values are zero and one. -/
def number? : Scalar → Option Number.Binary64
  | bool b => some (.finite false (if b then 1 else 0) 0)
  | int n => some (.finite (n < 0) n.natAbs 0)
  | float x => some x
  | _ => none

def raw? : Scalar → Option RawText
  | text s => some s
  | ragged t => some t
  | _ => none

/-- Whether one scalar comes before another. Only numbers among themselves and texts among
themselves have an order. -/
def before? (a b : Scalar) : Option Bool :=
  match a.number?, b.number? with
  | some x, some y => some (x.less y)
  | _, _ => match a.raw?, b.raw? with
    | some s, some t => some (s.before t)
    | _, _ => none

end Scalar

namespace Rule

/-- A list of rules split into those that are kept and the ids of those that are not. -/
structure Sifted where
  kept : List Rule
  skipped : List Value
deriving Repr

/-- Keeps the rules whose id is neither in `seen` nor the id of an earlier rule. -/
def siftAfter (seen : List Scalar) : List Rule → Except IdFault Sifted
  | [] => .ok ⟨[], []⟩
  | rule :: rest => do
    let key ← rule.id.idKey
    if seen.any key.sameKey then
      let sifted ← siftAfter seen rest
      return { sifted with skipped := rule.id :: sifted.skipped }
    else
      let sifted ← siftAfter (key :: seen) rest
      return { sifted with kept := rule :: sifted.kept }

def sift (rules : List Rule) : Except IdFault Sifted := siftAfter [] rules

/-- Each key as first written, with the number of times that it is there. -/
def tally : List Scalar → List (Scalar × Nat)
  | [] => []
  | key :: rest =>
    (key, 1 + rest.countP key.sameKey) :: (tally rest).filter fun entry => !key.sameKey entry.1

def unorderedPair? : List Scalar → Option (Scalar × Scalar)
  | [] => none
  | a :: rest =>
    match rest.find? fun b => (a.before? b).isNone with
    | some b => some (b, a)
    | none => unorderedPair? rest

/-- Sorts keys in ascending order, if every two of them have one. -/
def sortKeys (keys : List Scalar) : Except IdFault (List Scalar) :=
  match unorderedPair? keys with
  | some (a, b) => .error (.unordered a b)
  | none => .ok (keys.mergeSort fun a b => b.before? a != some true)

/-- The ids that more than one rule has, in ascending order. -/
def repeatedIds (rules : List Rule) : Except IdFault (List Scalar) := do
  let keys ← rules.mapM (·.id.idKey)
  sortKeys (((tally keys).filter (1 < ·.2)).map (·.1))

def repeatedMessage (ids : List Scalar) : String :=
  "Duplicate rule IDs detected: " ++ String.intercalate ", " (ids.map Scalar.toText)

end Rule

end HeaderRules

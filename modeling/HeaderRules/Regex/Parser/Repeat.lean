import HeaderRules.Regex.Parser.Escape
/-!
# Repetition

How often an item may be matched: the bounds between braces, and the repetition put onto the item
before it.
-/

namespace HeaderRules.Regex

open HeaderRules.Text (ofDigits)
open HeaderRules.Number (maxDigits)

structure Bounds where
  least : Nat
  greatest : Option Nat
deriving DecidableEq, Repr

/-- Repetition counts from here on are refused. -/
def repeatLimit : Nat := 0xFFFFFFFF

/-- A count as written; an absent count is `none`. -/
def readCount (digits : List Char) : Except Error (Option Nat) :=
  if digits = [] then return none
  else if maxDigits < digits.length then .error (.longNumber digits.length)
  else
    let n := ofDigits 10 digits
    if repeatLimit ≤ n then .error .hugeRepeat else return some n

/-- The bounds between braces, from the character after the opening brace on; `none` if this is
no repetition but a brace that stands for itself. -/
def parseBounds (s : Source) : Except Error (Option (Bounds × Source)) := do
  let fuel := s.rest.length
  if s.starts '\x7d' then return none
  let (lo, t) ← s.takeWhile isDecimal fuel
  let (comma, t) ← t.accept ','
  let (hi, t) ← if comma then t.takeWhile isDecimal fuel else pure (lo, t)
  let (closed, t) ← t.accept '\x7d'
  if !closed then return none
  let least := (← readCount lo).getD 0
  let greatest ← readCount hi
  match greatest with
  | some n => if n < least then .error (.fault .repeatBoundsSwapped s.pos)
  | none => pure ()
  return some (⟨least, greatest⟩, t)

/-- Puts a repetition onto the last item. `start` is where the repetition is written. -/
def repeatLast (start : Nat) (bounds : Bounds) (items : List Node) (s : Source) :
    Except Error (List Node × Source) :=
  match items with
  | [] | .anchor _ :: _ => .error (.fault .nothingToRepeat start)
  | .repetition .. :: _ => .error (.fault .multipleRepeat start)
  | item :: before => do
    let (few, s) ← s.accept '?'
    let (keep, s) ← if few then pure (false, s) else s.accept '+'
    let greed : Greed := if few then .lazy else if keep then .possessive else .greedy
    return (.repetition greed bounds.least bounds.greatest item :: before, s)

end HeaderRules.Regex

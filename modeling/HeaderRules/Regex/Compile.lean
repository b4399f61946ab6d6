import HeaderRules.Regex.Parser
import HeaderRules.Regex.Matching
/-!
# Compiled expressions

A pattern text is read once and then matched against many texts. Look-behinds must have one fixed
width, which is checked after the text has been read.
-/

namespace HeaderRules

structure Regex where
  flags : Regex.Flags
  node : Regex.Node
deriving Repr

namespace Regex

/-- Look-behinds may reach back at most this far. -/
def maxLookbehind : Nat := 0xFFFFFFFF

/-- Refuses look-behinds of variable width, and repetitions where options forbid them. -/
def Node.check (noRepeat : Bool) : Node → Except Error Unit
  | .seq a b | .alt a b | .condition _ a b => do
    a.check noRepeat
    b.check noRepeat
  | .group _ body | .options _ _ body | .atomic body => body.check noRepeat
  | .repetition greed _ _ body =>
    if noRepeat then .error (.repeatForbidden greed) else body.check noRepeat
  | .look behind _ body =>
    if behind && maxLookbehind < body.width.least then .error .lookbehindTooWide
    else if behind && body.width.least != body.width.greatest then .error .lookbehindWidth
    else body.check noRepeat
  | .empty | .one _ | .notOne _ | .any | .set .. | .anchor _ | .backref .. => .ok ()

/-- Reads and checks a pattern text. Case is ignored if the caller or the pattern asks for it. -/
def compile (text : List Char) (ignoreCase : Bool) : Except Error Regex := do
  let pattern ← parse text { ignoreCase }
  pattern.node.check pattern.flags.noRepeat
  return ⟨pattern.flags, pattern.node⟩

def matchesStart (regex : Regex) (text : List Char) : Bool :=
  regex.node.matchesAt regex.flags (Place.start text)

def matchesSomewhere (regex : Regex) (text : List Char) : Bool :=
  regex.node.search regex.flags (Place.start text)

end Regex

end HeaderRules

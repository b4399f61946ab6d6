/-!
# Regular expressions

The tree that a pattern text stands for, its options, and the range of widths that a part of it
can match.
-/

namespace HeaderRules.Regex

structure Flags where
  ignoreCase : Bool := false
  multiline : Bool := false
  dotAll : Bool := false
  verbose : Bool := false
  ascii : Bool := false
  unicode : Bool := false
  noRepeat : Bool := false
deriving DecidableEq, Repr

namespace Flags

def union (a b : Flags) : Flags where
  ignoreCase := a.ignoreCase || b.ignoreCase
  multiline := a.multiline || b.multiline
  dotAll := a.dotAll || b.dotAll
  verbose := a.verbose || b.verbose
  ascii := a.ascii || b.ascii
  unicode := a.unicode || b.unicode
  noRepeat := a.noRepeat || b.noRepeat

def diff (a b : Flags) : Flags where
  ignoreCase := a.ignoreCase && !b.ignoreCase
  multiline := a.multiline && !b.multiline
  dotAll := a.dotAll && !b.dotAll
  verbose := a.verbose && !b.verbose
  ascii := a.ascii && !b.ascii
  unicode := a.unicode && !b.unicode
  noRepeat := a.noRepeat && !b.noRepeat

def meets (a b : Flags) : Bool :=
  (a.ignoreCase && b.ignoreCase) || (a.multiline && b.multiline) || (a.dotAll && b.dotAll) ||
    (a.verbose && b.verbose) || (a.ascii && b.ascii) || (a.unicode && b.unicode) ||
    (a.noRepeat && b.noRepeat)

/-- Options inside a group that turns some on and some off. The two alphabets exclude each
other, so turning one on turns the other off. -/
def withOptions (outer on off : Flags) : Flags :=
  let base :=
    if on.ascii || on.unicode then { outer with ascii := false, unicode := false } else outer
  (base.union on).diff off

end Flags

inductive CharKind
  | digit
  | space
  | word
deriving DecidableEq, Repr

/-- A member of a bracketed set. Characters are given by code point, for a pattern can name code
points that no text holds. -/
inductive SetItem
  | one (code : Nat)
  | range (lo hi : Nat)
  | kind (kind : CharKind) (negated : Bool)
deriving DecidableEq, Repr

inductive Anchor
  | lineStart
  | lineEnd
  | textStart
  | textEnd
  | wordEdge
  | notWordEdge
deriving DecidableEq, Repr

/-- How a repetition chooses its count: as many as possible, as few as possible, or as many as
possible without ever giving one back. -/
inductive Greed
  | greedy
  | lazy
  | possessive
deriving DecidableEq, Repr

structure Width where
  least : Nat
  greatest : Nat
deriving DecidableEq, Repr

/-- Expressions. Sequences and alternatives are right-nested, `empty` ends a sequence. -/
inductive Node
  | empty
  | seq (first rest : Node)
  | alt (left right : Node)
  | one (code : Nat)
  | notOne (code : Nat)
  | any
  | set (negated : Bool) (items : List SetItem)
  | anchor (place : Anchor)
  | group (index : Nat) (body : Node)
  | options (on off : Flags) (body : Node)
  | atomic (body : Node)
  | repetition (greed : Greed) (least : Nat) (greatest : Option Nat) (body : Node)
  | backref (index : Nat) (width : Width)
  | condition (index : Nat) (yes no : Node)
  | look (behind negated : Bool) (body : Node)
deriving Repr

namespace Node

def ofList : List Node → Node
  | [] => .empty
  | node :: rest => .seq node (ofList rest)

@[simp] theorem ofList_nil : ofList [] = .empty := rfl

@[simp] theorem ofList_cons (node : Node) (rest : List Node) :
    ofList (node :: rest) = .seq node (ofList rest) := rfl

end Node

/-- Widths are counted up to this bound. -/
def maxWidth : Nat := 0x10000000000000000

namespace Width

def capped (least greatest : Nat) : Width := ⟨min least maxWidth, min greatest maxWidth⟩

def add (a b : Width) : Width := capped (a.least + b.least) (a.greatest + b.greatest)

def join (a b : Width) : Width := ⟨min a.least b.least, max a.greatest b.greatest⟩

/-- The width of a repeated part; without an upper count it is unbounded unless each round is
empty. -/
def times (w : Width) (least : Nat) : Option Nat → Width
  | some greatest => capped (least * w.least) (greatest * w.greatest)
  | none => capped (least * w.least) (if w.greatest = 0 then 0 else maxWidth)

end Width

/-- The range of widths of the texts that an expression matches, as far as its shape tells. -/
def Node.width : Node → Width
  | .empty | .anchor _ | .look .. => ⟨0, 0⟩
  | .one _ | .notOne _ | .any | .set .. => ⟨1, 1⟩
  | .seq a b => a.width.add b.width
  | .alt a b | .condition _ a b => a.width.join b.width
  | .group _ body | .options _ _ body | .atomic body => body.width
  | .repetition _ least greatest body => body.width.times least greatest
  | .backref _ w => w

end HeaderRules.Regex

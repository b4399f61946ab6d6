import HeaderRules.Regex.CharSet
/-!
# Matching

Matching walks the expression from left to right and tries its choices in order. What remains to be
matched is a function on the place reached, so a choice is taken back by trying the next one.
-/

namespace HeaderRules.Regex

open HeaderRules.Text

/-- A place in a text: the characters before it, last first, the characters after it and how many
there are, and the texts that groups have matched so far. -/
structure Place where
  before : List Char
  rest : List Char
  ahead : Nat
  groups : List (Nat × List Char)
  ahead_eq : ahead = rest.length
deriving DecidableEq, Repr

namespace Place

/-- A place between two parts of a text, before any group has matched. -/
def between (before rest : List Char) (ahead : Nat) (h : ahead = rest.length) : Place :=
  ⟨before, rest, ahead, [], h⟩

def start (text : List Char) : Place := between [] text text.length rfl

def step? (test : Char → Bool) : Place → Option Place
  | ⟨_, [], _, _, _⟩ => none
  | ⟨before, c :: rest, ahead, groups, h⟩ =>
    if test c then some ⟨c :: before, rest, ahead - 1, groups, by simp [h]⟩ else none

def back? (p : Place) (count : Nat) : Option Place :=
  let passed := p.before.take count
  if h : passed.length = count then
    some ⟨p.before.drop count, passed.reverse ++ p.rest, count + p.ahead, p.groups,
      by simp [h, p.ahead_eq]⟩
  else none

def textTo (p q : Place) : List Char := p.rest.take (p.ahead - q.ahead)

def record (p : Place) (index : Nat) (text : List Char) : Place :=
  { p with groups := (index, text) :: p.groups }

def skip? (same : Char → Char → Bool) : List Char → Place → Option Place
  | [], p => some p
  | c :: text, p => (p.step? (same c)).bind (skip? same text)

end Place

/-- A matcher takes a place and what is to be matched after it. -/
abbrev Matcher := Place → (Place → Option Place) → Option Place

namespace Matcher

/-- The first match of a part on its own, which is not taken back later. -/
def once (body : Matcher) (p : Place) : Option Place := body p some

def required (body : Matcher) : Nat → Matcher
  | 0 => fun p k => k p
  | n + 1 => fun p k => body p fun q => required body n q k

/-- Further rounds, as many as possible first. A round that consumes nothing is the last one, so
there are at most as many rounds as characters ahead, and one more. -/
def greedy (body : Matcher) : (rounds : Nat) → (left : Option Nat) → Matcher
  | 0, _ => fun p k => k p
  | rounds + 1, left => fun p k =>
    if left = some 0 then k p
    else
      (body p fun q =>
        if q.ahead < p.ahead then greedy body rounds (left.map (· - 1)) q k else k q) <|> k p

/-- Further rounds, as few as possible first. A round that consumes nothing is the last one. -/
def lazy (body : Matcher) : (rounds : Nat) → (left : Option Nat) → Matcher
  | 0, _ => fun p k => k p
  | rounds + 1, left => fun p k =>
    k p <|>
      if left = some 0 then none
      else body p fun q =>
        if q.ahead < p.ahead then lazy body rounds (left.map (· - 1)) q k else k q

/-- The place after as many rounds as possible, none of which is taken back. -/
def possessive (body : Matcher) : (rounds : Nat) → (left : Option Nat) → Place → Place
  | 0, _, p => p
  | rounds + 1, left, p =>
    if left = some 0 then p
    else
      match body.once p with
      | none => p
      | some q =>
        if q.ahead < p.ahead then possessive body rounds (left.map (· - 1)) q else q

def repetition (greed : Greed) (least : Nat) (greatest : Option Nat) (body : Matcher) : Matcher :=
  let left := greatest.map (· - least)
  match greed with
  | .greedy => fun p k => required body least p fun q => greedy body (q.ahead + 1) left q k
  | .lazy => fun p k => required body least p fun q => lazy body (q.ahead + 1) left q k
  | .possessive => fun p k =>
    match required (fun p k => (body.once p).bind k) least p some with
    | none => none
    | some q => k (possessive body (q.ahead + 1) left q)

end Matcher

/-- Whether a place is at an edge of words: exactly one of its neighbours is a word character. -/
def atWordEdge (ascii : Bool) (p : Place) : Bool :=
  let isWord : Option Char → Bool
    | none => false
    | some c => CharKind.word.holds ascii c.toNat
  isWord p.before.head? != isWord p.rest.head?

/-- Whether an anchor holds at a place. Word edges are not looked for in an empty text. -/
def Anchor.holds (flags : Flags) (p : Place) : Anchor → Bool
  | .lineStart => p.before.isEmpty || (flags.multiline && p.before.head? == some '\n')
  | .lineEnd => p.rest.isEmpty || p.rest == ['\n'] || (flags.multiline && p.rest.head? == some '\n')
  | .textStart => p.before.isEmpty
  | .textEnd => p.rest.isEmpty
  | .wordEdge => !(p.before.isEmpty && p.rest.isEmpty) && atWordEdge flags.ascii p
  | .notWordEdge => !(p.before.isEmpty && p.rest.isEmpty) && !atWordEdge flags.ascii p

def Node.run : Node → Flags → Matcher
  | .empty, _ => fun p k => k p
  | .seq a b, flags => fun p k => a.run flags p fun q => b.run flags q k
  | .alt a b, flags => fun p k => a.run flags p k <|> b.run flags p k
  | .one code, flags => fun p k =>
    (p.step? fun c => flags.folding.agrees code c.toNat).bind k
  | .notOne code, flags => fun p k =>
    (p.step? fun c => !flags.folding.agrees code c.toNat).bind k
  | .any, flags => fun p k => (p.step? fun c => flags.dotAll || c != '\n').bind k
  | .set negated items, flags => fun p k => (p.step? (setHolds flags negated items)).bind k
  | .anchor place, flags => fun p k => if place.holds flags p then k p else none
  | .group index body, flags => fun p k =>
    body.run flags p fun q => k (q.record index (p.textTo q))
  | .options on off body, flags => body.run (flags.withOptions on off)
  | .atomic body, flags => fun p k => ((body.run flags).once p).bind k
  | .repetition greed least greatest body, flags =>
    Matcher.repetition greed least greatest (body.run flags)
  | .backref index _, flags => fun p k =>
    match p.groups.lookup index with
    | none => none
    | some text =>
      let fold (c : Char) : Nat := flags.folding.fold c.toNat
      (p.skip? (fun c d => fold c == fold d) text).bind k
  | .condition index yes no, flags => fun p k =>
    if (p.groups.lookup index).isSome then yes.run flags p k else no.run flags p k
  | .look behind negated body, flags => fun p k =>
    let from? := if behind then p.back? body.width.least else some p
    match from?.bind (body.run flags).once with
    | some q => if negated then none else k { p with groups := q.groups }
    | none => if negated then k p else none

def Node.matchesAt (node : Node) (flags : Flags) (p : Place) : Bool :=
  (node.run flags p some).isSome

/-- Whether an expression matches from some place on, given the characters before the first one to
try and the number of those after it. -/
def Node.searchFrom (node : Node) (flags : Flags) (before : List Char) :
    (rest : List Char) → (ahead : Nat) → ahead = rest.length → Bool
  | [], ahead, h => node.matchesAt flags (.between before [] ahead h)
  | c :: rest, ahead, h =>
    node.matchesAt flags (.between before (c :: rest) ahead h) ||
      node.searchFrom flags (c :: before) rest (ahead - 1) (by simp [h])

def Node.search (node : Node) (flags : Flags) (p : Place) : Bool :=
  node.searchFrom flags p.before p.rest p.ahead p.ahead_eq

end HeaderRules.Regex

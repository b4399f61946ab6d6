import HeaderRules.Regex.Error
/-!
# Pattern texts in tokens

A pattern is read in tokens: a single character, or a backslash with the character after it. The
source looks one token ahead, so a backslash at the very end is noticed as soon as the token before
it is taken.
-/

namespace HeaderRules.Regex

/-- A character of a pattern, alone or after a backslash. -/
inductive Token
  | plain (c : Char)
  | escaped (c : Char)
deriving DecidableEq, Repr

def Token.text : Token → List Char
  | .plain c => [c]
  | .escaped c => ['\\', c]

/-- What is left of a pattern, and the offset at which it begins. -/
structure Source where
  pos : Nat
  rest : List Char
deriving Repr

namespace Source

/-- The source at an offset; a backslash with nothing after it is refused. -/
def at? (pos : Nat) (rest : List Char) : Except Error Source :=
  if rest = ['\\'] then .error (.fault .danglingBackslash pos) else .ok ⟨pos, rest⟩

def peek (s : Source) : Option Token :=
  match s.rest with
  | [] => none
  | '\\' :: c :: _ => some (.escaped c)
  | c :: _ => some (.plain c)

def starts (s : Source) (c : Char) : Bool := s.peek == some (.plain c)

def skip (s : Source) : Except Error Source :=
  match s.rest with
  | [] => .ok s
  | '\\' :: _ :: rest => at? (s.pos + 2) rest
  | _ :: rest => at? (s.pos + 1) rest

def next (s : Source) : Except Error (Option Token × Source) := do
  let t ← s.skip
  return (s.peek, t)

/-- A refusal noticed `back` characters before the next token. -/
def fail (s : Source) (fault : Fault) (back : Nat) : Except Error α :=
  .error (.fault fault (s.pos - back))

def accept (s : Source) (c : Char) : Except Error (Bool × Source) :=
  if s.starts c then do return (true, ← s.skip) else return (false, s)

def takeWhile (p : Char → Bool) : Nat → Source → Except Error (List Char × Source)
  | 0, s => return ([], s)
  | count + 1, s =>
    match s.peek with
    | some (.plain c) =>
      if p c then do
        let (cs, t) ← takeWhile p count (← s.skip)
        return (c :: cs, t)
      else return ([], s)
    | _ => return ([], s)

def nameLoop (close : Char) (what : String) :
    Nat → List Char → Source → Except Error (List Char × Source)
  | 0, _, s => s.fail (.missingName what) 0
  | fuel + 1, name, s => do
    let (token, t) ← s.next
    match token with
    | none =>
      if name.isEmpty then t.fail (.missingName what) 0
      else t.fail (.unterminatedName close) name.length
    | some token =>
      if token = .plain close then
        if name.isEmpty then t.fail (.missingName what) 1 else return (name, t)
      else nameLoop close what fuel (name ++ token.text) t

def name (close : Char) (what : String) (s : Source) : Except Error (List Char × Source) :=
  nameLoop close what (s.rest.length + 1) [] s

/-- The source after the current line, by at most some number of tokens. -/
def lineLoop : Nat → Source → Except Error Source
  | 0, s => return s
  | fuel + 1, s => do
    let (token, t) ← s.next
    if token = none ∨ token = some (.plain '\n') then return t else lineLoop fuel t

def skipLine (s : Source) : Except Error Source := lineLoop (s.rest.length + 1) s

def commentLoop (start : Nat) : Nat → Source → Except Error Source
  | 0, _ => .error (.fault .unterminatedComment start)
  | fuel + 1, s =>
    match s.peek with
    | none => .error (.fault .unterminatedComment start)
    | some token => do
      let t ← s.skip
      if token = .plain ')' then return t else commentLoop start fuel t

def skipComment (start : Nat) (s : Source) : Except Error Source :=
  commentLoop start (s.rest.length + 1) s

end Source

end HeaderRules.Regex

import HeaderRules.Regex.Compile
import HeaderRules.Regex.Escape
import HeaderRules.Value
/-!
# URL patterns

Patterns as people write them, in one of three formats: a regular expression after the mark
`regex:`, a wildcard pattern in which `*` stands for any run of characters, and plain text that is
looked for anywhere in the URL. Letter case never counts.
-/

namespace HeaderRules.Url

inductive Format
  | simple
  | wildcard
  | regex
deriving DecidableEq, Repr

namespace Format

def name : Format → String
  | simple => "simple"
  | wildcard => "wildcard"
  | regex => "regex"

def ofName? (s : String) : Option Format := [simple, wildcard, regex].find? (·.name == s)

def ofValue? : Value → Option Format
  | .text s => ofName? s
  | _ => none

def unknownMessage (v : Value) : String := v.nested ++ " is not a valid MatcherFormat"

def label : Format → String
  | simple => "Simple"
  | wildcard => "Wildcard"
  | regex => "Regex"

def help : Format → String
  | simple => "Match by domain or host. Example: localhost:3002"
  | wildcard => "Use * as wildcard. Example: localhost:3002/* or *.api.example.com"
  | regex => "Full regex pattern. Example: regex:localhost:30(0[0-9])"

end Format

def regexMark : List Char := "regex:".toList

def formatOf (pattern : List Char) : Format :=
  if regexMark.isPrefixOf pattern then .regex
  else if pattern.contains '*' then .wildcard
  else .simple

/-- Characters that only a regular expression may hold. -/
def reservedChars : List Char := ['[', ']', '\x7b', '\x7d', '(', ')']

inductive Flaw
  | empty
  | reservedCharacter
  | regex (error : Regex.Error)
deriving DecidableEq, Repr

def Flaw.message (pattern : List Char) : Flaw → String
  | empty => "Pattern cannot be empty."
  | reservedCharacter => "Invalid characters. Use 'regex:' prefix for complex patterns."
  | regex e => "Invalid regex: " ++ e.message (pattern.drop regexMark.length)

/-- Looks for a flaw. A regular expression that exceeds a limit is an error of its own. -/
def validate (pattern : List Char) : Except Regex.Error (Option Flaw) :=
  if pattern = [] then .ok (some .empty)
  else
    match formatOf pattern with
    | .regex =>
      match Regex.compile (pattern.drop regexMark.length) false with
      | .ok _ => .ok none
      | .error e => if e.isInvalidPattern then .ok (some (.regex e)) else .error e
    | .simple | .wildcard =>
      if pattern.any reservedChars.contains then .ok (some .reservedCharacter) else .ok none

/-- A bar at the beginning of a wildcard pattern, and the pattern without it. -/
def splitLeadingBar : List Char → Bool × List Char
  | '|' :: rest => (true, rest)
  | s => (false, s)

def splitTrailingBar (s : List Char) : Bool × List Char :=
  if s.getLast? = some '|' then (true, s.dropLast) else (false, s)

def wildcardChar (c : Char) : List Char := if c = '*' then ['.', '*'] else Regex.escapeChar c

/-- The regular expression of a wildcard pattern. Both ends are anchored; a bar at either end asks
for the anchor once more. -/
def wildcardRegex (pattern : List Char) : List Char :=
  let (leading, rest) := splitLeadingBar pattern
  let (trailing, body) := splitTrailingBar rest
  '^' :: (if leading then ['^'] else []) ++ body.flatMap wildcardChar ++
    (if trailing then ['$'] else []) ++ ['$']

def occursIn (needle : List Char) : List Char → Bool
  | [] => needle.isEmpty
  | c :: rest => needle.isPrefixOf (c :: rest) || occursIn needle rest

/-- The outcome of matching a URL: whether it matches, and in which format the pattern was read. -/
structure Match where
  found : Bool
  format : Format
deriving DecidableEq, Repr

/-- The answer of a test of a compiled expression; one that cannot be read finds nothing. -/
def foundBy (compiled : Except Regex.Error Regex) (test : Regex → Bool) :
    Except Regex.Error Bool :=
  match compiled with
  | .ok regex => .ok (test regex)
  | .error e => if e.isInvalidPattern then .ok false else .error e

/-- Matches a URL against a pattern. A regular expression that cannot be read matches nothing; one
that exceeds a limit is an error. -/
def matchUrl (pattern url : List Char) : Except Regex.Error Match := do
  let format := formatOf pattern
  let found ←
    match format with
    | .simple => pure (occursIn (Text.lower pattern) (Text.lower url))
    | .wildcard => foundBy (Regex.compile (wildcardRegex pattern) true) (·.matchesStart url)
    | .regex =>
      foundBy (Regex.compile (pattern.drop regexMark.length) true) (·.matchesSomewhere url)
  return ⟨found, format⟩

def evaluate (pattern url : List Char) : Except Regex.Error Bool := do
  return (← matchUrl pattern url).found

/-- URLs that show what a pattern is for. -/
def exampleUrls (pattern : String) : List String :=
  match formatOf pattern.toList with
  | .simple =>
    [pattern, pattern ++ "/api", pattern ++ "/api/users", pattern ++ "/admin"].filter (· ≠ "")
  | .wildcard =>
    let base := String.ofList
      (pattern.toList.flatMap fun c => if c = '*' then "example".toList else [c])
    [base, base ++ "/api", base ++ "/users"]
  | .regex => [pattern]

end HeaderRules.Url

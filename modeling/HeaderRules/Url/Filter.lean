import HeaderRules.Regex.Compile
import HeaderRules.Regex.Escape
/-!
# URL filters

The filters by which installed rules choose URLs. `*` is any run of characters, `^` is a separator
or the end, a bar at either end anchors the filter there, and two bars at the beginning anchor it
at the host or at a subdomain of it. Without anchors a filter matches anywhere. Letter case never
counts.
-/

namespace HeaderRules.Url

inductive FilterStart
  | anywhere
  | urlStart
  | domain
deriving DecidableEq, Repr

/-- A filter taken apart into its anchors and what stands between them. -/
structure Filter where
  start : FilterStart
  body : List Char
  atEnd : Bool
deriving DecidableEq, Repr

namespace Filter

def withEnd (start : FilterStart) (s : List Char) : Filter :=
  if s.getLast? = some '|' then ⟨start, s.dropLast, true⟩ else ⟨start, s, false⟩

/-- Reads a filter: bars at the beginning first, then a bar at the end of what remains. -/
def ofText : List Char → Filter
  | '|' :: '|' :: rest => withEnd .domain rest
  | '|' :: rest => withEnd .urlStart rest
  | s => withEnd .anywhere s

def separatorRegex : List Char := "(?:[^A-Za-z0-9_\\-.%]|$)".toList

/-- The regular expression of a scheme and of the subdomains before the filtered host. -/
def domainRegex : List Char := "^[a-z][a-z0-9+.\\-]*://(?:[^/?#]*\\.)?".toList

def startRegex : FilterStart → List Char
  | .anywhere => []
  | .urlStart => ['^']
  | .domain => domainRegex

def charRegex (c : Char) : List Char :=
  if c = '*' then ['.', '*'] else if c = '^' then separatorRegex else Regex.escapeChar c

def toRegex (f : Filter) : List Char :=
  startRegex f.start ++ f.body.flatMap charRegex ++ if f.atEnd then ['$'] else []

end Filter

def filterRegex (filter : List Char) : List Char := (Filter.ofText filter).toRegex

def compileFilter (filter : List Char) : Except Regex.Error Regex :=
  Regex.compile (filterRegex filter) true

/-- The filters that match every URL without a look at it. -/
def isMatchAll (filter : List Char) : Bool := filter == [] || filter == ['*']

def filterMatches (filter url : List Char) : Bool :=
  isMatchAll filter ||
    match compileFilter filter with
    | .ok regex => regex.matchesSomewhere url
    | .error _ => false

end HeaderRules.Url

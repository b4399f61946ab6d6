import HeaderRules.Text.Split
import HeaderRules.Yaml.Timestamp
/-!
# Tags

The kind of value that a node stands for. A node may name its tag; a plain scalar that does not is
given one by its text.
-/

namespace HeaderRules.Yaml

inductive Tag
  | null
  | bool
  | int
  | float
  | binary
  | timestamp
  | text
  | list
  | map
  | set
  | orderedMap
  | pairs
  | merge
  | default
  | unknown
deriving DecidableEq, Repr

namespace Tag

def standard : String := "tag:yaml.org,2002:"

def names : List (String × Tag) :=
  [("null", .null), ("bool", .bool), ("int", .int), ("float", .float), ("binary", .binary),
   ("timestamp", .timestamp), ("str", .text), ("seq", .list), ("map", .map), ("set", .set),
   ("omap", .orderedMap), ("pairs", .pairs), ("merge", .merge), ("value", .default)]

def ofName (name : String) : Tag :=
  ((names.find? fun entry => standard ++ entry.1 == name).map (·.2)).getD .unknown

/-! ## The tag of a plain text -/

def boolTexts : List String :=
  ["yes", "Yes", "YES", "no", "No", "NO", "true", "True", "TRUE", "false", "False", "FALSE",
   "on", "On", "ON", "off", "Off", "OFF"]

def nullTexts : List String := ["~", "null", "Null", "NULL"]

def isDigitOrUnderscore (c : Char) : Bool := c.isDigit || c == '_'

def allOf (p : Char → Bool) (s : List Char) : Bool := !s.isEmpty && s.all p

def dropSign : List Char → List Char
  | c :: rest => if c = '+' ∨ c = '-' then rest else c :: rest
  | [] => []

/-- A digit and then digits and underscores. -/
def isDigits : List Char → Bool
  | c :: rest => c.isDigit && rest.all isDigitOrUnderscore
  | [] => false

/-- Digits and underscores that begin with a digit other than zero. -/
def isPositive (s : List Char) : Bool := isDigits s && s.head? != some '0'

def isSixtieth : List Char → Bool
  | [c] => c.isDigit
  | [c, d] => '0' ≤ c && c ≤ '5' && d.isDigit
  | _ => false

/-- Whether parts between colons count sixties: there are at least two, and those behind the first
are below sixty. -/
def isSixties (first : List Char → Bool) (s : List Char) : Bool :=
  match Text.split ':' s with
  | head :: part :: more => first head && (part :: more).all isSixtieth
  | _ => false

/-- Whether a text is a whole number in base two, eight, ten, sixteen or sixty. -/
def isIntText (s : List Char) : Bool :=
  match dropSign s with
  | ['0'] => true
  | '0' :: 'b' :: rest => allOf (fun c => c == '0' || c == '1' || c == '_') rest
  | '0' :: 'x' :: rest => allOf (fun c => (Text.digitIn? 16 c).isSome || c == '_') rest
  | '0' :: rest => allOf (fun c => ('0' ≤ c && c ≤ '7') || c == '_') rest
  | body => isPositive body || isSixties isPositive body

def isSignedExponent : List Char → Bool
  | [] => true
  | e :: sign :: digits =>
    (e == 'e' || e == 'E') && (sign == '+' || sign == '-') && allOf Char.isDigit digits
  | _ => false

/-- Whether a text is a floating point number, which has a point. -/
def isFloatText (s : List Char) : Bool :=
  let unsigned := dropSign s
  match unsigned.span (· != '.') with
  | (_, []) => false
  | ([], _ :: rest) =>
    ["inf", "Inf", "INF"].contains (String.ofList rest) ||
      (unsigned.length == s.length &&
        (["nan", "NaN", "NAN"].contains (String.ofList rest) ||
          (rest.head?.any Char.isDigit && isSignedExponent (rest.dropWhile isDigitOrUnderscore))))
  | (whole, _ :: rest) =>
    (isDigits whole && isSignedExponent (rest.dropWhile isDigitOrUnderscore)) ||
      (isSixties isDigits whole && rest.all isDigitOrUnderscore)

/-- Whether a text is a date or moment. A date alone has to be padded. -/
def isTimestampText (s : List Char) : Bool :=
  (Timestamp.read? s).any fun t => t.padded || t.time.isSome

def dropLineFeed (s : List Char) : List Char :=
  if s.getLast? = some '\n' then s.dropLast else s

/-- The tag of a scalar that does not name one, by its text. A line feed at the end is passed
over. -/
def ofText (text : String) : Tag :=
  let s := dropLineFeed text.toList
  let line := String.ofList s
  if text = "" then .null
  else if boolTexts.contains line then .bool
  else if isFloatText s then .float
  else if isIntText s then .int
  else if line = "<<" then .merge
  else if nullTexts.contains line then .null
  else if isTimestampText s then .timestamp
  else if line = "=" then .default
  else if ["!", "&", "*"].contains line then .unknown
  else .text

end Tag

end HeaderRules.Yaml

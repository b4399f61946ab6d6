import HeaderRules.Log
import HeaderRules.Rule.Distinct
import HeaderRules.Rule.Id
import HeaderRules.Rule.ResourceType
import HeaderRules.Url.Filter
/-!
# The rule store

The installed rules, which are replaced as a whole: an update is checked in full, and a refused one
changes nothing. The store also finds the rules that cover a URL.
-/

namespace HeaderRules

/-- Installed rules in order of installation, with their greatest number and the count of updates
so far. -/
structure Store where
  maxRules : Int
  rules : List Rule
  version : Nat
deriving Repr

namespace Store

inductive Fault
  | badId (id : Value)
  | noTypes (id : Value)
  | unknownTypes (id : Value) (types : List String)
  | noOperations (id : Value)
  | blankHeader (id : Value)
  | unsupportedVerb (id : Value) (name : Option String)
  | idTaken (id : Value)
  | tooMany (count : Nat) (limit : Int)
  | notAKey (id : Value)
deriving Repr

def Fault.message : Fault → String
  | badId id =>
    "Rule id " ++ id.nested ++ " is outside [" ++ toString RuleId.least ++ ", " ++
      toString RuleId.greatest ++ "]"
  | noTypes id => "Rule " ++ id.toText ++ ": resourceTypes cannot be empty"
  | unknownTypes id types =>
    "Rule " ++ id.toText ++ ": unknown resource type(s) " ++ String.intercalate ", " types
  | noOperations id =>
    "Rule " ++ id.toText ++ ": modifyHeaders action needs at least one header operation"
  | blankHeader id => "Rule " ++ id.toText ++ ": header name cannot be empty"
  | unsupportedVerb id name =>
    "Rule " ++ id.toText ++ ": unsupported header operation " ++ (Value.optional name).nested
  | idTaken id => "Rule with id " ++ id.toText ++ " already exists"
  | tooMany count limit =>
    "Rule count " ++ toString count ++ " exceeds the maximum of " ++ toString limit ++
      " dynamic rules"
  | notAKey id => "unhashable type: '" ++ id.typeName ++ "'"

def defaultMaxRules : Int := 5000

def empty (maxRules : Int) : Store := ⟨maxRules, [], 0⟩

def ids (s : Store) : List Value := s.rules.map (·.id)

/-! ## What can be installed -/

/-- Whether a value is a whole number in the range of ids. -/
def isRuleId : Value → Bool
  | .int n => RuleId.least ≤ n && n ≤ RuleId.greatest
  | _ => false

/-- The names among the given types that are not known, each once and in order. -/
def unknownTypes (types : List String) : List String :=
  ((types.filter fun t => !ResourceType.known.contains t).eraseDups).mergeSort (· ≤ ·)

def namesHeader (op : Operation) : Bool := op.header.any Text.hasInk

def validateOperation (id : Value) (op : Operation) : Except Fault Unit :=
  if !namesHeader op then .error (.blankHeader id)
  else
    match op.verb with
    | .unknown name => .error (.unsupportedVerb id name)
    | .set | .append | .remove => .ok ()

def validate (rule : Rule) : Except Fault Unit :=
  if !isRuleId rule.id then .error (.badId rule.id)
  else if rule.condition.types.isEmpty then .error (.noTypes rule.id)
  else if !(unknownTypes rule.condition.types).isEmpty then
    .error (.unknownTypes rule.id (unknownTypes rule.condition.types))
  else if rule.action.isEmpty then .error (.noOperations rule.id)
  else rule.action.operations.forM (validateOperation rule.id)

/-! ## Updates -/

def hasIdIn (keys : List Scalar) (rule : Rule) : Bool :=
  match rule.id with
  | .scalar id => keys.any id.sameKey
  | _ => false

def holdsId (rules : List Rule) (rule : Rule) : Bool :=
  match rule.id with
  | .scalar id => rules.any (hasIdIn [id])
  | _ => false

def install (rules : List Rule) (rule : Rule) : Except Fault (List Rule) := do
  validate rule
  if holdsId rules rule then throw (.idTaken rule.id)
  return rules ++ [rule]

/-- The keys of the ids to remove. -/
def removalKeys (ids : List Value) : Except Fault (List Scalar) :=
  ids.mapM fun id =>
    match id with
    | .scalar key => .ok key
    | v => .error (.notAKey v)

/-- Removes the rules with the given ids and adds others behind the rest. -/
def replace (s : Store) (remove : List Value) (add : List Rule) : Except Fault Store := do
  let keys ← removalKeys remove
  let updated ← add.foldlM install (s.rules.filter fun rule => !hasIdIn keys rule)
  if s.maxRules < updated.length then throw (.tooMany updated.length s.maxRules)
  return { s with rules := updated, version := s.version + 1 }

def updateNote (s : Store) : Log.Entry :=
  Log.debug ("rule store v" ++ toString s.version ++ ": " ++ toString s.rules.length ++
    " rule(s) installed")

/-! ## Matching -/

def idNumber : Value → Int
  | .int n => n
  | _ => 0

/-- Whether a rule comes no later than another: higher priority first, then lower id. -/
def comesFirst (a b : Rule) : Bool :=
  b.priority < a.priority || (a.priority == b.priority && idNumber a.id ≤ idNumber b.id)

def covers (url : String) (type : String) (rule : Rule) : Bool :=
  ResourceType.covers rule.condition.types type &&
    Url.filterMatches rule.condition.filter.toList url.toList

/-- The installed rules that cover a URL and a resource type, in the order in which they apply. -/
def matchingRules (s : Store) (url type : String) : List Rule :=
  (s.rules.filter (covers url type)).mergeSort comesFirst

end Store

end HeaderRules

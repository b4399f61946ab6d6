import HeaderRules.Log
import HeaderRules.Message.Fields
import HeaderRules.Rule.Basic
/-!
# Header changes

The operations of several rules are first turned into a list of changes, by the law that the first
rule to touch a header keeps later rules away from it, and the changes are then made in order.
-/

namespace HeaderRules

/-- What is wrong with a message or an operation that does not have the shape of one. -/
inductive Misuse
  | noUrl
  | noHeaderName
  | noFieldsToRead
  | noFieldsToSearch
  | noFieldsToSet
deriving DecidableEq, Repr

def Misuse.message : Misuse → String
  | noUrl => "expected string or bytes-like object, got 'NoneType'"
  | noHeaderName => "'NoneType' object has no attribute 'lower'"
  | noFieldsToRead => "'NoneType' object has no attribute 'get'"
  | noFieldsToSearch => "argument of type 'NoneType' is not iterable"
  | noFieldsToSet => "'NoneType' object does not support item assignment"

inductive Change
  | set (name value : String)
  | append (name value : String)
  | remove (name : String)
deriving DecidableEq, Repr

/-- The change that an operation with a verb makes to a header; an unknown verb makes none. -/
def Operation.change? (op : Operation) (name : String) : Option Change :=
  match op.verb with
  | .set => some (.set name op.value)
  | .append => some (.append name op.value)
  | .remove => some (.remove name)
  | .unknown _ => none

namespace Change

def name : Change → String
  | set name _ | append name _ | remove name => name

def verb : Change → String
  | set .. => "set"
  | append .. => "append"
  | remove _ => "remove"

def perform (fields : Fields) : Change → Fields
  | set name value => fields.set name value
  | append name value => fields.append name value
  | remove name => fields.erase name

/-- Why a change cannot be made to a message without fields. -/
def misuse : Change → Misuse
  | set .. => .noFieldsToSet
  | append .. => .noFieldsToRead
  | remove _ => .noFieldsToSearch

def note (phase : String) (change : Change) : Log.Entry :=
  Log.debug (phase ++ " header " ++ change.verb ++ " " ++ change.name)

end Change

/-! ## Which operations are carried out -/

/-- A header name as rules claim it: in lower case of all scripts. -/
def claimKey (name : String) : List Char := Text.lower name.toList

/-- Changes in order, up to an operation without a header name if there is one. -/
structure Selection where
  changes : List Change
  nameless : Bool
deriving Repr

/-- The changes of one rule, apart from those to headers that are taken. -/
def selectOfRule (taken : List (List Char)) : List Operation → Selection
  | [] => ⟨[], false⟩
  | op :: rest =>
    match op.header with
    | none => ⟨[], true⟩
    | some name =>
      if taken.contains (claimKey name) then selectOfRule taken rest
      else
        match op.change? name with
        | none => selectOfRule taken rest
        | some change =>
          let later := selectOfRule taken rest
          { later with changes := change :: later.changes }

/-- The changes of several rules. What one rule changes is taken for the rules behind it. -/
def select (taken : List (List Char)) : List (List Operation) → Selection
  | [] => ⟨[], false⟩
  | ops :: rest =>
    let first := selectOfRule taken ops
    if first.nameless then first
    else
      let later := select (taken ++ first.changes.map (claimKey ·.name)) rest
      { later with changes := first.changes ++ later.changes }

/-! ## Carrying them out -/

/-- What a list of operations comes to: the fields, the number of changes made, and how the work
ended. -/
structure Enforced where
  fields : Option Fields
  count : Nat
  misuse : Option Misuse
  log : List Log.Entry
deriving Repr

def countNotes (phase : String) (count : Nat) : List Log.Entry :=
  if count = 0 then []
  else [Log.debug ("applied " ++ toString count ++ " header operation(s) to " ++ phase)]

def enforceOperations (fields : Option Fields) (rules : List (List Operation)) (phase : String) :
    Enforced :=
  let selection := select [] rules
  match fields, selection.changes with
  | none, change :: _ => ⟨none, 0, some change.misuse, []⟩
  | none, [] => ⟨none, 0, if selection.nameless then some .noHeaderName else none, []⟩
  | some fields, changes =>
    let changed := changes.foldl Change.perform fields
    let notes := changes.map (Change.note phase)
    if selection.nameless then ⟨some changed, changes.length, some .noHeaderName, notes⟩
    else ⟨some changed, changes.length, none, notes ++ countNotes phase changes.length⟩

end HeaderRules

import HeaderRules.Text.Case
/-!
# Header fields

The header of a message: named values in order, of which several may share a name. Names are the
same when they differ in the case of ASCII letters only.
-/

namespace HeaderRules

abbrev Fields := List (String × String)

namespace Fields

/-- A name as it is compared. -/
def nameKey (name : String) : List Nat := name.toList.map fun c => Text.lowerAscii c.toNat

def sameName (a b : String) : Bool := nameKey a == nameKey b

def values (fields : Fields) (name : String) : List String :=
  (fields.filter (sameName ·.1 name)).map (·.2)

def has (fields : Fields) (name : String) : Bool := fields.any (sameName ·.1 name)

/-- All values of a name as one text. -/
def get? (fields : Fields) (name : String) : Option String :=
  if fields.has name then some (String.intercalate ", " (fields.values name)) else none

def erase (fields : Fields) (name : String) : Fields := fields.filter fun f => !sameName f.1 name

/-- Makes a value the only one of a name. The first field of the name keeps its place and its
spelling; without one, a field is added at the end. -/
def set : Fields → String → String → Fields
  | [], name, value => [(name, value)]
  | field :: rest, name, value =>
    if sameName field.1 name then (field.1, value) :: erase rest name
    else field :: set rest name value

/-- Adds a value behind those of a name. An empty text counts as no value. -/
def append (fields : Fields) (name value : String) : Fields :=
  match fields.get? name with
  | none | some "" => fields.set name value
  | some found => fields.set name (found ++ ", " ++ value)

end Fields

end HeaderRules

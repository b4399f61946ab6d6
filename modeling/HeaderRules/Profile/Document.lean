import HeaderRules.Profile.Basic
/-!
# Profiles in documents

How profiles are read from document values and written back. Reading fills in what is missing: a
filter that is missing or empty becomes `*`, and a missing list is empty. What is read can be
written and read again.
-/

namespace HeaderRules

def matchAllFilter : String := "*"

/-- The parts of a document that have to be mappings. -/
inductive Part
  | document
  | profile
  | matcher
  | edit
deriving DecidableEq, Repr

def Part.label : Part → String
  | document => "Profile document"
  | profile => "Profile"
  | matcher => "Matcher"
  | edit => "Header edit"

inductive DocumentFault
  | notMapping (part : Part) (found : String)
  | notList (part : Part) (key found : String)
  | profilesNotList
  | missingId (name : String)
  | numberTooLong
deriving DecidableEq, Repr

def DocumentFault.message : DocumentFault → String
  | notMapping part found => part.label ++ " must be a mapping, got " ++ found
  | notList part key found => part.label ++ " '" ++ key ++ "' must be a list, got " ++ found
  | profilesNotList => "'profiles' must be a list"
  | missingId name => "Profile is missing an id: " ++ name
  | numberTooLong => Number.tooLongToWrite

abbrev Entries := List (Scalar × Value)

/-- The entries of a value that has to be a mapping. A mapping that contains itself is not followed:
where it stands inside itself it counts as empty. -/
def Value.mapping (part : Part) : Value → Except DocumentFault Entries
  | .map entries => .ok entries
  | .again true => .ok []
  | v => .error (.notMapping part v.typeName)

/-- The items of a list under a key; a missing list is empty. A list that contains itself is not
followed: where it stands inside itself it counts as empty. -/
def Value.listAt (entries : Entries) (part : Part) (key : String) :
    Except DocumentFault (List Value) :=
  match lookup entries key with
  | none | some .null => .ok []
  | some (.list items) => .ok items
  | some (.again false) => .ok []
  | some v => .error (.notList part key v.typeName)

def Value.asId (v : Value) : Except DocumentFault RawText :=
  if v.isWritable then .ok v.toRaw else .error .numberTooLong

def Value.written (v : Value) : Except DocumentFault String :=
  if v.isWritable then .ok v.toText else .error .numberTooLong

/-- The id among some entries; a missing one is the empty text. -/
def Value.idAt (entries : Entries) : Except DocumentFault RawText :=
  match lookup entries "id" with
  | none => .ok []
  | some v => v.asId

/-- A value under a key as text; null counts as missing. -/
def Value.textAt (entries : Entries) (key : String) : Except DocumentFault String :=
  match lookup entries key with
  | none | some .null => .ok ""
  | some v => v.written

/-- A value under a key as text; every value that does not count as present is missing. -/
def Value.labelAt (entries : Entries) (key : String) : Except DocumentFault String :=
  match lookup entries key with
  | none => .ok ""
  | some v => if v.isTruthy then v.written else .ok ""

namespace Matcher

def ofValue (v : Value) : Except DocumentFault Matcher := do
  let entries ← v.mapping .matcher
  let id ← Value.idAt entries
  let filter ← Value.textAt entries "urlFilter"
  let types ← (← Value.listAt entries .matcher "resourceTypes").mapM Value.written
  return ⟨id, if filter = "" then matchAllFilter else filter, types⟩

def toValue (m : Matcher) : Value :=
  .map ([(.text "id", .raw m.id), (.text "urlFilter", .text m.filter)] ++
    if m.types.isEmpty then [] else [(.text "resourceTypes", .list (m.types.map .text))])

end Matcher

namespace Edit

def ofValue (v : Value) : Except DocumentFault Edit := do
  let entries ← v.mapping .edit
  let id ← Value.idAt entries
  let header ← Value.labelAt entries "header"
  let value ← Value.textAt entries "value"
  let enabled := isOn ((Value.lookup entries "enabled").getD .null)
  return ⟨id, some header, value, .bool enabled⟩

def toValue (e : Edit) : Value :=
  .map [(.text "id", .raw e.id), (.text "header", (e.header.map Value.text).getD .null),
    (.text "value", .text e.value), (.text "enabled", e.enabled)]

end Edit

namespace Profile

/-- The fault of a profile without an id, which is reported by its name. -/
def missingId (entries : Entries) : DocumentFault :=
  match (Value.lookup entries "name").map Value.written with
  | none => .missingId "<unnamed>"
  | some (.ok name) => .missingId name
  | some (.error fault) => fault

def idIn (entries : Entries) : Except DocumentFault RawText :=
  match Value.lookup entries "id" with
  | none => .error (missingId entries)
  | some id => if id.isTruthy then id.asId else .error (missingId entries)

def ofValue (v : Value) : Except DocumentFault Profile := do
  let entries ← v.mapping .profile
  let id ← idIn entries
  let enabled := ((Value.lookup entries "enabled").map Value.isTruthy).getD false
  let matchers ← (← Value.listAt entries .profile "matchers").mapM Matcher.ofValue
  let requestEdits ← (← Value.listAt entries .profile "requestHeaders").mapM Edit.ofValue
  let responseEdits ← (← Value.listAt entries .profile "responseHeaders").mapM Edit.ofValue
  let name ← Value.labelAt entries "name"
  let color ← Value.labelAt entries "color"
  let notes ← Value.labelAt entries "notes"
  return ⟨id, enabled, matchers, requestEdits, responseEdits, name, color, notes⟩

def toValue (p : Profile) : Value :=
  .map [(.text "id", .raw p.id), (.text "name", .text p.name), (.text "color", .text p.color),
    (.text "notes", .text p.notes), (.text "enabled", .bool p.enabled),
    (.text "matchers", .list (p.matchers.map Matcher.toValue)),
    (.text "requestHeaders", .list (p.requestEdits.map Edit.toValue)),
    (.text "responseHeaders", .list (p.responseEdits.map Edit.toValue))]

end Profile

namespace ProfileSet

/-- The profile list of a document; one that does not count as present is empty. -/
def profilesIn (entries : Entries) : Except DocumentFault (List Value) :=
  match Value.lookup entries "profiles" with
  | none => .ok []
  | some (.list items) => .ok items
  | some v => if v.isTruthy then .error .profilesNotList else .ok []

def ofValue (v : Value) : Except DocumentFault ProfileSet := do
  let entries ← v.mapping .document
  let profiles ← (← profilesIn entries).mapM Profile.ofValue
  let marked := (Value.lookup entries "activeProfileId").getD .null
  return ⟨profiles, if marked.isTruthy then marked else .null⟩

end ProfileSet

end HeaderRules

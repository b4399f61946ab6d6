import HeaderRules.Text.Blank
import HeaderRules.Value
/-!
# Profiles

A profile says where it applies, by its matchers, and which headers it edits there. A profile set
is what one document holds: its profiles and the id of the one in use.
-/

namespace HeaderRules

/-- Where a profile applies: a URL filter, and the types of resource it is restricted to. -/
structure Matcher where
  id : RawText
  filter : String
  types : List String
deriving DecidableEq, Repr

/-- A header edit. The name may be missing; any switch but `false` counts as on. -/
structure Edit where
  id : RawText
  header : Option String
  value : String
  enabled : Value
deriving Repr

structure Profile where
  id : RawText
  enabled : Bool
  matchers : List Matcher
  requestEdits : List Edit
  responseEdits : List Edit
  name : String
  color : String
  notes : String
deriving Repr

/-- The profiles of a document and the id that it marks as active. -/
structure ProfileSet where
  profiles : List Profile
  activeId : Value
deriving Repr

namespace Edit

def isOn : Value → Bool
  | .bool false => false
  | _ => true

/-- Whether an edit takes part: it is switched on and names a header. -/
def isActive (e : Edit) : Bool :=
  isOn e.enabled && e.header.any Text.hasInk

end Edit

namespace Profile

def label (p : Profile) : String := if p.name = "" then p.id.shown else p.name

end Profile

namespace ProfileSet

def empty : ProfileSet := ⟨[], .null⟩

/-- Whether a marked id is the id of a profile. Profile ids are texts, and only a text is one. -/
def marks (marked : Value) (p : Profile) : Bool :=
  match marked with
  | .scalar s => s == .ofRaw p.id
  | _ => false

/-- The profile in use: the first enabled one with the marked id. -/
def active (s : ProfileSet) : Option Profile :=
  s.profiles.find? fun p => marks s.activeId p && p.enabled

end ProfileSet

end HeaderRules

import HeaderRules.Profile.Document
import HeaderRules.Rule.Basic
import HeaderRules.Rule.Id
import HeaderRules.Rule.ResourceType
/-!
# Rules of a profile

A profile becomes one rule for each of its matchers, all with the same action: its active edits,
each as an operation that sets a header. A profile without matchers applies everywhere, and one
without active edits has no rules. There are no rules at all if the id of one of them cannot be
hashed.
-/

namespace HeaderRules

def Edit.toOperation (e : Edit) : Operation := ⟨e.header, e.value, .set⟩

def Edit.operations (edits : List Edit) : List Operation :=
  (edits.filter Edit.isActive).map Edit.toOperation

namespace Matcher

/-- The matcher of a profile that has none. -/
def everywhere : Matcher := ⟨"__all__", matchAllFilter, ResourceType.defaults⟩

def distinct : List Matcher → List Matcher
  | [] => []
  | m :: rest => m :: (distinct rest).filter (·.id != m.id)

def toCondition (m : Matcher) : Condition where
  filter := if m.filter = "" then matchAllFilter else m.filter
  types := if m.types.isEmpty then ResourceType.defaults else m.types

end Matcher

namespace Profile

/-- The action of all rules of a profile. -/
def action (p : Profile) : Action :=
  ⟨Edit.operations p.requestEdits, Edit.operations p.responseEdits⟩

def ruleMatchers (p : Profile) : List Matcher :=
  if p.matchers.isEmpty then [.everywhere] else Matcher.distinct p.matchers

def ruleWith (p : Profile) (m : Matcher) (id : Int) : Rule where
  id := .int id
  priority := 1
  condition := m.toCondition
  action := p.action

def ruleOf (p : Profile) (m : Matcher) : Except RawText.EncodeFault Rule :=
  (RuleId.ofPair p.id m.id).map (p.ruleWith m)

def rules (p : Profile) : Except RawText.EncodeFault (List Rule) :=
  if p.action.isEmpty then .ok [] else p.ruleMatchers.mapM p.ruleOf

end Profile

/-- The rules of the profile in use, if any is. -/
def rulesOf (profile : Option Profile) : Except RawText.EncodeFault (List Rule) :=
  (profile.map Profile.rules).getD (.ok [])

end HeaderRules

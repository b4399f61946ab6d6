import HeaderRules.Message.Change
import HeaderRules.Message.Flow
import HeaderRules.Store
/-!
# Enforcing rules

Rules are looked up once, for the request of a flow. They are kept on the flow, so that the
response is changed by the same rules whatever has been installed in between.
-/

namespace HeaderRules

structure Handled where
  flow : Flow
  misuse : Option Misuse
  log : List Log.Entry
deriving Repr

namespace Store

/-- Whether a rule asks for a look at the URL of requests of some type. -/
def needsUrl (type : String) (rule : Rule) : Bool :=
  ResourceType.covers rule.condition.types type && !Url.isMatchAll rule.condition.filter.toList

/-- The installed rules that cover a request whose URL may be missing. -/
def rulesFor (s : Store) (url : Option String) (type : String) : Except Misuse (List Rule) :=
  match url with
  | some url => .ok (s.matchingRules url type)
  | none => if s.rules.any (needsUrl type) then .error .noUrl else .ok (s.matchingRules "" type)

def handleRequest (s : Store) (flow : Flow) : Handled :=
  match flow.request with
  | none => ⟨flow, some .noFieldsToRead, []⟩
  | some fields =>
    match s.rulesFor flow.url fields.resourceType with
    | .error misuse => ⟨flow, some misuse, []⟩
    | .ok [] => ⟨flow, none, []⟩
    | .ok matched =>
      let done := enforceOperations (some fields) (matched.map (·.action.request)) "request"
      let noted := { flow with matched := some matched }.recordHits matched
      ⟨{ noted with request := done.fields }, done.misuse, done.log⟩

end Store

def Flow.handleResponse (flow : Flow) : Handled :=
  match flow.response, flow.matched.getD [] with
  | none, _ | _, [] => ⟨flow, none, []⟩
  | some fields, matched =>
    let done := enforceOperations fields (matched.map (·.action.response)) "response"
    ⟨{ flow with response := some done.fields }, done.misuse, done.log⟩

end HeaderRules

import HeaderRules.Message.Fields
import HeaderRules.Rule.Basic
/-!
# Flows

A request on its way through the proxy, with its response once there is one, and what the rule
engine keeps on it. A URL or a header may be missing.
-/

namespace HeaderRules

/-- A rule that covered a request, with the priority that it had then. -/
structure Hit where
  id : Value
  priority : Int
deriving Repr

structure Flow where
  url : Option String
  request : Option Fields
  response : Option (Option Fields)
  matched : Option (List Rule)
  hits : Option (List Hit)
deriving Repr

namespace Flow

def fresh (url : Option String) (request : Option Fields) (response : Option (Option Fields)) :
    Flow :=
  ⟨url, request, response, none, none⟩

/-- The names of what the engine keeps on a flow, in order. -/
def keptNames (f : Flow) : List String :=
  (if f.hits.isSome then ["_chheader_hits"] else []) ++
    (if f.matched.isSome then ["_chheader_matched_rules"] else [])

/-- Adds a hit, unless there is one of the same rule. -/
def recordHit (f : Flow) (id : Value) (priority : Int) : Flow :=
  let hits := f.hits.getD []
  { f with hits := some (if hits.any (·.id.same id) then hits else hits ++ [⟨id, priority⟩]) }

def recordHits (f : Flow) (rules : List Rule) : Flow :=
  rules.foldl (fun f rule => f.recordHit rule.id rule.priority) f

end Flow

/-! ## The resource type of a request -/

/-- The resource types of the destinations that a browser announces. -/
def destinationTypes : List (String × String) :=
  [("document", "main_frame"), ("iframe", "sub_frame"), ("frame", "sub_frame"),
   ("fencedframe", "sub_frame"), ("empty", "xmlhttprequest"), ("script", "script"),
   ("worker", "script"), ("sharedworker", "script"), ("serviceworker", "script"),
   ("audioworklet", "script"), ("paintworklet", "script"), ("image", "image"),
   ("style", "stylesheet"), ("object", "object"), ("embed", "object"), ("font", "font"),
   ("audio", "media"), ("video", "media"), ("track", "media"), ("report", "csp_report"),
   ("webbundle", "webbundle")]

namespace Fields

/-- The value of a name in lower case; a missing one is empty. -/
def lowered (fields : Fields) (name : String) : String :=
  String.ofList (Text.lower ((fields.get? name).getD "").toList)

def hasText (fields : Fields) (name : String) : Bool := (fields.get? name).getD "" != ""

def resourceType (fields : Fields) : String :=
  if lowered fields "Upgrade" = "websocket" then "websocket"
  else if hasText fields "Ping-To" || hasText fields "Ping-From" then "ping"
  else (destinationTypes.lookup (lowered fields "Sec-Fetch-Dest")).getD "other"

end Fields

end HeaderRules

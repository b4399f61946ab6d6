/-!
# Resource types

The kinds of resource that a rule can be restricted to.
-/

namespace HeaderRules.ResourceType

def known : List String :=
  ["csp_report", "document", "font", "image", "main_frame", "media", "object", "other", "ping",
   "script", "stylesheet", "sub_frame", "webbundle", "websocket", "webtransport", "xmlhttprequest"]

/-- The types that stand in for a missing restriction. -/
def defaults : List String :=
  ["main_frame", "sub_frame", "xmlhttprequest", "script", "image", "stylesheet", "object", "ping",
   "other"]

/-- The type that a name stands for; `document` is an older name of a page of its own. -/
def canonical (name : String) : String := if name = "document" then "main_frame" else name

def covers (types : List String) (type : String) : Bool := types.any (canonical · == type)

end HeaderRules.ResourceType

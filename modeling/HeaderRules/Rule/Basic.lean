import HeaderRules.Value
/-!
# Header rules

A rule applies a list of header operations to the requests, and another to the responses, of the
URLs and resource types that its condition covers.
-/

namespace HeaderRules

/-- What an operation does to a header. A verb that is none of the known ones keeps its name. -/
inductive Verb
  | set
  | append
  | remove
  | unknown (name : Option String)
deriving DecidableEq, Repr

/-- One change of a header. The name may be missing. -/
structure Operation where
  header : Option String
  value : String
  verb : Verb
deriving DecidableEq, Repr

structure Condition where
  filter : String
  types : List String
deriving DecidableEq, Repr

/-- What a rule does. A side without operations is absent from documents. -/
structure Action where
  request : List Operation
  response : List Operation
deriving DecidableEq, Repr

/-- A rule. Among the rules that cover a URL those of higher priority come first. Any value may be
offered as an id; a store takes only whole numbers. -/
structure Rule where
  id : Value
  priority : Int
  condition : Condition
  action : Action
deriving Repr

namespace Verb

def ofName (name : Option String) : Verb :=
  match name with
  | some "set" => set
  | some "append" => append
  | some "remove" => remove
  | _ => unknown name

def name : Verb → Option String
  | set => some "set"
  | append => some "append"
  | remove => some "remove"
  | unknown name => name

end Verb

def Value.optional (text : Option String) : Value := (text.map Value.text).getD .null

def Operation.toValue (op : Operation) : Value :=
  .map [(.text "header", .optional op.header), (.text "operation", .optional op.verb.name),
    (.text "value", .text op.value)]

def Condition.toValue (c : Condition) : Value :=
  .map [(.text "urlFilter", .text c.filter), (.text "resourceTypes", .list (c.types.map .text))]

namespace Action

def isEmpty (a : Action) : Bool := a.request.isEmpty && a.response.isEmpty

/-- All operations, those on requests first. -/
def operations (a : Action) : List Operation := a.request ++ a.response

def side (key : String) (ops : List Operation) : List (Scalar × Value) :=
  if ops.isEmpty then [] else [(.text key, .list (ops.map Operation.toValue))]

def toValue (a : Action) : Value :=
  .map ((.text "type", .text "modifyHeaders") :: side "requestHeaders" a.request ++
    side "responseHeaders" a.response)

end Action

def Rule.toValue (r : Rule) : Value :=
  .map [(.text "id", r.id), (.text "priority", .int r.priority),
    (.text "action", r.action.toValue), (.text "condition", r.condition.toValue)]

end HeaderRules

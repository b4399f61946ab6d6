import HeaderRules.Text.Raw
import HeaderRules.Yaml.Tag
/-!
# Nodes of a document

A document as a tree of tagged nodes. A node that an alias repeats stands in the tree as often as
it is named, except inside itself.
-/

namespace HeaderRules.Yaml

/-- A node. `again` stands for the list or mapping that encloses it. -/
inductive Node
  | scalar (tag : Tag) (text : RawText)
  | sequence (tag : Tag) (items : List Node)
  | mapping (tag : Tag) (entries : List (Node × Node))
  | again (isMap : Bool)
deriving Repr

abbrev NodeEntries := List (Node × Node)

namespace Node

/-- A scalar that is not written out. -/
def empty : Node := .scalar .null []

def tag : Node → Tag
  | scalar tag _ | sequence tag _ | mapping tag _ => tag
  | again isMap => if isMap then .map else .list

end Node

end HeaderRules.Yaml

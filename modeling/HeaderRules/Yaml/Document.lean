import HeaderRules.Yaml.Node.OfTokens
import HeaderRules.Yaml.Scalar
/-!
# Documents

The value that a document stands for. Nodes are given values level by level: the items of a
collection come after all that stands beside it. Of several faults the first one in this order
counts.
-/

namespace HeaderRules.Yaml

/-! ## Merged mappings -/

mutual

/-- The entries of a mapping with those that it merges in front of its own. A merged list of
mappings counts from its end. -/
def mergeEntries : NodeEntries → Except Fault (NodeEntries × NodeEntries)
  | [] => .ok ([], [])
  | (key, value) :: rest =>
    if key.tag = .merge then do
      let merged ← mergedBy value
      let (more, own) ← mergeEntries rest
      return (merged ++ more, own)
    else do
      let (more, own) ← mergeEntries rest
      return (more, (key, value) :: own)

def mergedBy : Node → Except Fault NodeEntries
  | .mapping _ entries => do
    let (merged, own) ← mergeEntries entries
    return merged ++ own
  | .sequence _ items => mergedByAll items
  | .again isMap => if isMap then .ok [] else .error .malformed
  | .scalar .. => .error .malformed

/-- The entries that a list of mappings adds, those of its last item first. -/
def mergedByAll : List Node → Except Fault NodeEntries
  | [] => .ok []
  | .mapping _ entries :: rest => do
    let (merged, own) ← mergeEntries entries
    return (← mergedByAll rest) ++ (merged ++ own)
  | .again true :: rest => mergedByAll rest
  | _ => .error .malformed

end

/-- A key that would stand for the default value is the text that it is written as. -/
def plainKey : Node → Node
  | .scalar .default text => .scalar .text text
  | key => key

def flatten (entries : NodeEntries) : Except Fault NodeEntries := do
  let (merged, own) ← mergeEntries entries
  return (merged ++ own).map fun entry => (plainKey entry.1, entry.2)

/-! ## Single nodes -/

def Tag.isCollection : Tag → Bool
  | list | map | set | orderedMap | pairs => true
  | _ => false

/-- The text of a node under a tag of single values. A mapping may name it as its default value. -/
def Node.scalarText : Node → Except Fault RawText
  | .scalar _ text => .ok text
  | .mapping _ entries => defaultText entries
  | .sequence .. | .again _ => .error .malformed
where
  /-- The text of the default value among some entries. -/
  defaultText : NodeEntries → Except Fault RawText
    | [] => .error .malformed
    | (key, value) :: rest =>
      if key.tag = .default then value.scalarText else defaultText rest

def Node.scalarValue (n : Node) : Except Fault Scalar := do
  if n.tag = .merge ∨ n.tag = .default ∨ n.tag = .unknown then throw .malformed
  let text ← n.scalarText
  match n.tag, n with
  | .timestamp, .mapping .. => throw .timestampOfMapping
  | tag, _ => readScalar tag text

def singleEntries : List Node → Except Fault NodeEntries
  | [] => .ok []
  | .mapping _ [entry] :: rest => do return entry :: (← singleEntries rest)
  | _ => .error .malformed

/-! ## The first fault -/

/-- What a look at one node gives: a fault, or the nodes on the next level. -/
abbrev Look := Except Fault (List Node)

/-- Looks at a node beside others: single values are read now, collections later. -/
def Node.glance (n : Node) : Look :=
  match n with
  | .again _ => .ok []
  | n => if n.tag.isCollection then .ok [n] else n.scalarValue.map fun _ => []

def glanceAll : List Node → Look
  | [] => .ok []
  | n :: rest => do return (← n.glance) ++ (← glanceAll rest)

/-- Looks at the entries of a mapping. A collection is no key. -/
def glanceEntries : NodeEntries → Look
  | [] => .ok []
  | (key, value) :: rest => do
    let _ ← key.glance
    if key.tag.isCollection then throw .malformed
    return (← value.glance) ++ (← glanceEntries rest)

/-- Looks at pairs, of which any node may be the first part. -/
def glancePairs (pairs : NodeEntries) : Look := glanceAll (pairs.flatMap fun p => [p.1, p.2])

def Node.look (n : Node) : Look :=
  match n.tag, n with
  | .list, .sequence _ items => glanceAll items
  | .map, .mapping _ entries | .set, .mapping _ entries => do glanceEntries (← flatten entries)
  | .orderedMap, .sequence _ items | .pairs, .sequence _ items => lookPairs items
  | _, _ => .error .malformed
where
  /-- Looks at single pairs, each before the next is checked for being one. -/
  lookPairs : List Node → Look
    | [] => .ok []
    | .mapping _ [entry] :: rest => do return (← glancePairs [entry]) ++ (← lookPairs rest)
    | _ => .error .malformed

def lookAll : List Node → Look
  | [] => .ok []
  | n :: rest => do return (← n.look) ++ (← lookAll rest)

/-- Looks at a level of collections, then at the next, and so on. -/
def lookLevels : Nat → List Node → Except Fault Unit
  | 0, _ => .ok ()
  | _, [] => .ok ()
  | fuel + 1, level => do lookLevels fuel (← lookAll level)

mutual

def Node.levels : Node → Nat
  | .scalar .. | .again _ => 1
  | .sequence _ items => levelsOfAll items + 1
  | .mapping _ entries => levelsOfEntries entries + 1

def levelsOfAll : List Node → Nat
  | [] => 0
  | n :: rest => max n.levels (levelsOfAll rest)

def levelsOfEntries : NodeEntries → Nat
  | [] => 0
  | (key, value) :: rest => max (max key.levels value.levels) (levelsOfEntries rest)

end

def Node.check (root : Node) : Except Fault Unit := do lookLevels (root.levels + 1) (← root.glance)

/-! ## Values -/

def keyOf : Value → Except Fault Scalar
  | .scalar s => .ok s
  | _ => .error .malformed

/-- The value of a node, of at most the given number of levels. -/
def Node.valueWithin : Nat → Node → Except Fault Value
  | 0, _ => .error .malformed
  | fuel + 1, n =>
    let pairs (entries : NodeEntries) : Except Fault (List (Value × Value)) :=
      entries.mapM fun entry =>
        do return (← entry.1.valueWithin fuel, ← entry.2.valueWithin fuel)
    let keyed (entries : NodeEntries) : Except Fault (List (Scalar × Value)) := do
      let found ← pairs (← flatten entries)
      return Value.ofEntries (← found.mapM fun p => do return (← keyOf p.1, p.2))
    match n with
    | .again isMap => .ok (.again isMap)
    | n =>
      match n.tag, n with
      | .list, .sequence _ items => do return .list (← items.mapM (valueWithin fuel))
      | .map, .mapping _ entries => do return .map (← keyed entries)
      | .set, .mapping _ entries => do return .set ((← keyed entries).map (·.1))
      | .orderedMap, .sequence _ items | .pairs, .sequence _ items => do
        return .list ((← pairs (← singleEntries items)).map fun p => .pair p.1 p.2)
      | _, n => n.scalarValue.map .scalar

def Node.value (root : Node) : Except Fault Value := do
  root.check
  root.valueWithin (root.levels + 1)

/-- The value of a document. One that says nothing, or whose value does not count as present, is an
empty mapping. -/
def documentValue (root : Option Node) : Except Fault Value :=
  match root with
  | none => .ok (.map [])
  | some n => do
    let value ← n.value
    return if value.isTruthy then value else .map []

def read (bytes : List UInt8) : Except Fault Value := do
  documentValue (← Node.ofTokens (.ofSource (.ofBytes bytes)))

end HeaderRules.Yaml

import HeaderRules.Yaml.Node.Basic
import HeaderRules.Yaml.Token.Lexer
/-!
# Nodes from tokens

Tokens are put together to the one document of a stream. Anchors name nodes for aliases behind
them, and each name is given once.
-/

namespace HeaderRules.Yaml

/-- What an anchor names: a collection that is still being read, or a node. -/
inductive Anchored
  | unfinished (isMap : Bool)
  | node (n : Node)
deriving Repr

/-- The state of putting nodes together: the tokens to come, the fault behind them, the texts that
handles of tags stand for, and the anchors so far. -/
structure Composer where
  tokens : List Token
  fault : Fault
  handles : List (String × String)
  anchors : List (String × Anchored)

abbrev Compose := StateT Composer (Except Fault)

/-- The ways in which a node may be written at some place. -/
inductive Place
  | flow
  | block
  | blockOrItems
deriving DecidableEq, Repr

structure Properties where
  anchor : Option String
  tag : Option String
deriving Repr

namespace Compose

def peek : Compose Token := do
  match (← get).tokens with
  | token :: _ => return token
  | [] => throw (← get).fault

def advance : Compose Unit := modify fun c => { c with tokens := c.tokens.drop 1 }

def sees (tokens : List Token) : Compose Bool := return tokens.contains (← peek)

def expect (token : Token) : Compose Unit := do
  if (← peek) = token then advance else throw .malformed

def accept (token : Token) : Compose Bool := do
  if (← peek) = token then
    advance
    return true
  else return false

/-! ## Properties -/

def readAnchor : Compose (Option String) := do
  match ← peek with
  | .anchor name =>
    advance
    return some name
  | _ => return none

def readTag : Compose (Option TagText) := do
  match ← peek with
  | .tag tag =>
    advance
    return some tag
  | _ => return none

def fullName (t : TagText) : Compose String := do
  match t.handle with
  | none => return t.suffix
  | some handle =>
    match (← get).handles.lookup handle with
    | some lead => return lead ++ t.suffix
    | none => throw .malformed

/-- Reads an anchor and a tag, in either order. -/
def readProperties : Compose Properties := do
  let first ← readAnchor
  let tag ← readTag
  let anchor ← if first.isNone && tag.isSome then readAnchor else pure first
  return ⟨anchor, ← tag.mapM fullName⟩

/-- The tag of a collection: its own, or the standard one. -/
def collectionTag (tag : Option String) (standard : Tag) : Tag :=
  match tag with
  | none | some "!" => standard
  | some name => .ofName name

/-- The tag of a scalar. One that names none has a tag by its text if it is plain, as has one that
is marked so. -/
def scalarTag (tag : Option String) (plain : Bool) (text : RawText) : Tag :=
  match tag with
  | none => if plain then .ofText text.patched else .text
  | some "!" => .ofText text.patched
  | some name => .ofName name

/-! ## Anchors -/

/-- Refuses an anchor that is there already. -/
def checkAnchor (anchor : Option String) : Compose Unit := do
  match anchor with
  | none => return
  | some name => if ((← get).anchors.lookup name).isSome then throw .malformed

/-- Lets an anchor name a node, or the collection that is about to be read. -/
def setAnchor (anchor : Option String) (target : Anchored) : Compose Unit :=
  match anchor with
  | none => return
  | some name => modify fun c => { c with anchors := (name, target) :: c.anchors }

def resolve (name : String) : Compose Node := do
  match (← get).anchors.lookup name with
  | none => throw .malformed
  | some (.unfinished isMap) => return .again isMap
  | some (.node n) => return n

/-- Reads a collection that an anchor may name, also inside itself. -/
def collection (anchor : Option String) (isMap : Bool) (read : Compose Node) : Compose Node := do
  checkAnchor anchor
  setAnchor anchor (.unfinished isMap)
  let node ← read
  setAnchor anchor (.node node)
  return node

def anchoredScalar (p : Properties) (plain : Bool) (text : RawText) : Compose Node := do
  checkAnchor p.anchor
  let node := Node.scalar (scalarTag p.tag plain text) text
  setAnchor p.anchor (.node node)
  return node

/-! ## Nodes -/

/-- Reads a node, unless one of the given tokens shows that it is left out. -/
def optional (absent : List Token) (read : Compose Node) : Compose Node := do
  if ← sees absent then return .empty else read

/-- The tokens before which a key or value of a block mapping is left out. -/
def blockStops : List Token := [.key, .value, .blockEnd]

mutual

def node : Nat → Place → Compose Node
  | 0, _ => throw .malformed
  | fuel + 1, place => do
    match ← peek with
    | .alias name =>
      advance
      resolve name
    | _ =>
      let p ← readProperties
      content fuel place p

/-- Reads what stands behind the properties of a node. -/
def content : Nat → Place → Properties → Compose Node
  | 0, _, _ => throw .malformed
  | fuel + 1, place, p => do
    let listTag := collectionTag p.tag .list
    let mapTag := collectionTag p.tag .map
    let inBlock := place != .flow
    match ← peek with
    | .scalar plain text =>
      advance
      anchoredScalar p plain text
    | .flowSequenceStart =>
      collection p.anchor false do
        advance
        return .sequence listTag (← flowItems fuel true)
    | .flowMappingStart =>
      collection p.anchor true do
        advance
        return .mapping mapTag (← flowEntries fuel true)
    | token =>
      if token = .blockEntry ∧ place = .blockOrItems then
        collection p.anchor false (return .sequence listTag (← plainItems fuel))
      else if token = .blockSequenceStart ∧ inBlock then
        collection p.anchor false do
          advance
          return .sequence listTag (← blockItems fuel)
      else if token = .blockMappingStart ∧ inBlock then
        collection p.anchor true do
          advance
          return .mapping mapTag (← blockEntries fuel)
      else if p.anchor.isSome || p.tag.isSome then anchoredScalar p true []
      else throw .malformed

def blockItems : Nat → Compose (List Node)
  | 0 => throw .malformed
  | fuel + 1 => do
    if ← accept .blockEntry then
      let item ← optional [.blockEntry, .blockEnd] (node fuel .block)
      return item :: (← blockItems fuel)
    else
      expect .blockEnd
      return []

/-- Reads the items of a block list that has no indentation of its own. -/
def plainItems : Nat → Compose (List Node)
  | 0 => throw .malformed
  | fuel + 1 => do
    if ← accept .blockEntry then
      let item ← optional (.blockEntry :: blockStops) (node fuel .block)
      return item :: (← plainItems fuel)
    else return []

def blockEntries : Nat → Compose NodeEntries
  | 0 => throw .malformed
  | fuel + 1 => do
    if ← accept .key then
      let key ← optional blockStops (node fuel .blockOrItems)
      let value ← blockValue fuel
      return (key, value) :: (← blockEntries fuel)
    else
      expect .blockEnd
      return []

def blockValue : Nat → Compose Node
  | 0 => throw .malformed
  | fuel + 1 => do
    if ← accept .value then optional blockStops (node fuel .blockOrItems) else return .empty

/-- Reads the items of a list between brackets, to its end. A key among them begins a mapping of
one entry. -/
def flowItems : Nat → Bool → Compose (List Node)
  | 0, _ => throw .malformed
  | fuel + 1, first => do
    if ← accept .flowSequenceEnd then return []
    if !first then expect .flowEntry
    if ← accept .flowSequenceEnd then return []
    let item ←
      if ← accept .key then
        let key ← optional [.value, .flowEntry, .flowSequenceEnd] (node fuel .flow)
        let value ← flowValue fuel .flowSequenceEnd
        pure (.mapping .map [(key, value)])
      else node fuel .flow
    return item :: (← flowItems fuel false)

/-- Reads the entries of a mapping between brackets, to its end. A key without a mark has no
value. -/
def flowEntries : Nat → Bool → Compose NodeEntries
  | 0, _ => throw .malformed
  | fuel + 1, first => do
    if ← accept .flowMappingEnd then return []
    if !first then expect .flowEntry
    if ← accept .flowMappingEnd then return []
    let entry ←
      if ← accept .key then
        let key ← optional [.value, .flowEntry, .flowMappingEnd] (node fuel .flow)
        let value ← flowValue fuel .flowMappingEnd
        pure (key, value)
      else
        let key ← node fuel .flow
        pure (key, .empty)
    return entry :: (← flowEntries fuel false)

def flowValue : Nat → Token → Compose Node
  | 0, _ => throw .malformed
  | fuel + 1, closing => do
    if ← accept .value then optional [.flowEntry, closing] (node fuel .flow) else return .empty

end

/-! ## Documents -/

def standardHandles : List (String × String) := [("!", "!"), ("!!", Tag.standard)]

/-- Reads the directives before a document and gives the handles of tags that they define. Each
handle is defined once, and the version is given once. -/
def directives : Nat → Bool → List (String × String) → Compose (List (String × String))
  | 0, _, _ => throw .malformed
  | fuel + 1, versioned, handles => do
    match ← peek with
    | .directive (.version major _) =>
      if versioned || major != 1 then throw .malformed
      advance
      directives fuel true handles
    | .directive (.tagHandle handle lead) =>
      if (handles.lookup handle).isSome then throw .malformed
      advance
      directives fuel versioned ((handle, lead) :: handles)
    | .directive .other =>
      advance
      directives fuel versioned handles
    | _ => return handles

def skipDocumentEnds : Nat → Compose Unit
  | 0 => return
  | fuel + 1 => do
    if ← accept .documentEnd then skipDocumentEnds fuel

def document (fuel : Nat) : Compose (Option Node) := do
  match ← peek with
  | .streamEnd => return none
  | .documentStart | .directive _ =>
    let handles ← directives fuel false []
    modify fun c => { c with handles := handles ++ standardHandles }
    expect .documentStart
    match ← peek with
    | .directive _ | .documentStart | .documentEnd | .streamEnd => return some .empty
    | _ => return some (← node fuel .block)
  | _ => return some (← node fuel .block)

def onlyDocument (fuel : Nat) : Compose (Option Node) := do
  let root ← document fuel
  skipDocumentEnds fuel
  match ← peek with
  | .streamEnd => return root
  | _ =>
    let _ ← directives fuel false []
    let _ ← peek
    throw .malformed

end Compose

def Node.ofTokens (s : TokenStream) : Except Fault (Option Node) :=
  let fuel := 4 * s.tokens.length + 4
  (Compose.onlyDocument fuel).run'
    { tokens := s.tokens
      fault := s.fault.getD .malformed
      handles := Compose.standardHandles
      anchors := [] }

end HeaderRules.Yaml

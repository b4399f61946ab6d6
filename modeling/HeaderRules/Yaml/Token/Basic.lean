import HeaderRules.Text.Raw
/-!
# Tokens of a document

What the text of a document is made of: marks of structure, scalars, and the properties that stand
before a node.
-/

namespace HeaderRules.Yaml

/-- A directive before a document: the version of the format, a short form for tags, or one that
is not known. -/
inductive Directive
  | version (major minor : Nat)
  | tagHandle (handle lead : String)
  | other
deriving DecidableEq, Repr

/-- A tag as written: a handle that stands for some text, if there is one, and the text behind. -/
structure TagText where
  handle : Option String
  suffix : String
deriving DecidableEq, Repr

/-- The tokens of a document. A scalar is plain when it is written without quotes. -/
inductive Token
  | directive (d : Directive)
  | documentStart
  | documentEnd
  | streamEnd
  | blockSequenceStart
  | blockMappingStart
  | blockEnd
  | flowSequenceStart
  | flowSequenceEnd
  | flowMappingStart
  | flowMappingEnd
  | blockEntry
  | flowEntry
  | key
  | value
  | alias (name : String)
  | anchor (name : String)
  | tag (t : TagText)
  | scalar (plain : Bool) (text : RawText)
deriving DecidableEq, Repr

end HeaderRules.Yaml

import HeaderRules.Calendar
import HeaderRules.Number.Integer
import HeaderRules.Number.Shortest
import HeaderRules.Text.Raw
/-!
# Document values

What a document holds: scalars, lists, mappings, and the few other shapes that a document can ask
for by name. The keys of a mapping are scalars, in the order in which they were first written.
-/

namespace HeaderRules

open HeaderRules.Number (Binary64)

inductive Scalar
  | null
  | bool (b : Bool)
  | int (n : Int)
  | float (x : Binary64)
  | text (s : String)
  | ragged (t : RaggedText)
  | bytes (bytes : List UInt8)
  | date (d : Calendar.Date)
  | moment (m : Calendar.Moment)
deriving DecidableEq, Repr

/-- Values of a document. `again` stands for a list or mapping that encloses the place where it is
written, and says no more of it than that: a value is a finite tree, and a collection that contains
itself is not followed into itself. -/
inductive Value
  | scalar (s : Scalar)
  | list (items : List Value)
  | map (entries : List (Scalar × Value))
  | set (items : List Scalar)
  | pair (first second : Value)
  | again (isMap : Bool)
deriving Repr

namespace Scalar

def typeName : Scalar → String
  | null => "NoneType"
  | bool _ => "bool"
  | int _ => "int"
  | float _ => "float"
  | text _ | ragged _ => "str"
  | bytes _ => "bytes"
  | date _ => "date"
  | moment _ => "datetime"

/-- Whether a scalar counts as present: null, false, zero and empty texts do not. -/
def isTruthy : Scalar → Bool
  | null => false
  | bool b => b
  | int n => n != 0
  | float x => !x.isZero
  | text s => s != ""
  | bytes bs => !bs.isEmpty
  | ragged _ | date _ | moment _ => true

/-- The number that a scalar is when it is used as a key: truth values are zero and one. -/
def asInt? : Scalar → Option Int
  | bool b => some (if b then 1 else 0)
  | int n => some n
  | _ => none

/-- Whether a scalar can be written out: whole numbers beyond the digit limit cannot. -/
def isWritable : Scalar → Bool
  | int n => (Nat.toDigits 10 n.natAbs).length ≤ Number.maxDigits
  | _ => true

/-- Whether two scalars are the same key. Numbers are compared by value, whatever their kind. -/
def sameKey (a b : Scalar) : Bool :=
  match a.asInt?, b.asInt? with
  | some m, some n => m == n
  | some m, none => match b with | float x => x.equalsInt m | _ => false
  | none, some n => match a with | float x => x.equalsInt n | _ => false
  | none, none =>
    match a, b with
    | float x, float y => x.same y
    | moment m, moment n => m.same n
    | a, b => a == b

/-- A scalar inside another value: texts stand between quotes. -/
def nested : Scalar → String
  | null => "None"
  | bool b => if b then "True" else "False"
  | int n => toString n
  | float x => x.text
  | text s => Text.quoted s
  | ragged t => t.val.quoted
  | bytes bs => "b" ++ Text.quotedBytes bs
  | date d => d.nested
  | moment m => m.nested

def toText : Scalar → String
  | text s => s
  | ragged t => t.val.shown
  | date d => d.text
  | moment m => m.text
  | s => s.nested

def toRaw : Scalar → RawText
  | ragged t => t
  | s => s.toText

def ofRaw (t : RawText) : Scalar := if h : t.isRagged = true then ragged ⟨t, h⟩ else text t.patched

end Scalar

namespace Value

@[match_pattern] abbrev null : Value := .scalar .null

@[match_pattern] abbrev bool (b : Bool) : Value := .scalar (.bool b)

@[match_pattern] abbrev int (n : Int) : Value := .scalar (.int n)

@[match_pattern] abbrev text (s : String) : Value := .scalar (.text s)

abbrev raw (t : RawText) : Value := .scalar (.ofRaw t)

instance : Inhabited Value := ⟨null⟩

def typeName : Value → String
  | scalar s => s.typeName
  | list _ => "list"
  | map _ => "dict"
  | set _ => "set"
  | pair .. => "tuple"
  | again isMap => if isMap then "dict" else "list"

/-- Whether a value counts as present: empty collections do not. -/
def isTruthy : Value → Bool
  | scalar s => s.isTruthy
  | list items => !items.isEmpty
  | map entries => !entries.isEmpty
  | set items => !items.isEmpty
  | pair .. | again _ => true

def lookup (entries : List (Scalar × Value)) (key : String) : Option Value :=
  (entries.find? fun e => e.1.sameKey (.text key)).map (·.2)

/-- Puts a value under a key: a key that is there keeps its place and spelling. -/
def insert (entries : List (Scalar × Value)) (key : Scalar) (value : Value) :
    List (Scalar × Value) :=
  if entries.any (·.1.sameKey key) then
    entries.map fun e => if e.1.sameKey key then (e.1, value) else e
  else entries ++ [(key, value)]

/-- The mapping that the given entries build from left to right. -/
def ofEntries (entries : List (Scalar × Value)) : List (Scalar × Value) :=
  entries.foldl (fun acc e => insert acc e.1 e.2) []

mutual

def nested : Value → String
  | .scalar s => s.nested
  | .list items => "[" ++ nestedItems items ++ "]"
  | .map entries => "\x7b" ++ nestedEntries entries ++ "\x7d"
  | .set items =>
    if items.isEmpty then "set()"
    else "\x7b" ++ String.intercalate ", " (items.map Scalar.nested) ++ "\x7d"
  | .pair a b => "(" ++ a.nested ++ ", " ++ b.nested ++ ")"
  | .again isMap => if isMap then "\x7b...\x7d" else "[...]"

def nestedItems : List Value → String
  | [] => ""
  | [v] => v.nested
  | v :: rest => v.nested ++ ", " ++ nestedItems rest

def nestedEntries : List (Scalar × Value) → String
  | [] => ""
  | [(k, v)] => k.nested ++ ": " ++ v.nested
  | (k, v) :: rest => k.nested ++ ": " ++ v.nested ++ ", " ++ nestedEntries rest

end

mutual

/-- Whether two values are the same. The order of the entries of a mapping does not count. -/
def same : Value → Value → Bool
  | .scalar a, .scalar b => a.sameKey b
  | .list xs, .list ys => sameItems xs ys
  | .map xs, .map ys => xs.length == ys.length && sameEntries xs ys
  | .set xs, .set ys => xs.length == ys.length && xs.all fun x => ys.any x.sameKey
  | .pair a b, .pair c d => a.same c && b.same d
  | _, _ => false

def sameItems : List Value → List Value → Bool
  | [], [] => true
  | x :: xs, y :: ys => x.same y && sameItems xs ys
  | _, _ => false

def sameEntries : List (Scalar × Value) → List (Scalar × Value) → Bool
  | [], _ => true
  | (k, v) :: rest, ys =>
    (match ys.find? fun e => k.sameKey e.1 with
      | some e => v.same e.2
      | none => false) && sameEntries rest ys

end

def toText : Value → String
  | scalar s => s.toText
  | v => v.nested

def toRaw : Value → RawText
  | scalar s => s.toRaw
  | v => v.nested

mutual

def isWritable : Value → Bool
  | .scalar s => s.isWritable
  | .list items => areWritable items
  | .map entries => entriesAreWritable entries
  | .set items => items.all Scalar.isWritable
  | .pair a b => a.isWritable && b.isWritable
  | .again _ => true

def areWritable : List Value → Bool
  | [] => true
  | v :: rest => v.isWritable && areWritable rest

def entriesAreWritable : List (Scalar × Value) → Bool
  | [] => true
  | (k, v) :: rest => k.isWritable && v.isWritable && entriesAreWritable rest

end

end Value

end HeaderRules

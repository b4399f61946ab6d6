import HeaderRules.Regex.Source
/-!
# What is known while a pattern is read

Besides the text that is left, reading a pattern needs to know which groups there are and which of
them may be referred to.
-/

namespace HeaderRules.Regex

/-- What the reader knows besides the text that is left: the options set so far, the named groups,
the width of each closed group (`none` for one still open), the number of groups that existed when
the outermost look-behind began, and the first place that asks for each group by number. -/
structure Reader where
  source : Source
  flags : Flags := {}
  names : List (String × Nat) := []
  widths : List (Option Width) := []
  lookbehindFrom : Option Nat := none
  asked : List (Nat × Nat) := []
deriving Repr

namespace Reader

/-- The number of groups, the whole pattern being group zero. -/
def groups (r : Reader) : Nat := r.widths.length + 1

def closedWidth? (r : Reader) (index : Nat) : Option Width :=
  match index with
  | 0 => none
  | i + 1 => (r.widths[i]?).join

/-- Refuses to refer from inside a look-behind to a group that is open or began inside it. -/
def checkLookbehind (r : Reader) (index : Nat) : Except Error Unit :=
  match r.lookbehindFrom with
  | none => return
  | some limit =>
    if (r.closedWidth? index).isNone then r.source.fail .openGroup 0
    else if limit ≤ index then r.source.fail .groupOfSameLookbehind 0
    else return

def openGroup (r : Reader) (name : Option (List Char)) : Except Error (Nat × Reader) := do
  let index := r.groups
  let opened := { r with widths := r.widths ++ [none] }
  match name with
  | none => return (index, opened)
  | some cs =>
    let key := String.ofList cs
    match r.names.lookup key with
    | some earlier => r.source.fail (.redefinedGroup key index earlier) (cs.length + 1)
    | none => return (index, { opened with names := (key, index) :: r.names })

def closeGroup (r : Reader) (index : Nat) (width : Width) : Reader :=
  { r with widths := r.widths.set (index - 1) (some width) }

end Reader

end HeaderRules.Regex

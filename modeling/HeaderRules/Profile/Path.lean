import HeaderRules.Text.Split
/-!
# The path of the profile document

The document is looked for where the caller or the environment says, else in the home directory.
Paths are used in their plain form: parts between single slashes, without empty parts and without
`.`. Parts `..` stay. A path from the root begins with one slash, or with two if it was written
with exactly two.
-/

namespace HeaderRules.ProfilePath

def isNamed (part : List Char) : Bool := part != [] && part != ['.']

/-- The slashes with which the plain form of a path begins. -/
def root (s : List Char) : List Char :=
  let slashes := (s.takeWhile (· == '/')).length
  if slashes = 0 then [] else if slashes = 2 then ['/', '/'] else ['/']

def normalize (path : String) : String :=
  let s := path.toList
  let plain := root s ++ ['/'].intercalate ((Text.split '/' s).filter isNamed)
  if plain = [] then "." else String.ofList plain

def standard : String := "~/.chheader/profiles.yaml"

/-- The path of the document, given what the caller and the environment say. An empty text in the
environment says nothing. -/
def choose (asked environment : Option String) : String :=
  match asked, environment with
  | some path, _ => normalize path
  | none, none | none, some "" => standard
  | none, some path => normalize path

end HeaderRules.ProfilePath

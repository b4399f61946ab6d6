/-!
# Splitting text

The parts of a text between separators, of which there is always one more than there are
separators.
-/

namespace HeaderRules.Text

def split (separator : Char) : List Char → List (List Char)
  | [] => [[]]
  | c :: rest =>
    if c = separator then [] :: split separator rest
    else
      match split separator rest with
      | [] => [[c]]
      | part :: more => (c :: part) :: more

end HeaderRules.Text

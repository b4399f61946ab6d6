import HeaderRules.Text.Ranges
import HeaderRules.Text.PrintableTable
import HeaderRules.Text.IdentifierTable
import HeaderRules.Text.LetterTable
/-!
# Character classes

Letters, characters that print as themselves, and names.
-/

namespace HeaderRules.Text

def isLetter (c : Char) : Bool := inRanges letterRanges c.toNat

/-- Characters that are shown as themselves inside quotes. -/
def isPrintable (c : Char) : Bool := inRanges printableRanges c.toNat

/-- A name begins with a letter or an underscore and goes on with letters, digits and marks. -/
def isIdentifier : List Char → Bool
  | [] => false
  | c :: rest =>
    inRanges identifierStartRanges c.toNat && rest.all (inRanges identifierPartRanges ·.toNat)

end HeaderRules.Text

import HeaderRules.Text.Ranges
/-!
# Blank characters

The characters that a trimmed text loses at its ends: the separators of Unicode and the controls
that act as such. Zero-width characters are not blank.
-/

namespace HeaderRules.Text

def blankRanges : List (Nat × Nat) :=
  [(0x09, 0x0D), (0x1C, 0x20), (0x85, 0x85), (0xA0, 0xA0), (0x1680, 0x1680), (0x2000, 0x200A),
   (0x2028, 0x2029), (0x202F, 0x202F), (0x205F, 0x205F), (0x3000, 0x3000)]

def isBlank (c : Char) : Bool := inRanges blankRanges c.toNat

def hasInk (s : String) : Bool := s.toList.any (!isBlank ·)

def trim (s : List Char) : List Char :=
  ((s.dropWhile isBlank).reverse.dropWhile isBlank).reverse

end HeaderRules.Text

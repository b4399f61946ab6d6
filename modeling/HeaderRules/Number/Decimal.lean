import HeaderRules.Number.Binary64
import HeaderRules.Number.Integer
/-!
# Reading decimal numerals

A written floating point number: blank characters around it, a sign, and decimal digits of any
script with a point and an exponent, or a name for infinity or for what is no number.
-/

namespace HeaderRules.Number

open HeaderRules.Text (digitValue?)

def leadingDigits (s : List Char) : List Nat × List Char :=
  let (digits, rest) := s.span fun c => (digitValue? c).isSome
  (digits.filterMap digitValue?, rest)

def ofDigitValues (digits : List Nat) : Nat := digits.foldl (fun n d => 10 * n + d) 0

def readExponent (s : List Char) : Int × List Char :=
  match s with
  | c :: rest =>
    if c = 'e' ∨ c = 'E' then
      let (negative, unsigned) := splitSign rest
      let (digits, behind) := leadingDigits unsigned
      if digits.isEmpty then (0, s) else (withSign negative (ofDigitValues digits), behind)
    else (0, s)
  | [] => (0, [])

/-- Reads the digits of a number without a sign. -/
def readMagnitude? (negative : Bool) (s : List Char) : Option (Binary64 × List Char) :=
  let (whole, rest) := leadingDigits s
  let (fraction, rest) :=
    match rest with
    | '.' :: behind => leadingDigits behind
    | _ => ([], rest)
  if whole.isEmpty && fraction.isEmpty then none
  else
    let (exponent, rest) := readExponent rest
    let number := Binary64.ofDecimal negative (ofDigitValues (whole ++ fraction))
      (exponent - fraction.length)
    some (number, rest)

/-- The names of what is not finite. -/
def named? (negative : Bool) (s : List Char) : Option (Binary64 × List Char) :=
  let lowered := s.map Char.toLower
  let behind (name : String) (x : Binary64) : Option (Binary64 × List Char) :=
    if name.toList.isPrefixOf lowered then some (x, s.drop name.length) else none
  (behind "infinity" (.infinite negative)).or
    ((behind "inf" (.infinite negative)).or (behind "nan" .nan))

def Binary64.read? (s : List Char) : Option Binary64 := do
  let (negative, unsigned) := splitSign (s.dropWhile isPadding)
  let (number, rest) ← (named? negative unsigned).or (readMagnitude? negative unsigned)
  if rest.all isPadding then some number else none

end HeaderRules.Number

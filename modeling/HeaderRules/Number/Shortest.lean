import HeaderRules.Number.Binary64
import HeaderRules.Text.Quoted
/-!
# Shortest decimals

The fewest decimal digits that read back as a given floating point number, and the text made of
them.
-/

namespace HeaderRules.Number

namespace Binary64

/-- The least and the greatest number that round to `mantissa · 2 ^ exponent`, as multiples of
`2 ^ (exponent - 2)`. Below a power of two the numbers stand closer together. -/
def roundingInterval (mantissa : Nat) (exponent : Int) : Nat × Nat :=
  let low :=
    if mantissa = twoTo 52 ∧ minExponent < exponent then 4 * mantissa - 1 else 4 * mantissa - 2
  (low, 4 * mantissa + 2)

/-- Whether `digits · 10 ^ power` rounds to `mantissa · 2 ^ exponent`; the ends of the interval do
if the mantissa is even. -/
def readsBack (mantissa : Nat) (exponent : Int) (digits : Nat) (power : Int) : Bool :=
  let (low, high) := roundingInterval mantissa exponent
  let tens := digits * tenTo power * twoTo (2 - exponent)
  let unit := tenTo (-power) * twoTo (exponent - 2)
  if mantissa % 2 = 0 then low * unit ≤ tens && tens ≤ high * unit
  else low * unit < tens && tens < high * unit

/-- The multiples of `10 ^ power` just below and just above `mantissa · 2 ^ exponent`, the nearer
one first. -/
def neighbours (mantissa : Nat) (exponent power : Int) : List Nat :=
  let num := mantissa * twoTo exponent * tenTo (-power)
  let den := twoTo (-exponent) * tenTo power
  let below := num / den
  if 2 * (num % den) < den ∨ (2 * (num % den) = den ∧ below % 2 = 0) then [below, below + 1]
  else [below + 1, below]

/-- Tries grids of more and more digits, from the one of `power` on. -/
def shortestFrom (mantissa : Nat) (exponent : Int) : Nat → Int → Nat × Int
  | 0, power => (((neighbours mantissa exponent power).head?).getD 0, power)
  | fuel + 1, power =>
    match (neighbours mantissa exponent power).find? fun d =>
        d != 0 && readsBack mantissa exponent d power with
    | some digits => (digits, power)
    | none => shortestFrom mantissa exponent fuel (power - 1)

/-- The number of decimal digits before the point of `mantissa · 2 ^ exponent`, or less than one
for the zeros after it. -/
def decimalMagnitude (mantissa : Nat) (exponent : Int) : Int :=
  let num := mantissa * twoTo exponent
  let den := twoTo (-exponent)
  if den ≤ num then (Nat.toDigits 10 (num / den)).length
  else
    let flipped : Int := (Nat.toDigits 10 (den / num)).length
    if den ≤ num * tenTo (flipped - 1) then 2 - flipped
    else 1 - flipped

/-- The fewest digits that read back, and the power of ten of the last one. -/
def shortest (mantissa : Nat) (exponent : Int) : Nat × Int :=
  shortestFrom mantissa exponent 20 (decimalMagnitude mantissa exponent)

end Binary64

/-- How decimals are laid out: which counts of digits before the point are written without an
exponent, and how many digits an exponent has at least. -/
structure DecimalLayout where
  leastPoint : Int
  greatestPoint : Int
  exponentDigits : Nat

/-- Numbers from `0.0001` up to sixteen digits are written without an exponent. -/
def plainLayout : DecimalLayout := ⟨-3, 16, 2⟩

def stripZeros (digits : List Char) : List Char :=
  (digits.reverse.dropWhile (· == '0')).reverse

/-- Digits with the point after the first `point` of them, or with an exponent. -/
def DecimalLayout.write (layout : DecimalLayout) (digits : List Char) (point : Int) : List Char :=
  if layout.leastPoint ≤ point ∧ point ≤ layout.greatestPoint then
    if point ≤ 0 then '0' :: '.' :: (List.replicate (-point).toNat '0' ++ digits)
    else
      let whole := digits.take point.toNat
      let zeros := List.replicate (point.toNat - whole.length) '0'
      let part := digits.drop point.toNat
      whole ++ zeros ++ '.' :: if part.isEmpty then ['0'] else part
  else
    let power := point - 1
    let mark := if power < 0 then '-' else '+'
    let point := if digits.length ≤ 1 then [] else '.' :: digits.drop 1
    digits.take 1 ++ point ++ 'e' :: mark ::
      Text.digitsPadded 10 layout.exponentDigits power.natAbs

def Binary64.text : Binary64 → String
  | .nan => "nan"
  | .infinite negative => if negative then "-inf" else "inf"
  | .finite negative mantissa exponent =>
    let sign := if negative then ['-'] else []
    let body :=
      if mantissa = 0 then ['0', '.', '0']
      else
        let (n, power) := Binary64.shortest mantissa exponent
        let digits := Nat.toDigits 10 n
        plainLayout.write (stripZeros digits) (digits.length + power)
    String.ofList (sign ++ body)

end HeaderRules.Number

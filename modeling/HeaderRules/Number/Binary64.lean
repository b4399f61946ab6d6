/-!
# Binary floating point

Numbers of 53 binary digits: exact values with a rounding to the nearest of them, ties to the even
mantissa. Everything is computed on whole numbers.
-/

namespace HeaderRules.Number

/-- A power of two; one for a negative exponent. -/
def twoTo (exponent : Int) : Nat := Nat.pow 2 exponent.toNat

/-- A power of ten; one for a negative exponent. -/
def tenTo (exponent : Int) : Nat := Nat.pow 10 exponent.toNat

/-- A floating point number. A finite one is `mantissa · 2 ^ exponent` with its sign; values built
by `Binary64.ofRatio` have a mantissa below `2 ^ 53` that is at least `2 ^ 52` unless the exponent
is the least one. -/
inductive Binary64
  | nan
  | infinite (negative : Bool)
  | finite (negative : Bool) (mantissa : Nat) (exponent : Int)
deriving DecidableEq, Repr

namespace Binary64

def minExponent : Int := -1074

def maxExponent : Int := 971

def zero (negative : Bool) : Binary64 := .finite negative 0 minExponent

/-- The quotient rounded to the nearest whole number, ties to even. -/
def roundQuotient (num den : Nat) : Nat :=
  let q := num / den
  let r := num % den
  if 2 * r < den then q else if den < 2 * r then q + 1 else q + q % 2

/-- The number nearest to `num / den · 2 ^ exponent`, for an exponent chosen by the caller. -/
def roundAt (negative : Bool) (num den : Nat) (exponent : Int) : Binary64 :=
  let m :=
    if 0 ≤ exponent then roundQuotient num (den * twoTo exponent)
    else roundQuotient (num * twoTo (-exponent)) den
  let (m, exponent) := if m = twoTo 53 then (twoTo 52, exponent + 1) else (m, exponent)
  if maxExponent < exponent then .infinite negative else .finite negative m exponent

def ofRatio (negative : Bool) (num den : Nat) : Binary64 :=
  if num = 0 ∨ den = 0 then zero negative
  else
    let magnitude : Int := (num.log2 : Int) - den.log2
    let low := magnitude - 53
    let wide :=
      if 0 ≤ low then den * twoTo (53 + low) ≤ num
      else den * twoTo 53 ≤ num * twoTo (-low)
    let exponent := if wide then low + 1 else low
    roundAt negative num den (max exponent minExponent)

/-- The number nearest to a decimal numeral `digits · 10 ^ exponent`. Numerals far outside the
range are decided by their length. -/
def ofDecimal (negative : Bool) (digits : Nat) (exponent : Int) : Binary64 :=
  let length : Int := (Nat.toDigits 10 digits).length
  if digits = 0 then zero negative
  else if 400 < exponent + length then .infinite negative
  else if exponent + length < -400 then zero negative
  else if 0 ≤ exponent then ofRatio negative (digits * tenTo exponent) 1
  else ofRatio negative digits (tenTo (-exponent))

def ofInt (n : Int) : Binary64 := ofRatio (n < 0) n.natAbs 1

def ofScaled (negative : Bool) (n : Nat) (exponent : Int) : Binary64 :=
  if 0 ≤ exponent then ofRatio negative (n * twoTo exponent) 1
  else ofRatio negative n (twoTo (-exponent))

def neg : Binary64 → Binary64
  | nan => nan
  | infinite n => infinite !n
  | finite n m e => finite (!n) m e

def signed (negative : Bool) (m : Nat) : Int := if negative then -m else m

def add : Binary64 → Binary64 → Binary64
  | nan, _ | _, nan => nan
  | infinite a, infinite b => if a = b then infinite a else nan
  | infinite a, _ | _, infinite a => infinite a
  | finite a m e, finite b n f =>
    let low := min e f
    let sum := signed a m * twoTo (e - low) + signed b n * twoTo (f - low)
    if sum = 0 then zero (a && b) else ofScaled (sum < 0) sum.natAbs low

def sub (a b : Binary64) : Binary64 := a.add b.neg

def mul : Binary64 → Binary64 → Binary64
  | nan, _ | _, nan => nan
  | infinite a, infinite b => infinite (a != b)
  | infinite a, finite b m _ | finite b m _, infinite a => if m = 0 then nan else infinite (a != b)
  | finite a m e, finite b n f =>
    if m * n = 0 then zero (a != b) else ofScaled (a != b) (m * n) (e + f)

/-- Whether a number is zero, of either sign. -/
def isZero : Binary64 → Bool
  | finite _ m _ => m == 0
  | _ => false

def isFinite : Binary64 → Bool
  | finite .. => true
  | _ => false

def equalsInt (x : Binary64) (n : Int) : Bool :=
  match x with
  | finite negative m e =>
    if 0 ≤ e then signed negative m * twoTo e == n
    else signed negative m == n * twoTo (-e)
  | _ => false

/-- Whether two numbers have the same value. Both zeros do, and what is no number has none. -/
def same : Binary64 → Binary64 → Bool
  | nan, _ | _, nan => false
  | infinite a, infinite b => a == b
  | finite a m e, finite b n f => (m == 0 && n == 0) || (a == b && m == n && e == f)
  | _, _ => false

def less : Binary64 → Binary64 → Bool
  | nan, _ | _, nan => false
  | infinite a, infinite b => a && !b
  | infinite a, finite .. => a
  | finite .., infinite b => !b
  | finite a m e, finite b n f =>
    let low := min e f
    signed a m * twoTo (e - low) < signed b n * twoTo (f - low)

end Binary64

end HeaderRules.Number

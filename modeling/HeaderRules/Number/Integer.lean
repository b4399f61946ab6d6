import HeaderRules.Text.Blank
import HeaderRules.Text.Digit
import HeaderRules.Text.Quoted
/-!
# Reading whole numbers

A written whole number: blank characters around it, a sign, and decimal digits of any script with
single underscores between them.
-/

namespace HeaderRules.Number

open HeaderRules.Text (isBlank digitValue?)

inductive IntegerFault
  | malformed
  | tooLong (digits : Nat)
deriving DecidableEq, Repr

/-- Numbers of more decimal digits are neither read nor written. -/
def maxDigits : Nat := 4300

def limitText : String :=
  "Exceeds the limit (" ++ toString maxDigits ++ " digits) for integer string conversion"

def limitAdvice : String := "; use sys.set_int_max_str_digits() to increase the limit"

def tooLongToRead (digits : Nat) : String :=
  limitText ++ ": value has " ++ toString digits ++ " digits" ++ limitAdvice

def tooLongToWrite : String := limitText ++ limitAdvice

/-- The length to which a text that is no number is shown. -/
def shownLength : Nat := 200

def malformedMessage (base : Nat) (text : String) : String :=
  "invalid literal for int() with base " ++ toString base ++ ": " ++
    String.ofList ((Text.quoted text).toList.take shownLength)

def IntegerFault.message (text : String) : IntegerFault → String
  | malformed => malformedMessage 10 text
  | tooLong digits => tooLongToRead digits

/-- Blank characters that may stand around a number; the ASCII separators between records do not
count. -/
def isPadding (c : Char) : Bool := isBlank c && !(0x1C ≤ c.toNat && c.toNat ≤ 0x1F)

/-- The values of digits with single underscores between them; `afterDigit` tells that an
underscore may come next. -/
def digitGroups (afterDigit : Bool) : List Char → Option (List Nat)
  | [] => if afterDigit then some [] else none
  | c :: rest =>
    if c = '_' then if afterDigit then digitGroups false rest else none
    else do
      let value ← digitValue? c
      let values ← digitGroups true rest
      return value :: values

/-- The value of a digit in a base: an ASCII digit or letter, or a decimal digit of any script. -/
def baseDigit? (base : Nat) (c : Char) : Option Nat :=
  match Text.digitIn? base c with
  | some value => some value
  | none => (digitValue? c).filter (· < base)

/-- The letter that may stand behind a zero in front of digits of a base. -/
def baseLetter? (base : Nat) : Option (List Char) :=
  if base = 16 then some ['x', 'X']
  else if base = 8 then some ['o', 'O']
  else if base = 2 then some ['b', 'B']
  else none

/-- The digits behind a zero and the letter of the base, if a number begins so. -/
def dropBaseMark (base : Nat) : List Char → List Char
  | '0' :: letter :: rest =>
    if (baseLetter? base).any (·.contains letter) then rest else '0' :: letter :: rest
  | s => s

def splitSign : List Char → Bool × List Char
  | '-' :: rest => (true, rest)
  | '+' :: rest => (false, rest)
  | s => (false, s)

def withSign (negative : Bool) (n : Nat) : Int := if negative then -(n : Int) else n

/-- Reads a whole number without underscores in base two, eight or sixteen. -/
def readInBase? (base : Nat) (s : List Char) : Option Int := do
  let (negative, unsigned) := splitSign (s.dropWhile isPadding)
  let (digits, rest) := (dropBaseMark base unsigned).span fun c => (baseDigit? base c).isSome
  let values ← digits.mapM (baseDigit? base)
  if values.isEmpty || !rest.all isPadding then none
  else some (withSign negative (values.foldl (fun n d => base * n + d) 0))

def readInteger (s : List Char) : Except IntegerFault Int := do
  let (negative, unsigned) := splitSign (s.dropWhile isPadding)
  let (digits, rest) := unsigned.span fun c => c == '_' || (digitValue? c).isSome
  match digitGroups false digits with
  | none => throw .malformed
  | some values =>
    if maxDigits < values.length then throw (.tooLong values.length)
    else if !rest.all isPadding then throw .malformed
    else return withSign negative (values.foldl (fun n d => 10 * n + d) 0)

end HeaderRules.Number

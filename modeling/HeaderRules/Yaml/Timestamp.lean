import HeaderRules.Text.Digit
import HeaderRules.Value
import HeaderRules.Yaml.Fault
/-!
# Written dates and times

The ways of writing a day, or a moment with an offset from universal time.
-/

namespace HeaderRules.Yaml

open HeaderRules.Calendar (Date Moment)

/-- A written time of day; the offset counts minutes, and universal time may be written by its
letter. -/
structure WrittenTime where
  hour : Nat
  minute : Nat
  second : Nat
  fraction : List Char
  offset : Option Int
deriving DecidableEq, Repr

/-- A written date; it is padded when the month and the day have two digits each. -/
structure Timestamp where
  year : Nat
  month : Nat
  day : Nat
  padded : Bool
  time : Option WrittenTime
deriving DecidableEq, Repr

namespace Timestamp

/-- Reads a number of `least` to `most` digits. -/
def number? (least most : Nat) (s : List Char) : Option (List Char × List Char) :=
  let digits := (s.take most).takeWhile Char.isDigit
  if digits.length < least then none else some (digits, s.drop digits.length)

def expect? (c : Char) (s : List Char) : Option (List Char) :=
  if s.head? = some c then some s.tail else none

def spelled (digits : List Char) : Nat := Text.ofDigits 10 digits

def blankOrTab (c : Char) : Bool := c == ' ' || c == '\t'

/-- Reads an offset to the end of the text. -/
def offset? (s : List Char) : Option (Option Int) :=
  if s = [] then some none
  else
    match s.dropWhile blankOrTab with
    | ['Z'] => some (some 0)
    | sign :: rest =>
      if sign = '+' ∨ sign = '-' then do
        let (hours, rest) ← number? 1 2 rest
        let minutes ← if rest = [] then some [] else do
          let (minutes, rest) ← number? 2 2 (← expect? ':' rest)
          if rest = [] then some minutes else none
        let distance : Int := spelled hours * 60 + spelled minutes
        return some (if sign = '-' then -distance else distance)
      else none
    | [] => none

def time? (s : List Char) : Option WrittenTime := do
  let (hour, s) ← number? 1 2 s
  let (minute, s) ← number? 2 2 (← expect? ':' s)
  let (second, s) ← number? 2 2 (← expect? ':' s)
  let (fraction, s) :=
    match s with
    | '.' :: rest => rest.span Char.isDigit
    | _ => ([], s)
  return ⟨spelled hour, spelled minute, spelled second, fraction, ← offset? s⟩

/-- Reads what stands behind a date: nothing, or a mark or blanks and a time of day. -/
def timePart? (s : List Char) : Option (Option WrittenTime) :=
  match s with
  | [] => some none
  | c :: rest =>
    if c = 'T' ∨ c = 't' then (time? rest).map some
    else if blankOrTab c then (time? (rest.dropWhile blankOrTab)).map some
    else none

def read? (s : List Char) : Option Timestamp := do
  let (year, s) ← number? 4 4 s
  let (month, s) ← number? 1 2 (← expect? '-' s)
  let (day, s) ← number? 1 2 (← expect? '-' s)
  let time ← timePart? s
  return ⟨spelled year, spelled month, spelled day, month.length == 2 && day.length == 2, time⟩

/-- Microseconds from the digits of a fraction, of which six count. -/
def microseconds (fraction : List Char) : Nat :=
  let digits := fraction.take 6
  spelled digits * Number.tenTo (6 - digits.length)

/-- The day or moment of a timestamp. The offset is checked before the day. -/
def toScalar (t : Timestamp) : Except Calendar.Fault Scalar := do
  match t.time with
  | none => return .date (← Date.of? t.year t.month t.day)
  | some time =>
    let offset ← time.offset.mapM Calendar.checkOffset
    let date ← Date.of? t.year t.month t.day
    return .moment (← Moment.of? date time.hour time.minute time.second
      (microseconds time.fraction) offset)

end Timestamp

end HeaderRules.Yaml

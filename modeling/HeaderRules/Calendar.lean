import HeaderRules.Text.Quoted
/-!
# Dates and times

Days of the calendar and moments with a time of day, as documents write them. A moment may carry
the distance of its clock from universal time.
-/

namespace HeaderRules.Calendar

structure Date where
  year : Nat
  month : Nat
  day : Nat
deriving DecidableEq, Repr

/-- A day with a time; the offset counts minutes east of universal time. -/
structure Moment where
  date : Date
  hour : Nat
  minute : Nat
  second : Nat
  microsecond : Nat
  offset : Option Int
deriving DecidableEq, Repr

inductive Fault
  | year (year : Nat)
  | month
  | day
  | hour
  | minute
  | second
  | offset (minutes : Int)
deriving DecidableEq, Repr

def isLeap (year : Nat) : Bool := year % 4 == 0 && (year % 100 != 0 || year % 400 == 0)

def daysIn (year month : Nat) : Nat :=
  if month = 2 then if isLeap year then 29 else 28
  else if month = 4 ∨ month = 6 ∨ month = 9 ∨ month = 11 then 30
  else 31

def Date.of? (year month day : Nat) : Except Fault Date :=
  if year < 1 ∨ 9999 < year then .error (.year year)
  else if month < 1 ∨ 12 < month then .error .month
  else if day < 1 ∨ daysIn year month < day then .error .day
  else .ok ⟨year, month, day⟩

/-- Refuses an offset of a day or more. -/
def checkOffset (minutes : Int) : Except Fault Int :=
  if minutes ≤ -1440 ∨ 1440 ≤ minutes then .error (.offset minutes) else .ok minutes

def Moment.of? (date : Date) (hour minute second microsecond : Nat) (offset : Option Int) :
    Except Fault Moment :=
  if 23 < hour then .error .hour
  else if 59 < minute then .error .minute
  else if 59 < second then .error .second
  else .ok ⟨date, hour, minute, second, microsecond, offset⟩

def two (n : Nat) : String := String.ofList (Text.digitsPadded 10 2 n)

def Date.text (d : Date) : String :=
  String.ofList (Text.digitsPadded 10 4 d.year) ++ "-" ++ two d.month ++ "-" ++ two d.day

def offsetText (minutes : Int) : String :=
  (if minutes < 0 then "-" else "+") ++ two (minutes.natAbs / 60) ++ ":" ++
    two (minutes.natAbs % 60)

def Moment.text (m : Moment) : String :=
  m.date.text ++ " " ++ two m.hour ++ ":" ++ two m.minute ++ ":" ++ two m.second ++
    (if m.microsecond = 0 then ""
      else "." ++ String.ofList (Text.digitsPadded 10 6 m.microsecond)) ++
    (m.offset.map offsetText).getD ""

/-- A length of time in days and seconds, as shown inside other values. -/
def durationText (minutes : Int) : String :=
  let days := minutes.fdiv 1440
  let seconds := minutes.fmod 1440 * 60
  let parts := (if days = 0 then [] else ["days=" ++ toString days]) ++
    (if seconds = 0 then [] else ["seconds=" ++ toString seconds])
  "datetime.timedelta(" ++ (if parts.isEmpty then "0" else String.intercalate ", " parts) ++ ")"

def Date.nested (d : Date) : String :=
  "datetime.date(" ++ toString d.year ++ ", " ++ toString d.month ++ ", " ++ toString d.day ++ ")"

/-- A moment inside another value; a time of day drops its seconds when they are zero. -/
def Moment.nested (m : Moment) : String :=
  let fields := [m.date.year, m.date.month, m.date.day, m.hour, m.minute] ++
    (if m.microsecond ≠ 0 then [m.second, m.microsecond]
      else if m.second ≠ 0 then [m.second] else [])
  let zone := match m.offset with
    | none => ""
    | some 0 => ", tzinfo=datetime.timezone.utc"
    | some minutes => ", tzinfo=datetime.timezone(" ++ durationText minutes ++ ")"
  "datetime.datetime(" ++ String.intercalate ", " (fields.map toString) ++ zone ++ ")"

/-- Days of all years before the given one. -/
def daysBefore (year : Nat) : Int :=
  let y : Int := year - 1
  y * 365 + y / 4 - y / 100 + y / 400

/-- The number of a day, counted from the first day of year one. -/
def Date.number (d : Date) : Int :=
  let before := (List.range (d.month - 1)).foldl (fun days m => days + daysIn d.year (m + 1)) 0
  daysBefore d.year + before + d.day

/-- Whether two moments are the same. Moments with an offset are compared in universal time and
never equal one without. -/
def Moment.same (a b : Moment) : Bool :=
  let instant (m : Moment) (offset : Int) : Int × Nat :=
    ((m.date.number * 1440 + m.hour * 60 + m.minute - offset) * 60 + m.second, m.microsecond)
  match a.offset, b.offset with
  | none, none => a == b
  | some x, some y => instant a x == instant b y
  | _, _ => false

def Fault.message : Fault → String
  | year y => "year " ++ toString y ++ " is out of range"
  | month => "month must be in 1..12"
  | day => "day is out of range for month"
  | hour => "hour must be in 0..23"
  | minute => "minute must be in 0..59"
  | second => "second must be in 0..59"
  | offset minutes =>
    "offset must be a timedelta strictly between -timedelta(hours=24) and " ++
      "timedelta(hours=24), not " ++
      durationText minutes ++ "."

end HeaderRules.Calendar

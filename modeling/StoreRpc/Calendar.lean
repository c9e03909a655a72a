/-!
Seconds since 1970 as dates and times of the Gregorian calendar.

Days are counted from 1 January 1601. That year begins a cycle of 400 years, so that every cycle of
400, 100, 4 and 1 years has its leap day, if it has one, at its end. The calendar goes back before
1601 as it goes on afterwards, but not for ever.
-/

namespace StoreRpc.Calendar

@[ext]
structure Date where
  year : Int
  month : Nat
  day : Nat
  deriving DecidableEq, Repr

/-- A date with its day of the week, counted from Monday, and a time of that day. -/
structure Moment where
  date : Date
  weekday : Nat
  hour : Nat
  minute : Nat
  second : Nat
  deriving DecidableEq, Repr

/-! ### Dates -/

def isLeap (year : Int) : Bool := year % 4 = 0 && (year % 100 != 0 || year % 400 = 0)

/-- The lengths of the months. -/
def monthLengths (leap : Bool) : List Nat :=
  [31, if leap then 29 else 28, 31, 30, 31, 30, 31, 31, 30, 31, 30, 31]

/-- The month and the day of it, counting months from `month` on and days from 0. -/
def inMonths (month : Nat) : List Nat → Nat → Nat × Nat
  | [], d => (month, d + 1)
  | n :: rest, d => if d < n then (month, d + 1) else inMonths (month + 1) rest (d - n)

/-- The year of the day `d` after 1 January 1601, and how many days of it went before. -/
def yearOf (d : Int) : Int × Nat :=
  let c400 := d / 146097
  let d := (d % 146097).toNat
  let c100 := min (d / 36524) 3
  let d := d - c100 * 36524
  let c4 := d / 1461
  let d := d % 1461
  let c1 := min (d / 365) 3
  (1601 + 400 * c400 + (100 * c100 + 4 * c4 + c1 : Nat), d - c1 * 365)

/-- The date `d` days after 1 January 1601. -/
def Date.ofDays (d : Int) : Date :=
  let (year, dayOfYear) := yearOf d
  let (month, day) := inMonths 1 (monthLengths (isLeap year)) dayOfYear
  ⟨year, month, day⟩

/-- The first and the last year of the calendar. -/
def firstYear : Int := -262143
def lastYear : Int := 262142

/-- The day on which 1970 begins. -/
def unixDay : Int := 134774

/-- The date and time `s` seconds after the beginning of 1970, if the calendar has them.
1 January 1601 was a Monday. -/
def Moment.ofUnix? (s : Int64) : Option Moment :=
  let d := unixDay + s.toInt / 86400
  let t := (s.toInt % 86400).toNat
  let date := Date.ofDays d
  if firstYear ≤ date.year ∧ date.year ≤ lastYear then
    some ⟨date, (d % 7).toNat, t / 3600, t / 60 % 60, t % 60⟩
  else none

/-! ### Texts -/

def weekdayNames : List String := ["Mon", "Tue", "Wed", "Thu", "Fri", "Sat", "Sun"]

def monthNames : List String :=
  ["Jan", "Feb", "Mar", "Apr", "May", "Jun", "Jul", "Aug", "Sep", "Oct", "Nov", "Dec"]

/-- A number in at least `width` places, filled up on the left. -/
def filled (width : Nat) (fill : Char) (n : Nat) : String :=
  let ds := Nat.toDigits 10 n
  String.ofList (List.replicate (width - ds.length) fill ++ ds)

/-- A year in at least four places, with a sign if there are more of them or it is negative. -/
def yearText (year : Int) : String :=
  let sign := if year < 0 then "-" else if year < 10000 then "" else "+"
  sign ++ filled 4 '0' year.natAbs

def Moment.text (m : Moment) : String :=
  let clock := ":".intercalate [filled 2 '0' m.hour, filled 2 '0' m.minute, filled 2 '0' m.second]
  " ".intercalate
    [weekdayNames.getD m.weekday "", monthNames.getD (m.date.month - 1) "",
      filled 2 ' ' m.date.day, clock, yearText m.date.year]

end StoreRpc.Calendar

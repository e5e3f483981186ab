import SqlAdvice.Number.Decimal

/-!
# Dates and times

A document may hold dates, and times of a date with or without an offset from universal time. Both
are read from numbers that have to be in range (`Date.ofNumbers?`, `DateTime.ofNumbers?`), and each
has two spellings: `text` as it reads on its own, and `shown` as it appears inside a message.

Two times with offsets are the same when they name the same instant, whatever their offsets.
-/

namespace SqlAdvice

open SqlAdvice.Number

/-! ## Dates -/

/-- Tells whether a year has a day more. -/
def isLeapYear (year : Nat) : Bool :=
  year % 4 == 0 && (year % 100 != 0 || year % 400 == 0)

/-- The number of days of a month. -/
def daysInMonth (year month : Nat) : Nat :=
  if month == 2 then if isLeapYear year then 29 else 28
  else if [4, 6, 9, 11].contains month then 30
  else 31

/-- The number of days from the first of a year through its month of a given number. -/
def daysThrough (year : Nat) : Nat → Nat
  | 0 => 0
  | month + 1 => daysThrough year month + daysInMonth year (month + 1)

/-- A day of the years from 1 to 9999. -/
structure Date where
  year : Nat
  month : Nat
  day : Nat
  year_mem : 1 ≤ year ∧ year ≤ 9999
  month_mem : 1 ≤ month ∧ month ≤ 12
  day_mem : 1 ≤ day ∧ day ≤ daysInMonth year month
  deriving DecidableEq

/-- A number with zeros in front, up to a number of digits. -/
def zeroPadded (width n : Nat) : String :=
  let ds := natDigits n
  String.ofList (List.replicate (width - ds.length) '0' ++ ds)

namespace Date

/-- The date with given numbers, where they are in range. -/
def ofNumbers? (year month day : Nat) : Option Date :=
  if h : (1 ≤ year ∧ year ≤ 9999) ∧ (1 ≤ month ∧ month ≤ 12) ∧
      (1 ≤ day ∧ day ≤ daysInMonth year month) then
    some ⟨year, month, day, h.1, h.2.1, h.2.2⟩
  else none

/-- The number of days up to a date, counted from the first day of the year 1. -/
def ordinal (d : Date) : Nat :=
  let before := d.year - 1
  365 * before + before / 4 - before / 100 + before / 400 + daysThrough d.year (d.month - 1) + d.day

/-- A date as it reads on its own. -/
def text (d : Date) : String :=
  zeroPadded 4 d.year ++ "-" ++ zeroPadded 2 d.month ++ "-" ++ zeroPadded 2 d.day

/-- The numbers of a date, with commas between them. -/
def listed (d : Date) : String :=
  ", ".intercalate ([d.year, d.month, d.day].map decimalNat)

/-- A date inside a message. -/
def shown (d : Date) : String :=
  "datetime.date(" ++ d.listed ++ ")"

end Date

/-! ## Times -/

/-- A time of a date. The offset from universal time is in minutes. -/
structure DateTime where
  date : Date
  hour : Nat
  minute : Nat
  second : Nat
  microsecond : Nat
  offset : Option Int
  hour_lt : hour < 24
  minute_lt : minute < 60
  second_lt : second < 60
  microsecond_lt : microsecond < 1000000
  offset_lt : ∀ o ∈ offset, o.natAbs < 1440
  deriving DecidableEq

namespace DateTime

/-- The time with given numbers, where they are in range. -/
def ofNumbers? (date : Date) (hour minute second microsecond : Nat) (offset : Option Int) :
    Option DateTime :=
  if h : hour < 24 ∧ minute < 60 ∧ second < 60 ∧ microsecond < 1000000 ∧
      ∀ o ∈ offset, o.natAbs < 1440 then
    some ⟨date, hour, minute, second, microsecond, offset, h.1, h.2.1, h.2.2.1, h.2.2.2.1,
      h.2.2.2.2⟩
  else none

/-- The microseconds up to a time, counted from the year 1 in universal time. A time without an
offset is taken as it is. -/
def instant (t : DateTime) : Int :=
  let minutes : Int := 1440 * t.date.ordinal + 60 * t.hour + t.minute - t.offset.getD 0
  (60 * minutes + t.second) * 1000000 + t.microsecond

/-- Two times are the same instant. A time with an offset is never one without. -/
def isSame (a b : DateTime) : Bool :=
  a.offset.isSome == b.offset.isSome && a.instant == b.instant

/-- An offset behind a time. -/
def offsetText (offset : Int) : String :=
  (if offset < 0 then "-" else "+") ++ zeroPadded 2 (offset.natAbs / 60) ++ ":" ++
    zeroPadded 2 (offset.natAbs % 60)

/-- A time as it reads on its own. -/
def text (t : DateTime) : String :=
  t.date.text ++ " " ++ zeroPadded 2 t.hour ++ ":" ++ zeroPadded 2 t.minute ++ ":" ++
    zeroPadded 2 t.second ++
    (if t.microsecond == 0 then "" else "." ++ zeroPadded 6 t.microsecond) ++
    t.offset.elim "" offsetText

/-- An offset inside a message: days, which are negative west of universal time, and seconds. -/
def offsetShown (offset : Int) : String :=
  if offset == 0 then "datetime.timezone.utc"
  else
    let days := if offset < 0 then ["days=-1"] else []
    let seconds := ["seconds=" ++ decimal (Int.fmod offset 1440 * 60)]
    "datetime.timezone(datetime.timedelta(" ++ ", ".intercalate (days ++ seconds) ++ "))"

/-- A time inside a message. Seconds are left out where there are none, and so are microseconds. -/
def shown (t : DateTime) : String :=
  let seconds := if t.microsecond == 0 then
    if t.second == 0 then [] else [t.second] else [t.second, t.microsecond]
  let numbers := [t.hour, t.minute] ++ seconds
  "datetime.datetime(" ++ t.date.listed ++ ", " ++ ", ".intercalate (numbers.map decimalNat) ++
    t.offset.elim "" (", tzinfo=" ++ offsetShown ·) ++ ")"

end DateTime

end SqlAdvice

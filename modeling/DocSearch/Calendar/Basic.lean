namespace DocSearch

/-! Days of the proleptic Gregorian calendar, times of day with leap seconds, and times with an
offset from universal time. Two timestamps are the same when they denote the same instant. -/

def isLeapYear (year : Int) : Bool :=
  year % 4 == 0 && (year % 100 != 0 || year % 400 == 0)

def daysInMonth (year : Int) (month : Nat) : Nat :=
  match month with
  | 4 | 6 | 9 | 11 => 30
  | 2 => if isLeapYear year then 29 else 28
  | _ => 31

structure Date where
  year : Int
  month : Nat
  day : Nat
  month_mem : 1 ≤ month ∧ month ≤ 12
  day_mem : 1 ≤ day ∧ day ≤ daysInMonth year month
  deriving DecidableEq

/-- A time of day. A leap second is the second 59 with a second or more of nanoseconds. -/
structure TimeOfDay where
  hour : Nat
  minute : Nat
  second : Nat
  nanos : Nat
  hour_lt : hour < 24
  minute_lt : minute < 60
  second_lt : second < 60
  nanos_lt : nanos < 1000000000 ∨ (nanos < 2000000000 ∧ second = 59)
  deriving DecidableEq

structure DateTime where
  date : Date
  time : TimeOfDay
  deriving DecidableEq

/-- A local time and how many seconds it is ahead of universal time, less than a day either way. -/
structure Timestamp where
  clock : DateTime
  offset : Int
  offset_mem : -86400 < offset ∧ offset < 86400

namespace Date

def of? (year : Int) (month day : Nat) : Option Date :=
  if h : (1 ≤ month ∧ month ≤ 12) ∧ (1 ≤ day ∧ day ≤ daysInMonth year month) then
    some ⟨year, month, day, h.1, h.2⟩
  else none

def daysBeforeMonth (year : Int) (month : Nat) : Nat :=
  ((List.range month).drop 1).foldl (fun days m => days + daysInMonth year m) 0

/-- Days since the last day before the year one. -/
def dayNumber (d : Date) : Int :=
  let y := d.year - 1
  365 * y + y / 4 - y / 100 + y / 400 + daysBeforeMonth d.year d.month + d.day

end Date

namespace TimeOfDay

def of? (hour minute second nanos : Nat) : Option TimeOfDay :=
  if h : hour < 24 ∧ minute < 60 ∧ second < 60 ∧
      (nanos < 1000000000 ∨ (nanos < 2000000000 ∧ second = 59)) then
    some ⟨hour, minute, second, nanos, h.1, h.2.1, h.2.2.1, h.2.2.2⟩
  else none

/-- Seconds since midnight; a leap second counts with the second before it. -/
def secondOfDay (t : TimeOfDay) : Nat := t.hour * 3600 + t.minute * 60 + t.second

end TimeOfDay

namespace DateTime

def secondNumber (dt : DateTime) : Int := dt.date.dayNumber * 86400 + dt.time.secondOfDay

end DateTime

namespace Timestamp

def of? (clock : DateTime) (offset : Int) : Option Timestamp :=
  if h : -86400 < offset ∧ offset < 86400 then some ⟨clock, offset, h⟩ else none

def instant (ts : Timestamp) : Int × Nat :=
  (ts.clock.secondNumber - ts.offset, ts.clock.time.nanos)

def sameInstant (a b : Timestamp) : Bool := a.instant == b.instant

end Timestamp

end DocSearch

import DocSearch.Calendar.Basic

namespace DocSearch

/-! The texts follow ISO 8601. A fraction has six digits and is written where the nanoseconds are
not zero; what it cannot hold is cut off. An offset is rounded to the minute. -/

/-- A number in at least `width` digits. -/
def padded (width n : Nat) : String :=
  let digits := Nat.repr n
  String.ofList (List.replicate (width - digits.length) '0') ++ digits

/-- Four digits, or a sign and at least four. -/
def yearText (year : Int) : String :=
  if 0 ≤ year ∧ year ≤ 9999 then padded 4 year.toNat
  else (if year < 0 then "-" else "+") ++ padded 4 year.natAbs

def Date.text (d : Date) : String :=
  yearText d.year ++ "-" ++ padded 2 d.month ++ "-" ++ padded 2 d.day

namespace TimeOfDay

/-- The second as shown, sixty in a leap second. -/
def shownSecond (t : TimeOfDay) : Nat := t.second + t.nanos / 1000000000

def micros (t : TimeOfDay) : Nat := t.nanos % 1000000000 / 1000

def text (t : TimeOfDay) : String :=
  padded 2 t.hour ++ ":" ++ padded 2 t.minute ++ ":" ++ padded 2 t.shownSecond ++
    if t.nanos = 0 then "" else "." ++ padded 6 t.micros

end TimeOfDay

def DateTime.text (dt : DateTime) : String := dt.date.text ++ "T" ++ dt.time.text

/-- Hours and minutes of an offset; thirty seconds round away from zero. -/
def offsetText (offset : Int) : String :=
  let minutes := (offset.natAbs + 30) / 60
  (if offset < 0 then "-" else "+") ++ padded 2 (minutes / 60) ++ ":" ++ padded 2 (minutes % 60)

def Timestamp.text (ts : Timestamp) : String := ts.clock.text ++ offsetText ts.offset

end DocSearch

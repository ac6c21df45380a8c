import DocSearch.Bound
import DocSearch.Settings.Toml.Moment

namespace DocSearch

open Toml (fixed? after?)

/-! Dates and times are read back from their texts. A text tells a date from a time on a date, and
of the nanoseconds it tells the microseconds and whether there are any. -/

/-- A time of day as a text shows it. The second sixty is a leap second. -/
structure ShownTime where
  hour : Nat
  minute : Nat
  second : Nat
  /-- The microseconds, where a fraction is written. -/
  micros : Option Nat
  hour_lt : hour < 24
  minute_lt : minute < 60
  second_le : second ≤ 60
  micros_lt : ∀ n ∈ micros, n < 1000000

/-- What the text of a calendar says: a date, a time on a date, or such a time so many seconds
ahead of universal time. -/
inductive Reading where
  | date (date : Date)
  | dateTime (date : Date) (time : ShownTime)
  | timestamp (date : Date) (time : ShownTime) (offset : Int)

namespace ShownTime

def of? (hour minute second : Nat) (micros : Option Nat) : Option ShownTime :=
  if h : (hour < 24 ∧ minute < 60) ∧ second ≤ 60 ∧ ∀ n ∈ micros, n < 1000000 then
    some ⟨hour, minute, second, micros, h.1.1, h.1.2, h.2.1, h.2.2⟩
  else none

end ShownTime

/-- The time as its text shows it. -/
def TimeOfDay.shown (t : TimeOfDay) : ShownTime where
  hour := t.hour
  minute := t.minute
  second := t.shownSecond
  micros := if t.nanos = 0 then none else some t.micros
  hour_lt := t.hour_lt
  minute_lt := t.minute_lt
  second_le := by
    have lower := t.second_lt
    have leap := t.nanos_lt
    unfold shownSecond
    omega
  micros_lt := by
    intro n member
    split at member
    · cases member
    · cases member
      unfold TimeOfDay.micros
      omega

namespace Reading

/-- A year in four digits, or in four or more behind a sign. -/
def year? : List Char → Option (Int × List Char)
  | '-' :: text => (signed? text).map fun (n, rest) => (-(n : Int), rest)
  | '+' :: text => (signed? text).map fun (n, rest) => ((n : Int), rest)
  | text => (fixed? 4 text).map fun (n, rest) => ((n : Int), rest)
where
  signed? (text : List Char) : Option (Nat × List Char) :=
    fixed? (max 4 (text.takeWhile Char.isDigit).length) text

def date? (text : List Char) : Option (Date × List Char) := do
  let (year, rest) ← year? text
  let (month, rest) ← fixed? 2 (← after? '-' rest)
  let (day, rest) ← fixed? 2 (← after? '-' rest)
  let d ← Date.of? year month day
  return (d, rest)

/-- The microseconds behind a point, if there is one. -/
def fraction? : List Char → Option (Option Nat × List Char)
  | '.' :: text => (fixed? 6 text).map fun (n, rest) => (some n, rest)
  | text => some (none, text)

def time? (text : List Char) : Option (ShownTime × List Char) := do
  let (hour, rest) ← fixed? 2 text
  let (minute, rest) ← fixed? 2 (← after? ':' rest)
  let (second, rest) ← fixed? 2 (← after? ':' rest)
  let (micros, rest) ← fraction? rest
  let time ← ShownTime.of? hour minute second micros
  return (time, rest)

/-- Seconds ahead of universal time, written in hours and minutes; less than a day either way. -/
def offset? : List Char → Option (Int × List Char)
  | '-' :: text => (clock? text).map fun (n, rest) => (-(n : Int), rest)
  | '+' :: text => (clock? text).map fun (n, rest) => ((n : Int), rest)
  | _ => none
where
  clock? (text : List Char) : Option (Nat × List Char) := do
    let (hour, rest) ← fixed? 2 text
    let (minute, rest) ← fixed? 2 (← after? ':' rest)
    if hour < 24 ∧ minute < 60 then some (hour * 3600 + minute * 60, rest) else none

/-- What is left after a time: nothing or an offset. -/
def ofTime? (d : Date) (time : ShownTime) (text : List Char) : Option Reading :=
  if text = [] then some (.dateTime d time)
  else
    match offset? text with
    | some (offset, []) => some (.timestamp d time offset)
    | _ => none

def of? (text : String) : Option Reading := do
  let (d, rest) ← date? text.toList
  if rest = [] then some (.date d)
  else
    let (time, rest) ← time? (← after? 'T' rest)
    ofTime? d time rest

end Reading

/-! Digits are read as the number they were written for. -/

theorem Numeral.digit?_of_isDigit {c : Char} (digit : c.isDigit = true) :
    digit? 10 c = some (c.toNat - '0'.toNat) := by
  obtain ⟨lower, upper⟩ := Char.isDigit_iff_toNat.mp digit
  have between : '0' ≤ c ∧ c ≤ '9' := ⟨lower, upper⟩
  have small : c.toNat - 48 < 10 := by
    have upper : c.toNat ≤ 57 := upper
    omega
  simp [digit?, between, small]

theorem Numeral.valueFrom?_of_isDigit {digits : List Char} (start : Nat)
    (all : ∀ c ∈ digits, c.isDigit = true) :
    valueFrom? 10 start digits = some (Nat.ofDigitChars 10 digits start) := by
  induction digits generalizing start with
  | nil => rfl
  | cons c rest ih =>
      have first := digit?_of_isDigit (all c List.mem_cons_self)
      have others := ih (start * 10 + (c.toNat - '0'.toNat)) fun d member =>
        all d (List.mem_cons_of_mem c member)
      rw [valueFrom?, first, Option.bind_some, others, Nat.ofDigitChars_cons, Nat.mul_comm]

theorem fixed?_of_isDigit {digits : List Char} (some : digits ≠ [])
    (all : ∀ c ∈ digits, c.isDigit = true) (rest : List Char) :
    fixed? digits.length (digits ++ rest) = .some (Nat.ofDigitChars 10 digits 0, rest) := by
  have value : Numeral.value? 10 digits = .some (Nat.ofDigitChars 10 digits 0) := by
    rw [Numeral.value?, if_neg (by simpa using some), Numeral.valueFrom?_of_isDigit 0 all]
  have digit : digits.all Char.isDigit = true := List.all_eq_true.mpr all
  simp [fixed?, digit, value]

variable {width n : Nat}

theorem toList_padded (width n : Nat) : (padded width n).toList =
    List.replicate (width - (Nat.toDigits 10 n).length) '0' ++ Nat.toDigits 10 n := by
  have length : (Nat.repr n).length = (Nat.toDigits 10 n).length := by
    rw [← String.length_toList, Nat.toList_repr]
  simp only [padded, String.toList_append, String.toList_ofList, Nat.toList_repr, length]

theorem isDigit_of_mem_padded {c : Char} (member : c ∈ (padded width n).toList) :
    c.isDigit = true := by
  rw [toList_padded, List.mem_append] at member
  cases member with
  | inl zero => exact (List.mem_replicate.mp zero).2 ▸ rfl
  | inr digit => exact Nat.isDigit_of_mem_toDigits (by decide) (by decide) digit

theorem padded_ne_nil : (padded width n).toList ≠ [] := by
  simp [toList_padded]

theorem length_padded : (padded width n).toList.length = max width (Nat.toDigits 10 n).length := by
  simp only [toList_padded, List.length_append, List.length_replicate]
  omega

theorem length_padded_of_lt (fits : n < Nat.pow 10 width) (pos : 0 < width) :
    (padded width n).toList.length = width := by
  have short := (Nat.length_toDigits_le_iff (by decide) pos).mpr fits
  rw [length_padded]
  omega

theorem ofDigitChars_padded : Nat.ofDigitChars 10 (padded width n).toList 0 = n := by
  rw [toList_padded, Nat.ofDigitChars_append, Nat.ofDigitChars_replicate_zero, Nat.mul_zero,
    Nat.ofDigitChars_ten_toDigits]

theorem fixed?_padded (fits : n < Nat.pow 10 width) (pos : 0 < width) (rest : List Char) :
    fixed? width ((padded width n).toList ++ rest) = some (n, rest) := by
  have digits : ∀ c ∈ (padded width n).toList, c.isDigit = true := fun _ => isDigit_of_mem_padded
  have read := fixed?_of_isDigit padded_ne_nil digits rest
  rwa [length_padded_of_lt fits pos, ofDigitChars_padded] at read

/-! The parts of a text, each with what follows it. -/

@[simp]
theorem after?_cons (mark : Char) (rest : List Char) : after? mark (mark :: rest) = some rest :=
  if_pos rfl

namespace Reading

theorem signed?_padded (n : Nat) {rest : List Char} (ended : ∀ c ∈ rest.head?, c.isDigit = false) :
    year?.signed? ((padded 4 n).toList ++ rest) = some (n, rest) := by
  have digits : ∀ c ∈ (padded 4 n).toList, c.isDigit = true := fun _ => isDigit_of_mem_padded
  have whole : ((padded 4 n).toList ++ rest).takeWhile Char.isDigit = (padded 4 n).toList := by
    rw [List.takeWhile_append_of_pos digits]
    cases rest with
    | nil => simp
    | cons c rest => simp [ended c rfl]
  have least : max 4 (padded 4 n).toList.length = (padded 4 n).toList.length := by
    rw [length_padded]
    omega
  have read := fixed?_of_isDigit padded_ne_nil digits rest
  rw [year?.signed?, whole, least, read, ofDigitChars_padded]

theorem year?_of_isDigit {c : Char} (digit : c.isDigit = true) (text : List Char) :
    year? (c :: text) = (fixed? 4 (c :: text)).map fun (n, rest) => ((n : Int), rest) := by
  unfold year?
  split
  · next minus => cases minus; contradiction
  · next plus => cases plus; contradiction
  · rfl

theorem year?_yearText (year : Int) {rest : List Char}
    (ended : ∀ c ∈ rest.head?, c.isDigit = false) :
    year? ((yearText year).toList ++ rest) = some (year, rest) := by
  unfold yearText
  by_cases plain : 0 ≤ year ∧ year ≤ 9999
  · have fits : year.toNat < Nat.pow 10 4 := by
      show year.toNat < 10000
      omega
    have some : (padded 4 year.toNat).toList ≠ [] := padded_ne_nil
    obtain ⟨c, digits, shape⟩ := List.exists_cons_of_ne_nil some
    have digit : c.isDigit = true := isDigit_of_mem_padded (shape ▸ List.mem_cons_self)
    rw [if_pos plain, shape, List.cons_append, year?_of_isDigit digit, ← List.cons_append, ← shape,
      fixed?_padded fits (by decide)]
    simp only [Option.map_some, Int.toNat_of_nonneg plain.1]
  · rw [if_neg plain]
    by_cases negative : year < 0
    · have value : -(year.natAbs : Int) = year := by omega
      have text : ("-" ++ padded 4 year.natAbs).toList = '-' :: (padded 4 year.natAbs).toList := by
        simp
      rw [if_pos negative, text, List.cons_append, year?, signed?_padded _ ended, Option.map_some]
      simp only [value]
    · have value : (year.natAbs : Int) = year := by omega
      have text : ("+" ++ padded 4 year.natAbs).toList = '+' :: (padded 4 year.natAbs).toList := by
        simp
      rw [if_neg negative, text, List.cons_append, year?, signed?_padded _ ended, Option.map_some]
      simp only [value]

theorem of?_self (d : Date) : Date.of? d.year d.month d.day = some d :=
  dif_pos ⟨d.month_mem, d.day_mem⟩

theorem day_le (d : Date) : d.day ≤ 31 := by
  have upper := d.day_mem.2
  have most : daysInMonth d.year d.month ≤ 31 := by
    unfold daysInMonth
    repeat' split
    all_goals omega
  omega

theorem date?_text (d : Date) (rest : List Char) :
    date? (d.text.toList ++ rest) = some (d, rest) := by
  have month : d.month < Nat.pow 10 2 := by
    have upper := d.month_mem.2
    show d.month < 100
    omega
  have day : d.day < Nat.pow 10 2 := by
    have upper := day_le d
    show d.day < 100
    omega
  have year : ∀ text : List Char,
      year? ((yearText d.year).toList ++ '-' :: text) = some (d.year, '-' :: text) :=
    fun text => year?_yearText d.year (by simp)
  simp [date?, Date.text, year, fixed?_padded month, fixed?_padded day, of?_self]

theorem fraction?_of_absent {text : List Char} (absent : '.' ∉ text.head?) :
    fraction? text = some (none, text) := by
  unfold fraction?
  split
  · exact absurd rfl absent
  · rfl

theorem fraction?_micros (t : TimeOfDay) {rest : List Char} (ended : '.' ∉ rest.head?) :
    fraction? ((if t.nanos = 0 then "" else "." ++ padded 6 t.micros).toList ++ rest) =
      some (t.shown.micros, rest) := by
  by_cases whole : t.nanos = 0
  · simp [whole, TimeOfDay.shown, fraction?_of_absent ended]
  · have fits : t.micros < Nat.pow 10 6 := by
      show t.nanos % 1000000000 / 1000 < 1000000
      omega
    simp [whole, TimeOfDay.shown, fraction?, fixed?_padded fits]

theorem shownTime_of?_self (s : ShownTime) :
    ShownTime.of? s.hour s.minute s.second s.micros = some s :=
  dif_pos ⟨⟨s.hour_lt, s.minute_lt⟩, s.second_le, s.micros_lt⟩

theorem time?_text (t : TimeOfDay) {rest : List Char} (ended : '.' ∉ rest.head?) :
    time? (t.text.toList ++ rest) = some (t.shown, rest) := by
  have hour : t.hour < Nat.pow 10 2 := Nat.lt_trans t.hour_lt (by decide)
  have minute : t.minute < Nat.pow 10 2 := Nat.lt_trans t.minute_lt (by decide)
  have second : t.shownSecond < Nat.pow 10 2 := Nat.lt_of_le_of_lt t.shown.second_le (by decide)
  have fraction := fraction?_micros t ended
  have valid : ShownTime.of? t.hour t.minute t.shownSecond t.shown.micros = some t.shown :=
    shownTime_of?_self t.shown
  rw [TimeOfDay.text, String.toList_append, List.append_assoc]
  generalize (if t.nanos = 0 then "" else "." ++ padded 6 t.micros).toList = written at fraction
  simp [time?, fixed?_padded hour, fixed?_padded minute, fixed?_padded second, fraction, valid]

theorem of?_date (d : Date) : of? d.text = some (.date d) := by
  have read := date?_text d []
  rw [List.append_nil] at read
  simp [of?, read]

/-- After the clock there may be an offset, which has no point. -/
theorem of?_clock (dt : DateTime) {rest : String} (ended : '.' ∉ rest.toList.head?) :
    of? (dt.text ++ rest) = ofTime? dt.date dt.time.shown rest.toList := by
  have date := date?_text dt.date ('T' :: (dt.time.text.toList ++ rest.toList))
  have time := time?_text dt.time ended
  simp [of?, DateTime.text, date, time]

theorem of?_dateTime (dt : DateTime) :
    of? dt.text = some (.dateTime dt.date dt.time.shown) := by
  have read : of? (dt.text ++ "") = ofTime? dt.date dt.time.shown [] := of?_clock dt (by simp)
  rwa [String.append_empty] at read

end Reading

/-- The times are on one date and agree to the microsecond, and both or neither are at the
beginning of their second. -/
structure DateTime.SameToMicros (t u : DateTime) : Prop where
  date : t.date = u.date
  hour : t.time.hour = u.time.hour
  minute : t.time.minute = u.time.minute
  second : t.time.second = u.time.second
  micros : t.time.nanos / 1000 = u.time.nanos / 1000
  whole : t.time.nanos = 0 ↔ u.time.nanos = 0

/-- The beginning of the second. -/
def DateTime.wholeSecond (t : DateTime) : DateTime :=
  { t with time := { t.time with nanos := 0, nanos_lt := .inl (by decide) } }

namespace TimeOfDay

theorem shownSecond_eq (t : TimeOfDay) :
    t.shownSecond = if t.nanos < 1000000000 then t.second else 60 := by
  have leap := t.nanos_lt
  unfold shownSecond
  split <;> omega

end TimeOfDay

namespace DateTime

variable {t u : DateTime}

theorem SameToMicros.of_shown (date : t.date = u.date) (shown : t.time.shown = u.time.shown) :
    t.SameToMicros u := by
  have hour : t.time.hour = u.time.hour := congrArg ShownTime.hour shown
  have minute : t.time.minute = u.time.minute := congrArg ShownTime.minute shown
  have second : t.time.shownSecond = u.time.shownSecond := congrArg ShownTime.second shown
  have fraction : (if t.time.nanos = 0 then none else some t.time.micros) =
      if u.time.nanos = 0 then none else some u.time.micros := congrArg ShownTime.micros shown
  have micros : (t.time.nanos = 0 ↔ u.time.nanos = 0) ∧ t.time.micros = u.time.micros := by
    split at fraction <;> split at fraction <;> simp_all [TimeOfDay.micros]
  obtain ⟨whole, cut⟩ := micros
  -- Only the second 59 can be a leap second, so the shown second tells both.
  have lt := t.time.second_lt
  have lt' := u.time.second_lt
  have leap := t.time.nanos_lt
  have leap' := u.time.nanos_lt
  unfold TimeOfDay.shownSecond at second
  unfold TimeOfDay.micros at cut
  exact ⟨date, hour, minute, by omega, by omega, whole⟩

theorem SameToMicros.text_eq (same : t.SameToMicros u) : t.text = u.text := by
  have second : t.time.shownSecond = u.time.shownSecond := by
    have seconds := same.second
    have micros := same.micros
    unfold TimeOfDay.shownSecond
    omega
  have cut : t.time.micros = u.time.micros := by
    have micros := same.micros
    unfold TimeOfDay.micros
    omega
  simp only [text, TimeOfDay.text, same.date, same.hour, same.minute, second, same.whole, cut]

theorem text_of_below_micro (some : 0 < t.time.nanos) (below : t.time.nanos < 1000) :
    t.text = t.wholeSecond.text ++ ".000000" := by
  have second : t.time.shownSecond = t.wholeSecond.time.shownSecond := by
    show t.time.second + t.time.nanos / 1000000000 = t.time.second + 0 / 1000000000
    omega
  have cut : t.time.micros = 0 := by
    unfold TimeOfDay.micros
    omega
  have written : "." ++ padded 6 0 = ".000000" := by decide
  rw [text, TimeOfDay.text, if_neg (by omega), cut, written, second]
  simp [text, TimeOfDay.text, wholeSecond, String.append_assoc]

end DateTime

namespace Bound

/-- What the text of a bound says, read on its own. -/
def reading? (bound : Bound) : Option Reading := bound.compile.string?.bind Reading.of?

theorem reading?_date (d : Date) : (date d).reading? = some (.date d) := Reading.of?_date d

theorem reading?_dateTime (t : DateTime) :
    (dateTime t).reading? = some (.dateTime t.date t.time.shown) := Reading.of?_dateTime t

theorem compile_date_eq_iff {d e : Date} : (date d).compile = (date e).compile ↔ d = e := by
  refine ⟨fun same => ?_, fun same => same ▸ rfl⟩
  have readings : (date d).reading? = (date e).reading? := by rw [reading?, reading?, same]
  rw [reading?_date, reading?_date] at readings
  cases readings
  rfl

theorem compile_dateTime_eq_iff {t u : DateTime} :
    (dateTime t).compile = (dateTime u).compile ↔ t.SameToMicros u := by
  refine ⟨fun same => ?_, fun same => congrArg Json.str same.text_eq⟩
  have readings : (dateTime t).reading? = (dateTime u).reading? := by
    rw [reading?, reading?, same]
  rw [reading?_dateTime, reading?_dateTime, Option.some.injEq, Reading.dateTime.injEq] at readings
  exact .of_shown readings.1 readings.2

theorem compile_date_ne_dateTime (d : Date) (t : DateTime) :
    (date d).compile ≠ (dateTime t).compile := by
  intro same
  have readings : (date d).reading? = (dateTime t).reading? := by rw [reading?, reading?, same]
  rw [reading?_date, reading?_dateTime] at readings
  cases readings

/-- A reader of the text of a date, or of a time on a date, finds out which of the two it is, the day
and the time to the microsecond. There is a fraction if and only if there are nanoseconds. -/
theorem calendar_reads_back :
    (∀ d : Date, (date d).reading? = some (.date d)) ∧
    (∀ t : DateTime, ∃ time : ShownTime, (dateTime t).reading? = some (.dateTime t.date time) ∧
      time.hour = t.time.hour ∧ time.minute = t.time.minute ∧
      time.second = (if t.time.nanos < 1000000000 then t.time.second else 60) ∧
      time.micros =
        if t.time.nanos = 0 then none else some (t.time.nanos % 1000000000 / 1000)) ∧
    (∀ d e : Date, (date d).compile = (date e).compile ↔ d = e) ∧
    (∀ t u : DateTime, (dateTime t).compile = (dateTime u).compile ↔ t.SameToMicros u) ∧
    (∀ (d : Date) (t : DateTime), (date d).compile ≠ (dateTime t).compile) ∧
    ∀ t : DateTime, 0 < t.time.nanos → t.time.nanos < 1000 →
      (dateTime t).compile = .str (t.wholeSecond.text ++ ".000000") := by
  refine ⟨reading?_date, fun t => ?_, fun d e => compile_date_eq_iff,
    fun t u => compile_dateTime_eq_iff, compile_date_ne_dateTime, fun t some below => ?_⟩
  · exact ⟨t.time.shown, reading?_dateTime t, rfl, rfl, t.time.shownSecond_eq, rfl⟩
  · exact congrArg Json.str (DateTime.text_of_below_micro some below)

def lastSecond (nanos : Nat) (below : nanos < 2000000000) : DateTime where
  date := ⟨-1, 12, 31, by decide, by decide⟩
  time := ⟨23, 59, 59, nanos, by decide, by decide, by decide, .inr ⟨below, rfl⟩⟩

/-- The last second of a year before the common era, a leap second after it, and a few nanoseconds
into each. -/
theorem calendar_reads_back_leap :
    let late := lastSecond 999 (by decide)
    let leap := lastSecond 1000000999 (by decide)
    (0 < late.time.nanos ∧ late.time.nanos < 1000) ∧
      (dateTime late).compile = .str "-0001-12-31T23:59:59.000000" ∧
      (dateTime leap).compile = .str "-0001-12-31T23:59:60.000000" ∧
      (dateTime late).compile ≠ (dateTime leap).compile := by
  intro late leap
  obtain ⟨-, -, -, times, -, below⟩ := calendar_reads_back
  have cut : (dateTime late).compile = .str (late.wholeSecond.text ++ ".000000") :=
    below late (by decide) (by decide)
  have shown : late.wholeSecond.text ++ ".000000" = "-0001-12-31T23:59:59.000000" := by decide
  have sixty : leap.text = "-0001-12-31T23:59:60.000000" := by decide
  refine ⟨by decide, shown ▸ cut, congrArg Json.str sixty, fun same => ?_⟩
  exact absurd ((times late leap).mp same).micros (by decide)

end Bound

end DocSearch

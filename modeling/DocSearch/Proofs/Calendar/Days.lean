import DocSearch.Calendar.Basic

namespace DocSearch

/-! Days are numbered without gaps, month by month and year by year, so that the number of a day
tells its date. The number of a second tells the time on that date as well, so that an instant and
an offset tell the local time. -/

def daysInYear (year : Int) : Nat := if isLeapYear year then 366 else 365

namespace Date

def daysBeforeYear (year : Int) : Int :=
  365 * (year - 1) + (year - 1) / 4 - (year - 1) / 100 + (year - 1) / 400

theorem dayNumber_eq (d : Date) :
    d.dayNumber = daysBeforeYear d.year + daysBeforeMonth d.year d.month + d.day := rfl

theorem daysBeforeYear_succ (year : Int) :
    daysBeforeYear (year + 1) = daysBeforeYear year + daysInYear year := by
  have leap : isLeapYear year = true ↔ year % 4 = 0 ∧ (year % 100 ≠ 0 ∨ year % 400 = 0) := by
    simp [isLeapYear]
  unfold daysBeforeYear daysInYear
  by_cases long : isLeapYear year = true
  · rw [if_pos long]
    have rule := leap.mp long
    omega
  · rw [if_neg long]
    have rule := mt leap.mpr long
    omega

theorem daysBeforeYear_mono {year later : Int} (le : year ≤ later) :
    daysBeforeYear year ≤ daysBeforeYear later := by
  unfold daysBeforeYear
  omega

theorem daysBeforeMonth_succ (year : Int) {month : Nat} (pos : 1 ≤ month) :
    daysBeforeMonth year (month + 1) = daysBeforeMonth year month + daysInMonth year month := by
  unfold daysBeforeMonth
  rw [List.range_succ, List.drop_append_of_le_length (by simpa using pos), List.foldl_append]
  rfl

theorem daysBeforeMonth_of_lt (year : Int) {month later : Nat} (pos : 1 ≤ month)
    (lt : month < later) :
    daysBeforeMonth year month + daysInMonth year month ≤ daysBeforeMonth year later := by
  induction later with
  | zero => omega
  | succ later ih =>
      rcases Nat.lt_succ_iff_lt_or_eq.mp lt with lt | rfl
      · have earlier := ih lt
        rw [daysBeforeMonth_succ year (by omega)]
        omega
      · exact Nat.le_of_eq (daysBeforeMonth_succ year pos).symm

theorem daysBeforeMonth_thirteen (year : Int) : daysBeforeMonth year 13 = daysInYear year := by
  unfold daysInYear
  cases leap : isLeapYear year <;>
    simp [daysBeforeMonth, List.range_succ, daysInMonth, leap]

variable {d e : Date}

theorem dayOfYear_le (d : Date) : daysBeforeMonth d.year d.month + d.day ≤ daysInYear d.year := by
  have month := d.month_mem
  have day := d.day_mem
  have rest : daysBeforeMonth d.year d.month + daysInMonth d.year d.month ≤
      daysBeforeMonth d.year 13 := daysBeforeMonth_of_lt d.year month.1 (by omega)
  rw [daysBeforeMonth_thirteen] at rest
  omega

theorem dayNumber_lt_of_year_lt (earlier : d.year < e.year) : d.dayNumber < e.dayNumber := by
  have within := dayOfYear_le d
  have first := e.day_mem.1
  have years : daysBeforeYear d.year + daysInYear d.year ≤ daysBeforeYear e.year := by
    rw [← daysBeforeYear_succ]
    exact daysBeforeYear_mono earlier
  rw [dayNumber_eq, dayNumber_eq]
  omega

theorem dayNumber_lt_of_month_lt (year : d.year = e.year) (earlier : d.month < e.month) :
    d.dayNumber < e.dayNumber := by
  have within := d.day_mem.2
  have first := e.day_mem.1
  have months := daysBeforeMonth_of_lt d.year d.month_mem.1 earlier
  rw [dayNumber_eq, dayNumber_eq, ← year]
  omega

theorem dayNumber_inj : d.dayNumber = e.dayNumber ↔ d = e := by
  refine ⟨fun same => ?_, congrArg dayNumber⟩
  have year : d.year = e.year := by
    rcases Int.lt_trichotomy d.year e.year with lt | eq | gt
    · exact absurd same (Int.ne_of_lt (dayNumber_lt_of_year_lt lt))
    · exact eq
    · exact absurd same (Int.ne_of_gt (dayNumber_lt_of_year_lt gt))
  have month : d.month = e.month := by
    rcases Nat.lt_trichotomy d.month e.month with lt | eq | gt
    · exact absurd same (Int.ne_of_lt (dayNumber_lt_of_month_lt year lt))
    · exact eq
    · exact absurd same (Int.ne_of_gt (dayNumber_lt_of_month_lt year.symm gt))
  have day : d.day = e.day := by
    rw [dayNumber_eq, dayNumber_eq, year, month] at same
    omega
  obtain ⟨_, _, _, _, _⟩ := d
  obtain ⟨_, _, _, _, _⟩ := e
  cases year
  cases month
  cases day
  rfl

end Date

namespace TimeOfDay

variable {t u : TimeOfDay}

theorem secondOfDay_lt (t : TimeOfDay) : t.secondOfDay < 86400 := by
  have hour := t.hour_lt
  have minute := t.minute_lt
  have second := t.second_lt
  unfold secondOfDay
  omega

theorem eq_of_secondOfDay (second : t.secondOfDay = u.secondOfDay) (nanos : t.nanos = u.nanos) :
    t = u := by
  obtain ⟨hour, minute, tick, _, _, minute_lt, tick_lt, _⟩ := t
  obtain ⟨hour', minute', tick', _, _, minute_lt', tick_lt', _⟩ := u
  simp only [secondOfDay] at second
  obtain rfl : hour = hour' := by omega
  obtain rfl : minute = minute' := by omega
  obtain rfl : tick = tick' := by omega
  cases nanos
  rfl

end TimeOfDay

theorem DateTime.eq_of_secondNumber {t u : DateTime} (second : t.secondNumber = u.secondNumber)
    (nanos : t.time.nanos = u.time.nanos) : t = u := by
  have lt := t.time.secondOfDay_lt
  have lt' := u.time.secondOfDay_lt
  unfold secondNumber at second
  have date : t.date = u.date := Date.dayNumber_inj.mp (by omega)
  have time : t.time = u.time := TimeOfDay.eq_of_secondOfDay (by omega) nanos
  obtain ⟨_, _⟩ := t
  obtain ⟨_, _⟩ := u
  cases date
  cases time
  rfl

/-- At one instant, clocks that are equally far ahead show the same. -/
theorem Timestamp.clock_eq_iff {ts ts' : Timestamp} (same : ts.sameInstant ts' = true) :
    ts.clock = ts'.clock ↔ ts.offset = ts'.offset := by
  have instants : ts.instant = ts'.instant := eq_of_beq same
  have second : ts.clock.secondNumber - ts.offset = ts'.clock.secondNumber - ts'.offset :=
    congrArg Prod.fst instants
  have nanos : ts.clock.time.nanos = ts'.clock.time.nanos := congrArg Prod.snd instants
  constructor
  · intro clock
    rw [clock] at second
    omega
  · intro offset
    exact DateTime.eq_of_secondNumber (by omega) nanos

end DocSearch

import DocSearch.Proofs.Calendar.Reading

namespace DocSearch

/-! The text of a timestamp denotes an instant. It is that of the timestamp where the offset is in
whole minutes. Any other offset is rounded in the text while the clock is left as it is, so that the
text denotes an instant up to half a minute away, and none where the offset is rounded to a day. -/

namespace ShownTime

/-- Seconds since midnight; a leap second counts with the second before it. -/
def secondOfDay (time : ShownTime) : Nat :=
  time.hour * 3600 + time.minute * 60 + min time.second 59

/-- Microseconds since the beginning of the second, a million or more in a leap second. -/
def microsOfSecond (time : ShownTime) : Nat :=
  time.micros.getD 0 + if time.second = 60 then 1000000 else 0

end ShownTime

/-- The second of universal time and the microseconds in it that a local time with an offset
denotes. -/
def Reading.instant? : Reading → Option (Int × Nat)
  | timestamp d time offset =>
    some (d.dayNumber * 86400 + time.secondOfDay - offset, time.microsOfSecond)
  | _ => none

/-- The instant, cut off after the microseconds. -/
def Timestamp.instantToMicros (ts : Timestamp) : Int × Nat := (ts.instant.1, ts.instant.2 / 1000)

/-- The offset as its text shows it, in seconds again: the nearest minute, and of two the one
further from zero. -/
def shownOffset (offset : Int) : Int :=
  let minutes := (offset.natAbs + 30) / 60
  if offset < 0 then -(minutes * 60 : Nat) else (minutes * 60 : Nat)

theorem shownOffset_eq_iff {offset : Int} : shownOffset offset = offset ↔ offset % 60 = 0 := by
  unfold shownOffset
  dsimp only
  split <;> omega

theorem shownOffset_near (offset : Int) : (offset - shownOffset offset).natAbs ≤ 30 := by
  unfold shownOffset
  dsimp only
  split <;> omega

namespace TimeOfDay

variable (t : TimeOfDay)

theorem secondOfDay_shown : t.shown.secondOfDay = t.secondOfDay := by
  have lt := t.second_lt
  have leap := t.nanos_lt
  have second : min t.shownSecond 59 = t.second := by
    unfold shownSecond
    omega
  show t.hour * 3600 + t.minute * 60 + min t.shownSecond 59 = _
  rw [second]
  rfl

theorem microsOfSecond_shown : t.shown.microsOfSecond = t.nanos / 1000 := by
  have lt := t.second_lt
  have leap := t.nanos_lt
  have fraction : (if t.nanos = 0 then none else some t.micros).getD 0 = t.micros := by
    split
    · next whole => simp [micros, whole]
    · rfl
  show (if t.nanos = 0 then none else some t.micros).getD 0 +
    (if t.shownSecond = 60 then 1000000 else 0) = _
  rw [fraction]
  unfold micros shownSecond
  split <;> omega

end TimeOfDay

namespace Reading

theorem clock?_minutes (minutes : Nat) (bound : minutes < 6000) :
    offset?.clock? ((padded 2 (minutes / 60)).toList ++ ':' :: (padded 2 (minutes % 60)).toList) =
      if minutes < 1440 then some (minutes * 60, []) else none := by
  have hour : minutes / 60 < Nat.pow 10 2 := by
    show minutes / 60 < 100
    omega
  have minute : minutes % 60 < Nat.pow 10 2 := by
    show minutes % 60 < 100
    omega
  have read := fixed?_padded minute (by decide) []
  rw [List.append_nil] at read
  have valid : (minutes / 60 < 24 ∧ minutes % 60 < 60) ↔ minutes < 1440 := by omega
  have value : minutes / 60 * 3600 + minutes % 60 * 60 = minutes * 60 := by omega
  simp [offset?.clock?, fixed?_padded hour, read, valid, value]

theorem offset?_offsetText {offset : Int} (near : -86400 < offset ∧ offset < 86400) :
    offset? (offsetText offset).toList =
      if offset.natAbs < 86370 then some (shownOffset offset, []) else none := by
  have clock := clock?_minutes ((offset.natAbs + 30) / 60) (by omega)
  have whole : (offset.natAbs + 30) / 60 < 1440 ↔ offset.natAbs < 86370 := by omega
  simp only [whole] at clock
  by_cases west : offset < 0
  · simp [offsetText, shownOffset, west, offset?, clock, apply_ite (Option.map _)]
  · simp [offsetText, shownOffset, west, offset?, clock, apply_ite (Option.map _)]

theorem offsetText_ne_nil (offset : Int) : (offsetText offset).toList ≠ [] := by
  unfold offsetText
  dsimp only
  split <;> simp

theorem not_point_offsetText (offset : Int) : '.' ∉ (offsetText offset).toList.head? := by
  unfold offsetText
  dsimp only
  split <;> simp

theorem of?_timestamp (ts : Timestamp) :
    of? ts.text =
      if ts.offset.natAbs < 86370 then
        some (.timestamp ts.clock.date ts.clock.time.shown (shownOffset ts.offset))
      else none := by
  rw [Timestamp.text, of?_clock ts.clock (not_point_offsetText ts.offset), ofTime?,
    if_neg (offsetText_ne_nil ts.offset), offset?_offsetText ts.offset_mem]
  by_cases near : ts.offset.natAbs < 86370
  · simp only [if_pos near]
  · simp only [if_neg near]

end Reading

namespace Bound

/-- The instant that the text of a bound denotes. -/
def instant? (bound : Bound) : Option (Int × Nat) := bound.reading?.bind Reading.instant?

theorem instant?_timestamp (ts : Timestamp) :
    (timestamp ts).instant? =
      if ts.offset.natAbs < 86370 then
        some (ts.instantToMicros.1 + (ts.offset - shownOffset ts.offset), ts.instantToMicros.2)
      else none := by
  have read : (timestamp ts).reading? = Reading.of? ts.text := rfl
  rw [instant?, read, Reading.of?_timestamp]
  by_cases near : ts.offset.natAbs < 86370
  · rw [if_pos near, if_pos near, Option.bind_some, Reading.instant?,
      TimeOfDay.secondOfDay_shown, TimeOfDay.microsOfSecond_shown]
    have second : ts.clock.date.dayNumber * 86400 + ts.clock.time.secondOfDay -
        shownOffset ts.offset = ts.instantToMicros.1 + (ts.offset - shownOffset ts.offset) := by
      show _ = ts.clock.date.dayNumber * 86400 + ts.clock.time.secondOfDay - ts.offset + _
      omega
    rw [second]
    rfl
  · rw [if_neg near, if_neg near, Option.bind_none]

/-- The text of a timestamp denotes its instant, cut off after the microseconds, if and only if the
offset is in whole minutes. Otherwise it denotes an instant that is off by what was lost of the
offset, or none. -/
theorem timestamp_denotes_iff (ts : Timestamp) :
    ((timestamp ts).instant? = some ts.instantToMicros ↔ ts.offset % 60 = 0) ∧
    (ts.offset.natAbs < 86370 →
      (timestamp ts).instant? =
        some (ts.instantToMicros.1 + (ts.offset - shownOffset ts.offset), ts.instantToMicros.2) ∧
      (ts.offset - shownOffset ts.offset).natAbs ≤ 30) ∧
    (86370 ≤ ts.offset.natAbs → (timestamp ts).instant? = none) := by
  rw [instant?_timestamp]
  refine ⟨?_, fun near => ⟨if_pos near, shownOffset_near ts.offset⟩, fun far => if_neg (by omega)⟩
  by_cases near : ts.offset.natAbs < 86370
  · rw [if_pos near, ← shownOffset_eq_iff, Option.some.injEq, Prod.mk.injEq]
    omega
  · have upper := ts.offset_mem
    rw [if_neg near]
    exact iff_of_false nofun (by omega)

def noonAt (offset : Int) (offset_mem : -86400 < offset ∧ offset < 86400) : Timestamp where
  clock := ⟨⟨1930, 6, 1, by decide, by decide⟩,
    ⟨12, 0, 0, 1500, by decide, by decide, by decide, .inl (by decide)⟩⟩
  offset := offset
  offset_mem := offset_mem

/-- Twenty minutes to the east, as much and a quarter of a minute, and a second short of a day to
the west. -/
theorem timestamp_denotes_noon :
    let whole := noonAt 1200 (by decide)
    let near := noonAt 1215 (by decide)
    let far := noonAt (-86399) (by decide)
    (near.offset.natAbs < 86370 ∧ 86370 ≤ far.offset.natAbs) ∧
      (timestamp whole).instant? = some whole.instantToMicros ∧
      (timestamp near).instant? = some (near.instantToMicros.1 + 15, near.instantToMicros.2) ∧
      (timestamp far).instant? = none := by
  intro whole near far
  have denoted := (timestamp_denotes_iff whole).1.mpr (by decide)
  have shifted := ((timestamp_denotes_iff near).2.1 (by decide)).1
  have nothing := (timestamp_denotes_iff far).2.2 (by decide)
  have lost : near.offset - shownOffset near.offset = 15 := by decide
  rw [lost] at shifted
  exact ⟨by decide, denoted, shifted, nothing⟩

/-- The local mean time of a city is not in whole minutes. -/
theorem timestamp_shifted :
    let ts := noonAt 1172 (by decide)
    (timestamp ts).compile = .str "1930-06-01T12:00:00.000001+00:20" ∧
      (timestamp ts).instant? = some (ts.instantToMicros.1 - 28, ts.instantToMicros.2) ∧
      (timestamp ts).instant? ≠ some ts.instantToMicros := by
  intro ts
  have written : ts.text = "1930-06-01T12:00:00.000001+00:20" := by decide
  have near : ts.offset.natAbs < 86370 := by decide
  have lost : ts.offset - shownOffset ts.offset = -28 := by decide
  have denoted := instant?_timestamp ts
  rw [if_pos near, lost, ← Int.sub_eq_add_neg] at denoted
  refine ⟨congrArg Json.str written, denoted, ?_⟩
  rw [denoted, ne_eq, Option.some.injEq, Prod.mk.injEq]
  omega

end Bound

end DocSearch

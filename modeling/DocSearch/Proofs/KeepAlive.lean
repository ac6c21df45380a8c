import DocSearch.Duration
import DocSearch.Text.Numeral
import Mathlib.Algebra.Order.Floor.Div
import Mathlib.GroupTheory.GroupAction.Ring
import Mathlib.Order.Bounds.Defs

namespace DocSearch

/-! A keep-alive is sent as a number of seconds or of milliseconds. It is never zero and never
shorter than the duration it stands for, and of the whole milliseconds that are neither it is the
least. -/

inductive TimeUnit where
  | seconds
  | millis
  deriving DecidableEq, Repr

namespace TimeUnit

def symbol : TimeUnit → String
  | seconds => "s"
  | millis => "ms"

def inMillis : TimeUnit → Nat
  | seconds => 1000
  | millis => 1

theorem symbol_inj {unit other : TimeUnit} : unit.symbol = other.symbol ↔ unit = other := by
  cases unit <;> cases other <;> decide

end TimeUnit

/-- A number of time units. -/
structure TimeSpan where
  count : Nat
  unit : TimeUnit
  deriving DecidableEq, Repr

namespace TimeSpan

def text (span : TimeSpan) : String := toString span.count ++ span.unit.symbol

def millis (span : TimeSpan) : Nat := span.count * span.unit.inMillis

theorem takeWhile_text (span : TimeSpan) :
    span.text.toList.takeWhile Char.isDigit = (toString span.count).toList := by
  have digits : ∀ c ∈ (toString span.count).toList, c.isDigit = true := by
    intro c member
    rw [Nat.toString_eq_repr, Nat.toList_repr] at member
    exact Nat.isDigit_of_mem_toDigits (by decide) (by decide) member
  rw [text, String.toList_append, List.takeWhile_append_of_pos digits]
  cases span.unit <;> simp [TimeUnit.symbol]

theorem text_inj {span other : TimeSpan} : span.text = other.text ↔ span = other := by
  refine ⟨fun same => ?_, fun same => same ▸ rfl⟩
  have digits : (toString span.count).toList = (toString other.count).toList := by
    rw [← span.takeWhile_text, same, other.takeWhile_text]
  have counts : span.count = other.count := Numeral.decimal_inj.mp (String.toList_inj.mp digits)
  have symbols : span.unit.symbol = other.unit.symbol := by
    rw [text, text, counts] at same
    exact (String.append_right_inj _).mp same
  obtain ⟨count, unit⟩ := span
  obtain ⟨count', unit'⟩ := other
  obtain rfl : unit = unit' := TimeUnit.symbol_inj.mp symbols
  obtain rfl : count = count' := counts
  rfl

theorem head?_toDigits_ne {n : Nat} (positive : 0 < n) :
    (Nat.toDigits 10 n).head? ≠ some '0' := by
  induction n using Nat.strongRecOn with
  | ind n ih =>
      by_cases digit : n < 10
      · have each : ∀ m < 10, 0 < m → [Nat.digitChar m].head? ≠ some '0' := by decide
        rw [Nat.toDigits_of_lt_base digit]
        exact each n digit positive
      · have leading := ih (n / 10) (by omega) (by omega)
        rwa [Nat.toDigits_of_base_le (by decide) (by omega),
          List.head?_append_of_ne_nil _ Nat.toDigits_ne_nil]

theorem head?_text_ne {span : TimeSpan} (positive : 0 < span.count) :
    span.text.toList.head? ≠ some '0' := by
  rw [text, String.toList_append, Nat.toString_eq_repr, Nat.toList_repr,
    List.head?_append_of_ne_nil _ Nat.toDigits_ne_nil]
  exact head?_toDigits_ne positive

end TimeSpan

namespace Duration

variable (d : Duration)

/-- The keep-alive that is sent for the duration. -/
def keepAlive : TimeSpan :=
  if d.nanos = 0 ∧ 0 < d.seconds then ⟨d.seconds.toNat, .seconds⟩
  else ⟨max d.ceilMillis 1, .millis⟩

theorem timeUnit_eq_text : d.timeUnit = d.keepAlive.text := by
  unfold timeUnit keepAlive
  split <;> rfl

theorem count_keepAlive_pos : 0 < d.keepAlive.count := by
  unfold keepAlive
  split
  · next exact => exact UInt64.lt_iff_toNat_lt.mp exact.2
  · exact Nat.lt_of_lt_of_le Nat.zero_lt_one (Nat.le_max_right _ _)

theorem seconds_lt : d.seconds.toNat < 18446744073709551616 := d.seconds.toNat_lt

theorem ceilDiv_million (n : Nat) : n ⌈/⌉ 1000000 = (n + 999999) / 1000000 := by
  rw [Nat.ceilDiv_eq_add_pred_div, Nat.add_sub_assoc (by decide)]

theorem millis_keepAlive : d.keepAlive.millis = max 1 (d.totalNanos ⌈/⌉ 1000000) := by
  rw [ceilDiv_million]
  unfold keepAlive
  split
  · next exact =>
      obtain ⟨whole, positive⟩ := exact
      have positive : 0 < d.seconds.toNat := UInt64.lt_iff_toNat_lt.mp positive
      show d.seconds.toNat * 1000 = _
      unfold totalNanos
      omega
  · show max d.ceilMillis 1 * 1 = _
    unfold ceilMillis
    omega

theorem unit_keepAlive_eq_seconds_iff :
    d.keepAlive.unit = .seconds ↔ ∃ n, 0 < n ∧ d.totalNanos = n * 1000000000 := by
  have below := d.nanos_lt
  unfold keepAlive totalNanos
  split
  · next exact =>
      obtain ⟨whole, positive⟩ := exact
      refine iff_of_true rfl ⟨d.seconds.toNat, UInt64.lt_iff_toNat_lt.mp positive, ?_⟩
      rw [whole, Nat.add_zero]
  · next inexact =>
      refine iff_of_false nofun ?_
      rintro ⟨n, positive, total⟩
      refine inexact ⟨by omega, UInt64.lt_iff_toNat_lt.mpr ?_⟩
      show 0 < d.seconds.toNat
      omega

/-- The number, where it can be held in so many bits. -/
def held? (width n : Nat) : Option Nat := if n < 2 ^ width then some n else none

theorem held?_of_lt {width n : Nat} (fits : n < 2 ^ width) : held? width n = some n :=
  if_pos fits

/-- The milliseconds of a keep-alive, computed in words of 128 bits. There are none if a step goes
beyond such a word. -/
def millisInWords? : Option Nat := do
  let whole ← held? 128 (d.seconds.toNat * 1000000000)
  let nanos ← held? 128 (whole + d.nanos)
  let millis ←
    if nanos % 1000000 = 0 then some (nanos / 1000000) else held? 128 (nanos / 1000000 + 1)
  return max millis 1

theorem millisInWords?_eq : d.millisInWords? = some (max 1 (d.totalNanos ⌈/⌉ 1000000)) := by
  have seconds := d.seconds_lt
  have nanos := d.nanos_lt
  have whole : held? 128 (d.seconds.toNat * 1000000000) = some (d.seconds.toNat * 1000000000) :=
    held?_of_lt (by omega)
  have total : held? 128 (d.seconds.toNat * 1000000000 + d.nanos) = some d.totalNanos :=
    held?_of_lt (by omega)
  have rounded : held? 128 (d.totalNanos / 1000000 + 1) = some (d.totalNanos / 1000000 + 1) := by
    refine held?_of_lt ?_
    unfold totalNanos
    omega
  simp only [millisInWords?, Option.bind_eq_bind, ceilDiv_million]
  rw [whole, Option.bind_some, total, Option.bind_some]
  by_cases exact : d.totalNanos % 1000000 = 0
  · have same : max (d.totalNanos / 1000000) 1 = max 1 ((d.totalNanos + 999999) / 1000000) := by
      omega
    rw [if_pos exact, Option.bind_some, same]
    rfl
  · have same : max (d.totalNanos / 1000000 + 1) 1 =
        max 1 ((d.totalNanos + 999999) / 1000000) := by
      omega
    rw [if_neg exact, rounded, Option.bind_some, same]
    rfl

/-- The keep-alive of a duration is the least number of milliseconds, and at least one, that is not
shorter. The text has no leading zeros and says which keep-alive it is, and no word of 128 bits is
too small on the way. -/
theorem timeUnit_least :
    ∃ span : TimeSpan,
      d.timeUnit = toString span.count ++ span.unit.symbol ∧
      d.timeUnit.toList.head? ≠ some '0' ∧
      (∀ other : TimeSpan, d.timeUnit = other.text ↔ other = span) ∧
      span.millis = max 1 (d.totalNanos ⌈/⌉ 1000000) ∧
      IsLeast {n | 0 < n ∧ d.totalNanos ≤ n * 1000000} span.millis ∧
      (0 < d.totalNanos → span.millis * 1000000 < d.totalNanos + 1000000) ∧
      (0 < d.totalNanos → 1000000 ∣ d.totalNanos → span.millis * 1000000 = d.totalNanos) ∧
      (span.unit = .seconds ↔ ∃ n, 0 < n ∧ d.totalNanos = n * 1000000000) ∧
      (∀ (e : Duration) (other : TimeSpan), e.timeUnit = other.text →
        d.totalNanos ≤ e.totalNanos → span.millis ≤ other.millis) ∧
      d.millisInWords? = some span.millis := by
  have millis := d.millis_keepAlive
  have ceil := ceilDiv_million d.totalNanos
  refine ⟨d.keepAlive, d.timeUnit_eq_text, ?_, fun other => ?_, millis, ⟨?_, ?_⟩, fun some => ?_,
    fun some whole => ?_, d.unit_keepAlive_eq_seconds_iff, fun e other sent longer => ?_, ?_⟩
  · rw [timeUnit_eq_text]
    exact TimeSpan.head?_text_ne d.count_keepAlive_pos
  · rw [timeUnit_eq_text, TimeSpan.text_inj, eq_comm]
  · show 0 < d.keepAlive.millis ∧ d.totalNanos ≤ d.keepAlive.millis * 1000000
    omega
  · rintro n ⟨positive, enough⟩
    omega
  · omega
  · omega
  · rw [timeUnit_eq_text, TimeSpan.text_inj] at sent
    have millis' := e.millis_keepAlive
    have ceil' := ceilDiv_million e.totalNanos
    rw [← sent]
    omega
  · rw [millis, millisInWords?_eq]

/-- A nanosecond short of a thousand seconds, and a thousand seconds. -/
theorem timeUnit_least_thousand :
    let short : Duration := { seconds := 999, nanos := 999999999 }
    let full : Duration := { seconds := 1000, nanos := 0 }
    short.timeUnit = "1000000ms" ∧ full.timeUnit = "1000s" ∧
      (0 < short.totalNanos ∧ short.totalNanos ≤ full.totalNanos) ∧
      (0 < full.totalNanos ∧ 1000000 ∣ full.totalNanos) ∧
      ∃ span other : TimeSpan, short.timeUnit = span.text ∧ full.timeUnit = other.text ∧
        span.millis * 1000000 < short.totalNanos + 1000000 ∧
        other.millis * 1000000 = full.totalNanos ∧ span.millis ≤ other.millis := by
  intro short full
  obtain ⟨span, sent, -, -, -, -, near, -, -, monotone, -⟩ := timeUnit_least short
  obtain ⟨other, sent', -, -, -, -, -, exact, -⟩ := timeUnit_least full
  refine ⟨by decide, by decide, by decide, by decide, span, other, sent, sent', near (by decide),
    exact (by decide) (by decide), monotone full other sent' (by decide)⟩

end Duration

end DocSearch

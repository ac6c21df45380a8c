namespace DocSearch

/-! Spans of time in seconds and nanoseconds, and the time units in which a keep-alive is sent. -/

structure Duration where
  seconds : UInt64
  nanos : Nat
  nanos_lt : nanos < 1000000000 := by decide
  deriving DecidableEq

namespace Duration

def ofSeconds (seconds : UInt64) : Duration := { seconds, nanos := 0 }

def totalNanos (d : Duration) : Nat := d.seconds.toNat * 1000000000 + d.nanos

/-- Whole milliseconds, a part of one counting as one. -/
def ceilMillis (d : Duration) : Nat := (d.totalNanos + 999999) / 1000000

/-- Seconds where they are exact and positive, otherwise milliseconds, never fewer than one. -/
def timeUnit (d : Duration) : String :=
  if d.nanos = 0 ∧ 0 < d.seconds then toString d.seconds.toNat ++ "s"
  else toString (max d.ceilMillis 1) ++ "ms"

end Duration

end DocSearch

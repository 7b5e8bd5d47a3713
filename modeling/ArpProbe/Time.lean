/-!
# Time

A length of time is a number of nanoseconds. An instant is given by the time since the host came up,
or within a call by the time since the call started.
-/

namespace ArpProbe.Time

def perMicrosecond : Nat := 1000

def perMillisecond : Nat := 1000000

def perSecond : Nat := 1000000000

/-- The longest length of time: one nanosecond less than `2 ^ 64` seconds. -/
def longest : Nat := Nat.pow 2 64 * perSecond - 1

/-- Instants lie less than `2 ^ 63` seconds after the host came up. -/
def horizon : Nat := Nat.pow 2 63 * perSecond

/-- Thirty years of 365 days. -/
def farFuture : Nat := 30 * 365 * 86400 * perSecond

/-- A time rounded up to whole milliseconds. -/
def ceilMilliseconds (time : Nat) : Nat :=
  (time + (perMillisecond - 1)) / perMillisecond * perMillisecond

/-- A time rounded down to whole microseconds, as their number. -/
def toMicroseconds (time : Nat) : Nat :=
  time / perMicrosecond

end ArpProbe.Time

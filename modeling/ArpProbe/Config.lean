import ArpProbe.Time

/-!
# Settings of a ping

A ping listens for a whole number of milliseconds, and for thirty years when the end of its timeout,
counted from the start of the call, lies beyond all instants.
-/

namespace ArpProbe

/-- The settings of a ping. -/
structure Config where
  /-- How long to listen for replies, from the start of the call. -/
  timeout : Nat
  /-- Every ARP message that comes in is of interest. -/
  verbose : Bool
deriving DecidableEq, Repr

namespace Config

/-- Half a second. -/
def defaultTimeout : Nat := 500 * Time.perMillisecond

/-- The settings that hold unless others are chosen. -/
protected def default : Config := ⟨defaultTimeout, false⟩

/-- The settings with another timeout. -/
def withTimeout (config : Config) (timeout : Nat) : Config :=
  { config with timeout := timeout }

/-- The settings with or without a log of all traffic. -/
def withVerbose (config : Config) (verbose : Bool) : Config :=
  { config with verbose := verbose }

/-- How long a ping takes that starts at the instant `start` and hears nothing. -/
def window (config : Config) (start : Nat) : Nat :=
  if start + config.timeout < Time.horizon then Time.ceilMilliseconds config.timeout
  else Time.farFuture

end Config

end ArpProbe

/-! Durations with the precision that time limits have. -/

namespace AccessProbe

/-- A duration in seconds and milliseconds. -/
structure Duration where
  seconds : Nat
  /-- The milliseconds beyond the full seconds. -/
  millis : Nat
  millis_lt : millis < 1000
  deriving DecidableEq, Repr

/-- The duration of a number of milliseconds. -/
def Duration.ofMillis (count : Nat) : Duration := ⟨count / 1000, count % 1000, Nat.mod_lt _ (by decide)⟩

end AccessProbe

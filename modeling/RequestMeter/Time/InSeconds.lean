/-
Durations as doubles.

The whole seconds and the nanoseconds beside them are rounded apart and then added, so a
duration of whole seconds is only rounded once.
-/
import RequestMeter.Time.Duration
import RequestMeter.Number.Binary64

namespace RequestMeter.Duration

/-- A duration in seconds, as a double. -/
def inSeconds (d : Duration) : Binary64 :=
  Binary64.ofNat d.seconds + Binary64.ofNat d.subsecNanos / Binary64.ofNat 1000000000

end RequestMeter.Duration

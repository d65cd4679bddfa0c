/-
Times as people read them.

A response time is shown in whole microseconds below a millisecond, in milliseconds below a
second, and in seconds above, the last two with two places.  The unit is chosen before the
places are rounded, so 999.999 milliseconds are still shown in milliseconds: `1000.00 ms`.
-/
import RequestMeter.Time.InSeconds
import RequestMeter.Number.Fixed

namespace RequestMeter

/-- A response time as it is shown. -/
inductive Latency where
  | microseconds (n : Nat)
  | milliseconds (hundredths : Nat)
  | seconds (hundredths : Nat)
deriving DecidableEq

namespace Latency

/-- How a response time is shown. -/
def ofDuration (d : Duration) : Latency :=
  let micros := d.micros
  if micros < 1000 then .microseconds micros
  else if micros < 1000000 then
    .milliseconds (Binary64.ofNat micros / Binary64.ofNat 1000).hundredths
  else .seconds d.inSeconds.hundredths

/-- The number and its unit. -/
def text : Latency → String
  | microseconds n => toString n ++ " µs"
  | milliseconds h => twoPlaces h ++ " ms"
  | seconds h => twoPlaces h ++ " s"

example : (ofDuration ⟨999999, by decide⟩).text = "999 µs" := by decide +kernel

example : (ofDuration ⟨999999000, by decide⟩).text = "1000.00 ms" := by decide +kernel

example : (ofDuration ⟨1125000000, by decide⟩).text = "1.12 s" := by decide +kernel

end Latency

/-- The length of a window in words.  Only whole seconds count. -/
def Duration.inWords (d : Duration) : String :=
  let seconds := d.seconds
  if seconds = 1 then "1 second"
  else if seconds < 60 then toString seconds ++ " seconds"
  else if seconds = 60 then "1 minute"
  else if seconds % 60 = 0 then toString (seconds / 60) ++ " minutes"
  else twoPlaces (Binary64.ofNat seconds / Binary64.ofNat 60).hundredths ++ " minutes"

end RequestMeter

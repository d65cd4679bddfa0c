/-
Where the average of a snapshot lies between its extremes.

No request is shorter than the least duration or longer than the greatest, so the durations
together lie between that many times the least and that many times the greatest.  Dividing by the
number of requests would put the average between the two, but the sum may have stopped at the
longest duration and the average at what 64 bits can hold.  Stopping makes the average smaller,
so it never gets above the greatest duration.  It gets below the least exactly if the least is
itself too much for the one or, taken once for each request, for the other
(`Snapshot.Describes.least_le_average_iff`).
-/
import RequestMeter.Proofs.Meter.ClosedForm
import Mathlib.Algebra.Order.BigOperators.Group.List
import Mathlib.Algebra.Order.Ring.Nat
import Mathlib.Algebra.Group.Action.Defs

namespace RequestMeter

namespace History

private theorem totalNanos_eq_sum (fs : List Filed) :
    totalNanos fs = (fs.map fun f => f.duration.nanos).sum := by
  unfold totalNanos
  rw [List.sum_eq_foldl_nat, List.foldl_map]

private theorem length_mul_le_totalNanos {fs : List Filed} {d : Duration}
    (h : ∀ f ∈ fs, d ≤ f.duration) : fs.length * d.nanos ≤ totalNanos fs := by
  have hsum := List.card_nsmul_le_sum (fs.map fun f => f.duration.nanos) d.nanos
    (List.forall_mem_map.mpr h)
  rwa [List.length_map, smul_eq_mul, ← totalNanos_eq_sum] at hsum

private theorem totalNanos_le_length_mul {fs : List Filed} {d : Duration}
    (h : ∀ f ∈ fs, f.duration ≤ d) : totalNanos fs ≤ fs.length * d.nanos := by
  have hsum := List.sum_le_card_nsmul (fs.map fun f => f.duration.nanos) d.nanos
    (List.forall_mem_map.mpr h)
  rwa [List.length_map, smul_eq_mul, ← totalNanos_eq_sum] at hsum

end History

open History

namespace Snapshot.Describes

variable {s : Snapshot} {fs : List Filed}

theorem least_le_greatest (h : s.Describes fs) : s.least ≤ s.greatest := by
  obtain ⟨f, hf, hleast⟩ := List.mem_map.mp h.least_mem
  rw [← hleast]
  exact h.le_greatest f hf

/-- Stopping short can only make the average smaller. -/
theorem average_le_greatest (h : s.Describes fs) : s.average ≤ s.greatest := by
  have hsum := totalNanos_le_length_mul h.le_greatest
  have hquotient : min (totalNanos fs) Duration.longest.nanos / fs.length ≤ s.greatest.nanos :=
    Nat.div_le_of_le_mul (Nat.le_trans (Nat.min_le_left ..) hsum)
  rw [Duration.le_iff, h.average]
  exact Nat.le_trans (Nat.min_le_left ..) hquotient

theorem least_le_average_iff (h : s.Describes fs) (hne : fs ≠ []) :
    s.least ≤ s.average ↔
      s.least.nanos ≤ 18446744073709551615 ∧
        s.requests * s.least.nanos ≤ Duration.longest.nanos := by
  have hsum := length_mul_le_totalNanos h.least_le
  have hlength : 0 < fs.length := List.length_pos_iff.mpr hne
  rw [Duration.le_iff, h.average, Nat.le_min, Nat.le_div_iff_mul_le hlength, Nat.le_min,
    h.requests, Nat.mul_comm s.least.nanos]
  constructor
  · rintro ⟨⟨-, hlongest⟩, hcap⟩
    exact ⟨hcap, hlongest⟩
  · rintro ⟨hcap, hlongest⟩
    exact ⟨⟨hsum, hlongest⟩, hcap⟩

/-- The average gets below the least duration only if the sum or the average has stopped. -/
theorem stopped_of_average_lt_least (h : s.Describes fs) (hne : fs ≠ [])
    (hlt : ¬ s.least ≤ s.average) :
    Duration.longest.nanos < totalNanos fs ∨ 18446744073709551615 < totalNanos fs / s.requests := by
  have hsum := length_mul_le_totalNanos h.least_le
  have hlength : 0 < fs.length := List.length_pos_iff.mpr hne
  rw [h.least_le_average_iff hne, h.requests] at hlt
  rw [h.requests]
  by_cases hlongest : fs.length * s.least.nanos ≤ Duration.longest.nanos
  · right
    have hquotient : s.least.nanos ≤ totalNanos fs / fs.length :=
      (Nat.le_div_iff_mul_le hlength).mpr (by rwa [Nat.mul_comm])
    omega
  · left
    omega

end Snapshot.Describes

namespace ClockedMeter

/--
**The average lies between the extremes, unless a number has run out.**  It is never above the
greatest duration.  It is not below the least one exactly as long as the least fits 64 bits of
nanoseconds and, taken once for each request, a duration; if it is below, the sum or the average
has stopped at its end.
-/
theorem run_average_between {retention : Duration} {m : Meter}
    (hm : Meter.new? retention = some m) (start now : Instant) (events : List MeterEvent)
    (window : Duration)
    (hpos : 0 < (((ClockedMeter.run ⟨m, start⟩ events).set now).snapshot window).requests) :
    let s := ((ClockedMeter.run ⟨m, start⟩ events).set now).snapshot window
    let seen := counted retention window now (ofEvents start events)
    s.least ≤ s.greatest ∧ s.average ≤ s.greatest ∧
    (s.least ≤ s.average ↔
      s.least.nanos ≤ 18446744073709551615 ∧
        s.requests * s.least.nanos ≤ Duration.longest.nanos) ∧
    (¬ s.least ≤ s.average →
      Duration.longest.nanos < totalNanos seen ∨
        18446744073709551615 < totalNanos seen / s.requests) := by
  intro s seen
  obtain ⟨hseen, hdescribes⟩ := run_describes_of_requests_pos hm start now events hpos
  exact ⟨hdescribes.least_le_greatest, hdescribes.average_le_greatest,
    hdescribes.least_le_average_iff hseen, hdescribes.stopped_of_average_lt_least hseen⟩

/-- Two requests of some seconds, and then two of the longest duration. -/
def endlessRun : List MeterEvent :=
  [.record (.ofSeconds 4), .record (.ofSeconds 2), .advance .second, .record .longest,
    .record .longest]

/-- A minute shows the short requests too, and their average is not below them.  A second shows
the others only, which are more than a sum or an average can tell. -/
theorem run_average_between_endlessRun :
    let later : Instant := ⟨1000000000, by decide, by decide⟩
    let c := (ClockedMeter.run ⟨.standard, .epoch⟩ endlessRun).set later
    Meter.new? Meter.defaultRetention = some .standard ∧
    0 < (c.snapshot (.ofSeconds 60)).requests ∧ 0 < (c.snapshot .second).requests ∧
    (c.snapshot (.ofSeconds 60)).least ≤ (c.snapshot (.ofSeconds 60)).average ∧
    (c.snapshot (.ofSeconds 60)).average ≤ (c.snapshot (.ofSeconds 60)).greatest ∧
    ¬ (c.snapshot .second).least ≤ (c.snapshot .second).average ∧
    (c.snapshot .second).average ≤ (c.snapshot .second).greatest := by
  intro later c
  have hnew : Meter.new? Meter.defaultRetention = some .standard := by decide
  have hminute : 0 < (c.snapshot (.ofSeconds 60)).requests := by decide
  have hsecond : 0 < (c.snapshot .second).requests := by decide
  obtain ⟨-, hmax, hiff, -⟩ := run_average_between hnew .epoch later endlessRun _ hminute
  obtain ⟨-, hmax', hiff', -⟩ := run_average_between hnew .epoch later endlessRun _ hsecond
  exact ⟨hnew, hminute, hsecond, hiff.mpr (by decide), hmax,
    fun hle => absurd (hiff'.mp hle) (by decide), hmax'⟩

end ClockedMeter

end RequestMeter

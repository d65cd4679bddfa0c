/-
Which seconds a meter holds, and how many requests each of them has.

How long a request took has no say in either.  Forgetting the durations of what is held and of
what is recorded commutes with every event (`apply_untimed`), so the seconds and counts after a
run are those after the run of events without durations (`run_census_congr`).
-/
import RequestMeter.Meter.Clocked
import Mathlib.Data.List.Basic

namespace RequestMeter

namespace Bucket

/-- The bucket without its durations. -/
def untimed (b : Bucket) : Bucket := ⟨b.second, b.requests, .zero, .zero, .zero⟩

theorem single_untimed (second : Instant) (d : Duration) :
    (single second d).untimed = single second .zero := rfl

theorem add_untimed (b : Bucket) (d : Duration) : (b.add d).untimed = b.untimed.add .zero := rfl

end Bucket

namespace Meter

/-- The seconds that are held and their counts, oldest first. -/
def census (m : Meter) : List (Instant × Nat) := m.buckets.map fun b => (b.second, b.requests)

/-- The meter without the durations of its buckets. -/
def untimed (m : Meter) : Meter := { m with buckets := m.buckets.map Bucket.untimed }

theorem untimed_census (m : Meter) : m.untimed.census = m.census := by
  simp [census, untimed, Bucket.untimed, Function.comp_def]

theorem unexpired_untimed (m : Meter) (now : Instant) :
    m.untimed.unexpired now = (m.unexpired now).map Bucket.untimed :=
  List.dropWhile_map ..

theorem file_untimed (second : Instant) (d : Duration) (buckets : List Bucket) :
    (file second d buckets).map Bucket.untimed =
      file second .zero (buckets.map Bucket.untimed) := by
  rcases List.eq_nil_or_concat buckets with rfl | ⟨older, newest, rfl⟩
  · rfl
  · rw [List.concat_eq_append, List.map_append, List.map_singleton, file_concat, file_concat]
    -- the newest bucket decides by its second, which it has kept
    change _ = if second ≤ newest.second then _ else _
    split
    · rw [List.map_append, List.map_singleton, Bucket.add_untimed]
    · rw [List.map_append, List.map_cons, List.map_singleton, Bucket.single_untimed]

theorem record_untimed (m : Meter) (now : Instant) (d : Duration) :
    (m.record now d).untimed = m.untimed.record now .zero := by
  unfold untimed record
  rw [file_untimed, ← unexpired_untimed]
  rfl

end Meter

/-- The event without the duration of its request. -/
def MeterEvent.untimed : MeterEvent → MeterEvent
  | record _ => record .zero
  | e => e

namespace ClockedMeter

/-- The meter without durations, at the same reading. -/
def untimed (c : ClockedMeter) : ClockedMeter := { c with meter := c.meter.untimed }

/-- Durations can be forgotten before an event or after it. -/
theorem apply_untimed (c : ClockedMeter) (e : MeterEvent) :
    (c.apply e).untimed = c.untimed.apply e.untimed := by
  cases e with
  | record d =>
      show untimed (c.record d) = c.untimed.record .zero
      unfold untimed record
      rw [Meter.record_untimed]
  | set t => rfl
  | advance d =>
      show untimed (((c.now.add? d).map c.set).getD c)
        = ((c.now.add? d).map c.untimed.set).getD c.untimed
      cases c.now.add? d <;> rfl

theorem run_untimed (c : ClockedMeter) (events : List MeterEvent) :
    (c.run events).untimed = c.untimed.run (events.map MeterEvent.untimed) := by
  induction events generalizing c with
  | nil => rfl
  | cons e rest ih =>
      show untimed ((c.apply e).run rest) = (c.untimed.apply e.untimed).run _
      rw [ih, apply_untimed]

/-- Runs whose events differ in nothing but durations lead to the same seconds and counts. -/
theorem run_census_congr (c : ClockedMeter) {events events' : List MeterEvent}
    (h : events.map MeterEvent.untimed = events'.map MeterEvent.untimed) :
    (c.run events).meter.census = (c.run events').meter.census := by
  have hsame : (c.run events).untimed = (c.run events').untimed := by
    rw [run_untimed, run_untimed, h]
  have hcensus := congrArg (fun c => c.meter.census) hsame
  rwa [untimed, untimed, Meter.untimed_census, Meter.untimed_census] at hcensus

end ClockedMeter

end RequestMeter

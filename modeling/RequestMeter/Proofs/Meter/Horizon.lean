/-
How far back a meter can answer.

Buckets go when a request is recorded and not when a snapshot is taken, so how far back a
window reaches depends on when the last requests were recorded.  Up to the latest reading
that was recorded at, nothing held is older than the retention, and a window longer than the
retention shows what the retention shows.  Once the clock has moved past that reading, buckets
that have expired are still held, and a longer window shows them.

`run_snapshot_eq_retention_iff` says exactly when a longer window shows no more: if it shows
nothing that has expired.
-/
import RequestMeter.Proofs.Meter.Conservation

namespace RequestMeter

namespace Meter

open History

private theorem retention_ne_zero (m : Meter) : m.retention ≠ .zero :=
  Duration.ne_zero_of_second_le m.second_le_retention

/-- A longer window shows what a shorter one shows, and perhaps more. -/
theorem within_eq_filter_of_le {m : Meter} (h : Ascending m.buckets) (now : Instant)
    {shorter longer : Duration} (hle : shorter ≤ longer) :
    m.within now shorter =
      (m.within now longer).filter (isKept (now.nanos - shorter.nanos)) := by
  rw [Duration.le_iff] at hle
  rw [within_eq_filter h, within_eq_filter h, List.filter_reverse, List.filter_filter]
  congr 2
  funext b
  rw [isKept_and]
  congr 1
  omega

/-- Two windows answer alike if and only if they show the same buckets: every bucket has
requests, so one bucket more would be counted. -/
theorem snapshot_eq_iff_of_le {m : Meter} (h : m.WellKept) (now : Instant)
    {shorter longer : Duration} (hpos : shorter ≠ .zero) (hle : shorter ≤ longer) :
    m.snapshot now longer = m.snapshot now shorter ↔
      ∀ b ∈ m.within now longer, now.nanos - shorter.nanos < b.second.nanos := by
  have hpos' : longer ≠ .zero := by
    rintro rfl
    rw [Duration.le_iff, Duration.zero_nanos] at hle
    exact hpos (Duration.ext (by rw [Duration.zero_nanos]; omega))
  have hfilter := within_eq_filter_of_le h.ascending now hle
  constructor
  · intro heq b hb
    by_contra hout
    -- the bucket is counted in the longer window only
    have hmissing : isKept (now.nanos - shorter.nanos) b = false := by
      simpa [isKept] using hout
    have hcount := requestsIn_filter_add_le hb hmissing
    have hrequests := (h.consistent b (mem_of_mem_within hb)).requests_pos
    have hsame := congrArg Snapshot.requests heq
    rw [snapshot_requests hpos', snapshot_requests hpos, hfilter] at hsame
    omega
  · intro hall
    have hsame : m.within now shorter = m.within now longer := by
      rw [hfilter, List.filter_eq_self]
      intro b hb
      simpa [isKept] using hall b hb
    rw [snapshot_of_ne_zero hpos', snapshot_of_ne_zero hpos, hsame]

/-- At a reading not after the latest recorded one, nothing that is held has expired. -/
private theorem lt_second_of_mem_recordAll {m : Meter} (hm : m.buckets = [])
    {obs : List Observation}
    {now : Instant} (hnow : now ≤ latestReading obs) {b : Bucket}
    (hb : b ∈ (m.recordAll obs).buckets) : now.nanos - m.retention.nanos < b.second.nanos := by
  have hkept := ((mem_recordAll_iff hm).mp hb).2
  rw [Instant.le_iff] at hnow
  omega

end Meter

namespace ClockedMeter

open History

/--
**A window longer than the retention answers as the retention does if and only if it shows
nothing that has expired.**  That is so at every reading up to the latest that was recorded at.
-/
theorem run_snapshot_eq_retention_iff {retention : Duration} {m : Meter}
    (hm : Meter.new? retention = some m) (start now : Instant) (events : List MeterEvent)
    {window : Duration} (hw : retention ≤ window) :
    let c := (ClockedMeter.run ⟨m, start⟩ events).set now
    (c.snapshot window = c.snapshot retention ↔
      ∀ b ∈ c.meter.within now window, now.nanos - retention.nanos < b.second.nanos) ∧
    (now ≤ latestReading (ofEvents start events) →
      c.snapshot window = c.snapshot retention) := by
  intro c
  obtain ⟨hnew, hretention, hempty⟩ := Meter.new?_wellKept hm
  have hkept : c.meter.WellKept :=
    run_keeps (fun _ now d h => h.record now d) events ⟨m, start⟩ hnew
  have hpos : retention ≠ .zero := by
    rw [← hretention]
    exact m.retention_ne_zero
  have hiff := Meter.snapshot_eq_iff_of_le hkept now hpos hw
  refine ⟨hiff, fun hnow => hiff.mpr fun b hb => ?_⟩
  have hheld : b ∈ (m.recordAll (ofEvents start events)).buckets := by
    rw [← run_meter events ⟨m, start⟩]
    exact Meter.mem_of_mem_within hb
  rw [← hretention]
  exact Meter.lt_second_of_mem_recordAll hempty hnow hheld

/-- A request, and then nothing for twice as long as it should be kept. -/
def idleRun : List MeterEvent := [.record .second, .advance (.ofSeconds 1800)]

/-- At the reading of the request itself, an hour shows what the retention shows. -/
theorem run_snapshot_eq_retention_iff_idleRun :
    Meter.new? Meter.defaultRetention = some .standard ∧
    Meter.defaultRetention ≤ .ofSeconds 3600 ∧
    Instant.epoch ≤ latestReading (ofEvents .epoch idleRun) ∧
    ((ClockedMeter.run ⟨.standard, .epoch⟩ idleRun).set .epoch).snapshot (.ofSeconds 3600) =
      ((ClockedMeter.run ⟨.standard, .epoch⟩ idleRun).set .epoch).snapshot
        Meter.defaultRetention := by
  have hnew : Meter.new? Meter.defaultRetention = some .standard := by decide
  have hw : Meter.defaultRetention ≤ .ofSeconds 3600 := by decide
  have hnow : Instant.epoch ≤ latestReading (ofEvents .epoch idleRun) := by decide
  exact ⟨hnew, hw, hnow,
    (run_snapshot_eq_retention_iff hnew .epoch .epoch idleRun hw).2 hnow⟩

/-- Once the request has expired, an hour still shows it and the retention does not. -/
theorem idleRun_snapshot_ne_retention :
    let c := ClockedMeter.run ⟨.standard, .epoch⟩ idleRun
    Meter.new? Meter.defaultRetention = some .standard ∧
    Meter.defaultRetention ≤ .ofSeconds 3600 ∧
    c.snapshot (.ofSeconds 3600) ≠ c.snapshot Meter.defaultRetention ∧
    (c.snapshot (.ofSeconds 3600)).requests = 1 ∧
    (c.snapshot Meter.defaultRetention).requests = 0 ∧
    c.meter.buckets.map Bucket.second = [.epoch] ∧
    Instant.epoch.nanos < c.now.nanos - Meter.defaultRetention.nanos := by
  decide

end ClockedMeter

end RequestMeter

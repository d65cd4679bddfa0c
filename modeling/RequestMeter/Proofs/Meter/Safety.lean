/-
Nothing overflows and nothing is divided by zero.

The checked meter of `Meter/Checked.lean` gives up where a number does not fit.  It never has to:
after fewer than 2⁶⁴ requests it has done what the meter does (`run?_eq`), and it answers what
the meter answers (`snapshot?_eq`).

Each operation that could fail is saved by one fact about the buckets.  Counts fit because no
bucket holds a request that was not recorded.  The first second of a tally is not after its last
because the buckets are in order, and the span has room for a second more because no bucket is
of a second before the epoch.  The average exists because no bucket is empty.
-/
import RequestMeter.Meter.Checked
import RequestMeter.Proofs.Meter.ClosedForm
import RequestMeter.Proofs.Meter.Conservation

namespace RequestMeter

open Meter

/-! ### Recording

The second of a reading can always be shown, so what could overflow is the count of a bucket.  No
count exceeds that of all requests held, and this one grows by at most one with a recording, so what
is held and what is still to come never exceed the whole history (`requestsIn_apply_add_le`).
-/

theorem addCounts?_eq {a b : Nat} (h : a + b < 18446744073709551616) :
    addCounts? a b = some (a + b) := if_pos h

/-- The start of a second can always be shown. -/
theorem Instant.wholeSecond?_eq (t : Instant) : t.wholeSecond? = some t.wholeSecond := by
  have hhi := t.nanos_lt
  unfold wholeSecond? add? Duration.ofSeconds Duration.seconds
  rw [ofNanos?_eq_some_iff, Duration.ofNanos_nanos, wholeSecond_nanos, epoch_nanos]
  by_cases h : epoch ≤ t
  · obtain ⟨d, hd, hnanos⟩ := Option.map_eq_some_iff.mp (since?_nanos h)
    rw [epoch_nanos] at hnanos
    rw [hd, Option.getD_some, hnanos]
    omega
  · have hnone : t.since? epoch = none := if_neg h
    rw [le_iff, epoch_nanos] at h
    rw [hnone, Option.getD_none, Duration.zero_nanos]
    omega

theorem Bucket.add?_eq {b : Bucket} (h : b.requests + 1 < 18446744073709551616) (d : Duration) :
    b.add? d = some (b.add d) := by
  unfold add?
  rw [addCounts?_eq h]
  rfl

namespace Meter

/-- A request more can be filed as long as all requests together can be counted. -/
theorem file?_eq {buckets : List Bucket}
    (h : requestsIn buckets + 1 < 18446744073709551616) (second : Instant) (d : Duration) :
    file? second d buckets = some (file second d buckets) := by
  unfold file? file
  cases hlast : buckets.getLast? with
  | none => rfl
  | some newest =>
      have hle := requests_le_requestsIn (List.mem_of_getLast? hlast)
      have hadd := Bucket.add?_eq (b := newest) (by omega) d
      simp only [hadd]
      split <;> rfl

theorem record?_eq {m : Meter} (h : requestsIn m.buckets + 1 < 18446744073709551616)
    (now : Instant) (d : Duration) : m.record? now d = some (m.record now d) := by
  have hleft : requestsIn (m.unexpired now) ≤ requestsIn m.buckets :=
    requestsIn_le_of_sublist (List.dropWhile_sublist _)
  have hcount : requestsIn (m.unexpired now) + 1 < 18446744073709551616 := by omega
  have hfile := file?_eq hcount now.wholeSecond d
  unfold record?
  rw [Instant.wholeSecond?_eq, Option.bind_eq_bind, Option.bind_some, hfile]
  rfl

end Meter

namespace ClockedMeter

open History

/-- What is held and what is still to come do not grow. -/
private theorem requestsIn_apply_add_le (c : ClockedMeter) (e : MeterEvent)
    (rest : List MeterEvent) :
    requestsIn (c.apply e).meter.buckets + (ofEvents (c.apply e).now rest).length ≤
      requestsIn c.meter.buckets + (ofEvents c.now (e :: rest)).length := by
  cases e with
  | record d =>
      have hadded := requestsIn_record_le c.meter c.now d
      show requestsIn (c.meter.record c.now d).buckets + (ofEvents c.now rest).length ≤
        requestsIn c.meter.buckets + ((ofEvents c.now rest).length + 1)
      omega
  | set t => exact Nat.le_refl _
  | advance d =>
      simp only [apply, advance?, ofEvents]
      cases c.now.add? d <;> exact Nat.le_refl _

theorem step?_eq {c : ClockedMeter} {e : MeterEvent} {rest : List MeterEvent}
    (h : requestsIn c.meter.buckets + (ofEvents c.now (e :: rest)).length
      < 18446744073709551616) : c.step? e = some (c.apply e) := by
  cases e with
  | record d =>
      -- this request is still to come, so there is room for it
      have hone : 1 ≤ (ofEvents c.now (.record d :: rest)).length := Nat.le_add_left ..
      have hrecord := record?_eq (m := c.meter) (by omega) c.now d
      simp only [step?, hrecord]
      rfl
  | set t => rfl
  | advance d => rfl

/-- Until 2⁶⁴ requests have been recorded, nothing stands in the way of a run. -/
theorem run?_eq :
    ∀ (events : List MeterEvent) (c : ClockedMeter),
      requestsIn c.meter.buckets + (ofEvents c.now events).length < 18446744073709551616 →
      c.run? events = some (c.run events) := by
  intro events
  induction events with
  | nil => intro c _; rfl
  | cons e rest ih =>
      intro c h
      have hnext := requestsIn_apply_add_le c e rest
      show (c.step? e).bind (fun c => c.run? rest) = _
      rw [step?_eq h, Option.bind_some]
      exact ih (c.apply e) (by omega)

end ClockedMeter

/-! ### Asking

A question adds up counts, takes the distance of two seconds, adds a second to it and divides.
`Tally.Sound` has what each of these needs of a tally, and every tally of a meter has it, because
the buckets are in order and none is empty or of a second before the epoch.
-/

namespace Tally

/-- What holds of the tally of some buckets of a meter. -/
structure Sound (t : Tally) : Prop where
  requests_pos : 1 ≤ t.requests
  epoch_le : Instant.epoch ≤ t.oldest
  oldest_le : t.oldest ≤ t.newest
  oldest_whole : t.oldest.nanos % 1000000000 = 0
  newest_whole : t.newest.nanos % 1000000000 = 0

theorem ofBucket_sound {b : Bucket} (h : b.Consistent) : (ofBucket b).Sound :=
  ⟨h.requests_pos, h.epoch_le, le_refl _, h.whole, h.whole⟩

theorem Sound.addOlder {t : Tally} (h : t.Sound) {b : Bucket} (hb : b.Consistent)
    (hle : b.second ≤ t.oldest) : (t.addOlder b).Sound where
  requests_pos := Nat.le_trans h.requests_pos (Nat.le_add_right _ _)
  epoch_le := hb.epoch_le
  oldest_le := le_trans hle h.oldest_le
  oldest_whole := hb.whole
  newest_whole := h.newest_whole

theorem foldl_addOlder_sound :
    ∀ (older : List Bucket) (t : Tally), t.Sound → (∀ b ∈ older, b.Consistent) →
      (∀ b ∈ older, b.second < t.oldest) →
      older.Pairwise (fun a b => b.second < a.second) → (older.foldl addOlder t).Sound := by
  intro older
  induction older with
  | nil => intro t h _ _ _; exact h
  | cons b rest ih =>
      intro t h hc hlt hd
      rw [List.pairwise_cons] at hd
      have hb := h.addOlder (hc b (by simp)) (Int.le_of_lt (hlt b (by simp)))
      exact ih (t.addOlder b) hb (fun a ha => hc a (List.mem_cons_of_mem _ ha)) hd.1 hd.2

theorem ofBuckets?_sound {buckets : List Bucket} {t : Tally}
    (hc : ∀ b ∈ buckets, b.Consistent)
    (hd : buckets.Pairwise fun a b => b.second < a.second)
    (h : ofBuckets? buckets = some t) : t.Sound := by
  cases buckets with
  | nil => cases h
  | cons newest older =>
      obtain rfl := Option.some.inj h
      rw [List.pairwise_cons] at hd
      exact foldl_addOlder_sound older _ (ofBucket_sound (hc newest (by simp)))
        (fun b hb => hc b (List.mem_cons_of_mem _ hb)) hd.1 hd.2

namespace Sound

variable {t : Tally}

/-- The distance of the two ends is there to be taken. -/
theorem exists_since? (h : t.Sound) :
    ∃ apart, t.newest.since? t.oldest = some apart ∧
      (apart.nanos : Int) = t.newest.nanos - t.oldest.nanos := by
  obtain ⟨apart, hsince, hnanos⟩ := Option.map_eq_some_iff.mp (Instant.since?_nanos h.oldest_le)
  have hle := h.oldest_le
  rw [Instant.le_iff] at hle
  exact ⟨apart, hsince, by omega⟩

theorem span?_eq (h : t.Sound) : t.span? = some t.span := by
  obtain ⟨apart, hsince, hnanos⟩ := h.exists_since?
  have hspan := span_nanos h.epoch_le h.oldest_le
  unfold span?
  rw [hsince, Option.bind_eq_bind, Option.bind_some, Duration.ofNanos?_eq_some_iff,
    Duration.second_nanos]
  omega

/-- The span is a number of whole seconds, one at least. -/
theorem exists_span_eq (h : t.Sound) :
    ∃ seconds, 1 ≤ seconds ∧ t.span.nanos = seconds * 1000000000 := by
  have hspan := span_nanos h.epoch_le h.oldest_le
  have hnewest := h.newest_whole
  have holdest := h.oldest_whole
  have hle := h.oldest_le
  rw [Instant.le_iff] at hle
  exact ⟨t.span.nanos / 1000000000, by omega, by omega⟩

theorem snapshot?_eq (h : t.Sound) : t.snapshot? = some (Snapshot.ofTally t) := by
  have hne : ¬ t.requests = 0 := by
    have := h.requests_pos
    omega
  have haverage : t.average? = some t.average := if_neg hne
  unfold snapshot?
  rw [h.span?_eq, haverage]
  rfl

end Sound

end Tally

namespace Meter

private theorem foldlM_addCounts?_eq :
    ∀ (buckets : List Bucket) (n : Nat), n + requestsIn buckets < 18446744073709551616 →
      buckets.foldlM (fun n b => addCounts? n b.requests) n = some (n + requestsIn buckets) := by
  intro buckets
  induction buckets with
  | nil => intro n _; rfl
  | cons b rest ih =>
      intro n h
      rw [requestsIn_cons] at h ⊢
      rw [List.foldlM_cons, addCounts?_eq (by omega), Option.bind_eq_bind, Option.bind_some,
        ih (n + b.requests) (by omega), Nat.add_assoc]

/-- The tally of a window is sound. -/
theorem WellKept.tally?_sound {m : Meter} (h : m.WellKept) {now : Instant} {window : Duration}
    {t : Tally} (ht : Tally.ofBuckets? (m.within now window) = some t) : t.Sound := by
  refine Tally.ofBuckets?_sound (fun b hb => h.consistent b (mem_of_mem_within hb)) ?_ ht
  rw [within_eq_filter h.ascending, List.pairwise_reverse]
  exact h.ascending.sublist List.filter_sublist

private theorem requestsIn_within_le (m : Meter) (now : Instant) (window : Duration) :
    requestsIn (m.within now window) ≤ requestsIn m.buckets := by
  rw [← requestsIn_reverse m.buckets]
  exact requestsIn_le_of_sublist (List.takeWhile_sublist _)

/-- Every question has its answer. -/
theorem WellKept.snapshot?_eq {m : Meter} (h : m.WellKept)
    (hcount : requestsIn m.buckets < 18446744073709551616) (now : Instant) (window : Duration) :
    m.snapshot? now window = some (m.snapshot now window) := by
  by_cases hw : window = .zero
  · rw [hw, snapshot_zero]
    rfl
  have hwithin := requestsIn_within_le m now window
  have hsum : count? (m.within now window) = some (requestsIn (m.within now window)) := by
    unfold count?
    rw [foldlM_addCounts?_eq _ 0 (by omega), Nat.zero_add]
  unfold snapshot?
  rw [if_neg hw, snapshot_of_ne_zero hw, hsum, Option.bind_eq_bind, Option.bind_some]
  cases htally : Tally.ofBuckets? (m.within now window) with
  | none => rfl
  | some t =>
      rw [← Tally.ofBuckets?_requests htally]
      exact (h.tally?_sound htally).snapshot?_eq

end Meter

namespace ClockedMeter

open History

/--
**Nothing overflows and nothing is divided by zero**, as long as fewer than 2⁶⁴ requests are
recorded: every event of a run goes through, every second can be shown, every count fits, and every
question is answered.  Where there is a tally, it has a request to divide by and covers a number
of whole seconds.
-/
theorem run_within_range {retention : Duration} {m : Meter}
    (hm : Meter.new? retention = some m) (start : Instant) (events : List MeterEvent)
    (hcount : (ofEvents start events).length < 18446744073709551616) :
    let c := ClockedMeter.run ⟨m, start⟩ events
    ClockedMeter.run? ⟨m, start⟩ events = some c ∧
    (∀ t : Instant, t.wholeSecond? = some t.wholeSecond) ∧
    (∀ b ∈ c.meter.buckets, b.requests < 18446744073709551616) ∧
    requestsIn c.meter.buckets < 18446744073709551616 ∧
    ∀ (now : Instant) (window : Duration),
      c.meter.snapshot? now window = some (c.meter.snapshot now window) ∧
      ∀ t, c.meter.tally? now window = some t →
        1 ≤ t.requests ∧ t.requests < 18446744073709551616 ∧
        (∃ apart, t.newest.since? t.oldest = some apart ∧
          t.span.nanos = apart.nanos + 1000000000) ∧
        ∃ seconds, 1 ≤ seconds ∧ t.span.nanos = seconds * 1000000000 := by
  intro c
  obtain ⟨hnew, -, hempty⟩ := Meter.new?_wellKept hm
  have hkept : c.meter.WellKept := run_keeps (fun _ now d h => h.record now d) events _ hnew
  have hzero : requestsIn m.buckets = 0 := by rw [hempty]; rfl
  have htotal : requestsIn c.meter.buckets < 18446744073709551616 := by
    have hle := requestsIn_recordAll_le m (ofEvents start events)
    have hrun := run_meter events ⟨m, start⟩
    show requestsIn (ClockedMeter.run ⟨m, start⟩ events).meter.buckets < _
    rw [hrun]
    show requestsIn (m.recordAll (ofEvents start events)).buckets < _
    omega
  have hrun : requestsIn m.buckets + (ofEvents start events).length < 18446744073709551616 := by
    omega
  refine ⟨run?_eq events ⟨m, start⟩ hrun, Instant.wholeSecond?_eq, ?_, htotal, ?_⟩
  · intro b hb
    have hle := requests_le_requestsIn hb
    omega
  · intro now window
    refine ⟨hkept.snapshot?_eq htotal now window, fun t ht => ?_⟩
    have hof : Tally.ofBuckets? (c.meter.within now window) = some t := by
      unfold tally? at ht
      split at ht
      · cases ht
      · exact ht
    have hsound := hkept.tally?_sound hof
    have hwithin := requestsIn_within_le c.meter now window
    obtain ⟨apart, hsince, hnanos⟩ := hsound.exists_since?
    have hspan := Tally.span_nanos hsound.epoch_le hsound.oldest_le
    refine ⟨hsound.requests_pos, ?_, ⟨apart, hsince, by omega⟩, hsound.exists_span_eq⟩
    rw [Tally.ofBuckets?_requests hof]
    omega

/-- From the first instant of the clock to its last, with the longest durations there are. -/
def extremeRun : List MeterEvent := [.record .longest, .advance .longest, .record .longest]

theorem run_within_range_extremeRun :
    let c := ClockedMeter.run ⟨⟨.longest, [], by decide⟩, .earliest⟩ extremeRun
    Meter.new? .longest = some ⟨.longest, [], by decide⟩ ∧
    (ofEvents .earliest extremeRun).length < 18446744073709551616 ∧
    ClockedMeter.run? ⟨⟨.longest, [], by decide⟩, .earliest⟩ extremeRun = some c ∧
    c.meter.snapshot? .earliest .longest = some (c.meter.snapshot .earliest .longest) ∧
    c.meter.buckets.map (fun b => b.second.nanos) = [0, 9223372036854775807000000000] := by
  intro c
  have hnew : Meter.new? .longest = some ⟨.longest, [], by decide⟩ := by decide
  have hcount : (ofEvents .earliest extremeRun).length < 18446744073709551616 := by decide
  have hrun := run_within_range hnew .earliest extremeRun hcount
  exact ⟨hnew, hcount, hrun.1, (hrun.2.2.2.2 .earliest .longest).1, by decide⟩

end ClockedMeter

end RequestMeter

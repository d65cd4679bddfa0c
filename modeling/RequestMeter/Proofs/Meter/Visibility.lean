/-
A request can be seen as soon as it is recorded, and nothing else changes with it.

What a window shows right after a recording is what it would have shown before, cut off where the
recording lets go of buckets, with the request filed into that (`within_record`).  Filing and
cutting off can change places because the request is filed for a second that both cutoffs leave
in: the second of the reading began less than a second ago, and a window and a retention are a
second at least.  Where the clock has been set back the newest bucket takes the request, and it
is of a later second, so it is left in too.

Filing a request adds it to the tally, whichever bucket takes it (`Tally.ofBuckets?_file_concat`).
-/
import RequestMeter.Proofs.Meter.ClosedForm
import RequestMeter.Proofs.Meter.Safety

namespace RequestMeter

namespace Tally

/-- A request that is filed is added to the tally, also if its second is not the latest. -/
theorem ofBuckets?_file_concat (older : List Bucket) (newest : Bucket) (second : Instant)
    (d : Duration) :
    ofBuckets? (Meter.file second d (older ++ [newest])).reverse =
      (ofBuckets? (older ++ [newest]).reverse).map
        (addNewest · ⟨max newest.second second, d⟩) := by
  have hle : newest.second ≤ max newest.second second := le_max_left _ _
  have hfile : Meter.file second d (older ++ [newest]) =
      Meter.file (max newest.second second) d (older ++ [newest]) := by
    rw [Meter.file_concat, Meter.file_concat]
    by_cases hback : second ≤ newest.second
    · rw [max_eq_left hback, if_pos hback, if_pos (le_refl newest.second)]
    · rw [max_eq_right (le_of_not_ge hback)]
  rw [hfile]
  exact ofBuckets?_file older (f := ⟨max newest.second second, d⟩) hle

end Tally

namespace Meter

/-- What a window shows after a recording: the request filed into what it has shown before, as
far as the retention reaches. -/
theorem within_record {m : Meter} (h : m.WellKept) (now : Instant) (d : Duration)
    {window : Duration} (hw : Duration.second ≤ window) :
    (m.record now d).within now window =
      (file now.wholeSecond d (m.within now (min window m.retention)).reverse).reverse := by
  have hleft : Ascending (m.buckets.filter (isKept (now.nanos - m.retention.nanos))) :=
    h.ascending.sublist List.filter_sublist
  have hcutoff : max (now.nanos - window.nanos) (now.nanos - m.retention.nanos) =
      now.nanos - (min window m.retention).nanos := by
    rw [Duration.min_nanos]
    omega
  rw [within_eq_filter (h.record now d).ascending, within_eq_filter h.ascending,
    List.reverse_reverse, record_buckets, unexpired_eq_filter h.ascending,
    filter_file hleft (now.sub_lt_wholeSecond hw), List.filter_filter]
  congr 3
  funext b
  rw [isKept_and, hcutoff]

private theorem second_le_min {window : Duration} (hw : Duration.second ≤ window) (m : Meter) :
    Duration.second ≤ min window m.retention :=
  le_min hw m.second_le_retention

/-- The tally of a window after a recording is what it was, as far as the retention reaches, and
the request. -/
theorem WellKept.tally?_record {m : Meter} (h : m.WellKept) (now : Instant) (d : Duration)
    {window : Duration} (hw : Duration.second ≤ window) :
    ∃ second : Instant, (m.record now d).tally? now window =
      some (((m.tally? now (min window m.retention)).map (Tally.addNewest · ⟨second, d⟩)).getD
        (.ofFiled ⟨second, d⟩)) := by
  have hshorter := second_le_min hw m
  rw [tally?_of_ne_zero (Duration.ne_zero_of_second_le hw),
    tally?_of_ne_zero (Duration.ne_zero_of_second_le hshorter), within_record h now d hw]
  rcases List.eq_nil_or_concat (m.within now (min window m.retention)).reverse with
    hnone | ⟨older, newest, hshown⟩
  · rw [List.reverse_eq_nil_iff.mp hnone]
    exact ⟨now.wholeSecond, rfl⟩
  · rw [List.concat_eq_append] at hshown
    have hwithin := List.reverse_eq_iff.mp hshown
    refine ⟨max newest.second now.wholeSecond, ?_⟩
    rw [hshown, hwithin, Tally.ofBuckets?_file_concat, List.reverse_append]
    rfl

/-- A request that is recorded is in every window, and adds itself to what the window shows. -/
theorem WellKept.snapshot_record {m : Meter} (h : m.WellKept) (now : Instant) (d : Duration)
    {window : Duration} (hw : Duration.second ≤ window) :
    let before := m.snapshot now (min window m.retention)
    let after := (m.record now d).snapshot now window
    after.requests = before.requests + 1 ∧
    after.least = (if before.requests = 0 then d else min before.least d) ∧
    after.greatest = (if before.requests = 0 then d else max before.greatest d) := by
  intro before after
  obtain ⟨second, hrecord⟩ := h.tally?_record now d hw
  cases hshown : m.tally? now (min window m.retention) with
  | none =>
      -- the window was empty, and shows the request alone
      rw [hshown] at hrecord
      have hbefore : before = .empty := snapshot_of_tally?_eq_none hshown
      have hafter : after = .ofTally (.ofFiled ⟨second, d⟩) := snapshot_of_tally?_eq_some hrecord
      rw [hbefore, hafter]
      exact ⟨rfl, rfl, rfl⟩
  | some t =>
      rw [hshown] at hrecord
      have hbefore : before = .ofTally t := snapshot_of_tally?_eq_some hshown
      have hafter : after = .ofTally (t.addNewest ⟨second, d⟩) :=
        snapshot_of_tally?_eq_some hrecord
      rw [tally?_of_ne_zero (Duration.ne_zero_of_second_le (second_le_min hw m))] at hshown
      have hsome : ¬ before.requests = 0 := by
        rw [hbefore]
        exact Nat.ne_of_gt (h.tally?_sound hshown).requests_pos
      rw [if_neg hsome, if_neg hsome, hbefore, hafter]
      exact ⟨rfl, rfl, rfl⟩

end Meter

namespace ClockedMeter

/--
**A request that is recorded can be seen at once, and adds itself alone**, whatever the clock
shows and whatever has expired.  The window counts one request more than it did as far as the
retention reaches, and its extremes move no further than the duration of that request.
-/
theorem run_record_visible {retention : Duration} {m : Meter}
    (hm : Meter.new? retention = some m) (start : Instant) (events : List MeterEvent)
    (d : Duration) {window : Duration} (hw : Duration.second ≤ window) :
    let c := ClockedMeter.run ⟨m, start⟩ events
    let before := c.snapshot (min window retention)
    let after := (c.record d).snapshot window
    after.requests = before.requests + 1 ∧
    after.least = (if before.requests = 0 then d else min before.least d) ∧
    after.greatest = (if before.requests = 0 then d else max before.greatest d) := by
  intro c before after
  have hkept : c.meter.WellKept :=
    run_keeps (fun _ now d h => h.record now d) events _ (Meter.new?_wellKept hm).1
  have hrecord := hkept.snapshot_record c.now d hw
  rw [run_retention_of_new? hm] at hrecord
  exact hrecord

/-- The clock stands before the epoch, one bucket is held of a later second, and a request of no
length at all becomes the least. -/
theorem run_record_visible_setBackRun :
    let c := ClockedMeter.run ⟨⟨.second, [], by decide⟩, .earliest⟩
      (setBackRun ++ [.set .earliest])
    let before := c.snapshot (min .longest .second)
    let after := (c.record .zero).snapshot .longest
    Meter.new? .second = some ⟨.second, [], by decide⟩ ∧ Duration.second ≤ .longest ∧
    c.now = .earliest ∧ before.requests = 1 ∧ before.least = .second ∧
    after.requests = 2 ∧ after.least = .zero ∧ after.greatest = .second := by
  intro c before after
  have hnew : Meter.new? .second = some ⟨.second, [], by decide⟩ := by decide
  have hw : Duration.second ≤ .longest := by decide
  have hrequests : before.requests = 1 := by decide
  obtain ⟨hcount, hleast, hgreatest⟩ :=
    run_record_visible hnew .earliest (setBackRun ++ [.set .earliest]) .zero hw
  exact ⟨hnew, hw, by decide, hrequests, by decide, hcount.trans (by rw [hrequests]),
    hleast.trans (by decide), hgreatest.trans (by decide)⟩

end ClockedMeter

end RequestMeter

/-
The order of requests within a second.

It leaves no trace.  Requests of one second go into one bucket, or into the newest where the clock
has been set back, and adding a duration to a bucket commutes with adding another, also where the
sum has stopped (`file_right_comm`).  What expires on the way depends on the latest of the readings
alone, so neither the order of the readings nor that of the durations can be told afterwards.

Single recordings do not commute: the first of them may let go of buckets or open a new one, and
the second then finds another meter than it would have.  So the argument goes by the history: the
store that would never evict is the same in the end, and so is the cutoff.
-/
import RequestMeter.Proofs.Meter.History
import Mathlib.Data.List.Perm.Basic

namespace RequestMeter

namespace Bucket

theorem add_right_comm (b : Bucket) (d e : Duration) : (b.add d).add e = (b.add e).add d :=
  Bucket.ext rfl rfl (Duration.add_right_comm ..) (min_right_comm ..) (max_right_comm ..)

theorem single_add_comm (second : Instant) (d e : Duration) :
    (single second d).add e = (single second e).add d :=
  Bucket.ext rfl rfl (Duration.add_comm ..) (min_comm ..) (max_comm ..)

end Bucket

namespace Meter

private theorem file_concat_of_le {second : Instant} {newest : Bucket} (h : second ≤ newest.second)
    (d : Duration) (older : List Bucket) :
    file second d (older ++ [newest]) = older ++ [newest.add d] := by
  rw [file_concat, if_pos h]

/-- Two requests of a second can be filed in either order. -/
theorem file_right_comm (second : Instant) (buckets : List Bucket) (d e : Duration) :
    file second e (file second d buckets) = file second d (file second e buckets) := by
  have hopened : ∀ (older : List Bucket) (d e : Duration),
      file second e (older ++ [.single second d]) = older ++ [(Bucket.single second d).add e] :=
    fun older d e => file_concat_of_le (le_refl second) e older
  rcases List.eq_nil_or_concat buckets with rfl | ⟨older, newest, rfl⟩
  · rw [file_nil, file_nil, ← List.nil_append [Bucket.single second d],
      ← List.nil_append [Bucket.single second e], hopened, hopened, Bucket.single_add_comm]
  · rw [List.concat_eq_append]
    by_cases hle : second ≤ newest.second
    · rw [file_concat_of_le hle, file_concat_of_le hle, file_concat_of_le, file_concat_of_le,
        Bucket.add_right_comm]
      · exact hle
      · exact hle
    · rw [file_concat, file_concat, if_neg hle, if_neg hle,
        List.append_cons older newest [Bucket.single second d],
        List.append_cons older newest [Bucket.single second e], hopened, hopened,
        Bucket.single_add_comm]

end Meter

namespace History

/-- The latest reading does not depend on the order of the later ones. -/
theorem latestReading_append_perm (obs : List Observation) {more more' : List Observation}
    (h : (more'.map Observation.reading).Perm (more.map Observation.reading)) :
    latestReading (obs ++ more') = latestReading (obs ++ more) := by
  unfold latestReading
  rw [List.map_append, List.map_append, List.foldl_append, List.foldl_append]
  exact h.foldl_eq' (fun t _ u _ latest => max_right_comm latest t u) _

variable {second : Instant} {more : List Observation}

/-- Requests of one second move the latest second on to that one at most. -/
private theorem max_latestSecond_append (h : ∀ o ∈ more, o.reading.wholeSecond = second)
    (obs : List Observation) :
    max (latestSecond (obs ++ more)) second = max (latestSecond obs) second := by
  induction more using List.reverseRecOn with
  | nil => rw [List.append_nil]
  | append_singleton more o ih =>
      have hlast := h o (by simp)
      rw [← List.append_assoc, latestSecond_concat, hlast,
        max_assoc, max_self, ih fun p hp => h p (List.mem_append_left _ hp)]

/-- They all count for the same second. -/
theorem filed_append (h : ∀ o ∈ more, o.reading.wholeSecond = second) (obs : List Observation) :
    filed (obs ++ more) = filed obs ++
      (more.map Observation.duration).map (Filed.mk (max (latestSecond obs) second)) := by
  induction more using List.reverseRecOn with
  | nil => simp
  | append_singleton more o ih =>
      have hmore : ∀ p ∈ more, p.reading.wholeSecond = second :=
        fun p hp => h p (List.mem_append_left _ hp)
      have hlast := h o (by simp)
      rw [← List.append_assoc, filed_concat, ih hmore, latestSecond_concat, hlast,
        max_latestSecond_append hmore]
      simp

end History

namespace Meter

open History

private theorem stored_append_map (fs : List Filed) (second : Instant) (ds : List Duration) :
    stored (fs ++ ds.map (Filed.mk second)) =
      ds.foldl (fun buckets d => file second d buckets) (stored fs) := by
  unfold stored
  rw [List.foldl_append, List.foldl_map]

private theorem eq_of_buckets_eq {m m' : Meter} (hretention : m.retention = m'.retention)
    (hbuckets : m.buckets = m'.buckets) : m = m' := by
  cases m
  cases m'
  cases hretention
  cases hbuckets
  rfl

/-- Requests of one second leave the same meter behind in any order. -/
theorem recordAll_append_perm {m : Meter} (hm : m.buckets = []) (obs : List Observation)
    {second : Instant} {more more' : List Observation}
    (hsecond : ∀ o ∈ more, o.reading.wholeSecond = second)
    (hreadings : (more'.map Observation.reading).Perm (more.map Observation.reading))
    (hdurations : (more'.map Observation.duration).Perm (more.map Observation.duration)) :
    m.recordAll (obs ++ more') = m.recordAll (obs ++ more) := by
  have hsecond' : ∀ o ∈ more', o.reading.wholeSecond = second := by
    intro o ho
    obtain ⟨p, hp, hreading⟩ := List.mem_map.mp (hreadings.subset (List.mem_map_of_mem ho))
    rw [← hreading]
    exact hsecond p hp
  have hstored : stored (filed (obs ++ more')) = stored (filed (obs ++ more)) := by
    rw [filed_append hsecond', filed_append hsecond, stored_append_map, stored_append_map]
    exact hdurations.foldl_eq' (fun d _ e _ buckets => file_right_comm _ buckets d e) _
  refine eq_of_buckets_eq ?_ ?_
  · rw [recordAll_retention, recordAll_retention]
  · rw [recordAll_buckets_eq_filter hm, recordAll_buckets_eq_filter hm, hstored,
      latestReading_append_perm obs hreadings]

end Meter

/-- Requests one after another, each with the clock set to a reading of its own. -/
def requestsAt : List Instant → List Duration → List MeterEvent
  | t :: readings, d :: durations => .set t :: .record d :: requestsAt readings durations
  | _, _ => []

theorem History.ofEvents_requestsAt :
    ∀ {readings : List Instant} {durations : List Duration}, durations.length = readings.length →
      ∀ now : Instant,
        (ofEvents now (requestsAt readings durations)).map Observation.reading = readings ∧
        (ofEvents now (requestsAt readings durations)).map Observation.duration = durations := by
  intro readings
  induction readings with
  | nil =>
      intro durations h _
      rw [List.length_eq_zero_iff.mp h]
      exact ⟨rfl, rfl⟩
  | cons t readings ih =>
      intro durations h _
      cases durations with
      | nil => cases h
      | cons d durations =>
          obtain ⟨hreadings, hdurations⟩ := ih (Nat.succ.inj h) t
          exact ⟨congrArg (t :: ·) hreadings, congrArg (d :: ·) hdurations⟩

namespace ClockedMeter

/--
**The order of requests within a second does not matter.**  Whichever of them ended first and
whatever the clock showed inside the second, the meter is the same afterwards, and so is
everything it will answer.
-/
theorem run_order_irrelevant {retention : Duration} {m : Meter}
    (hm : Meter.new? retention = some m) (start : Instant) (events : List MeterEvent)
    {second : Instant} {readings readings' : List Instant} {durations durations' : List Duration}
    (hsecond : ∀ t ∈ readings, t.wholeSecond = second)
    (hlength : durations.length = readings.length) (hreadings : readings'.Perm readings)
    (hdurations : durations'.Perm durations) :
    let c := ClockedMeter.run ⟨m, start⟩ events
    let given := c.run (requestsAt readings durations)
    let permuted := c.run (requestsAt readings' durations')
    permuted.meter = given.meter ∧
    ∀ (now : Instant) (window : Duration),
      (permuted.set now).snapshot window = (given.set now).snapshot window := by
  intro c given permuted
  obtain ⟨-, -, hempty⟩ := Meter.new?_wellKept hm
  have hlength' : durations'.length = readings'.length := by
    rw [hdurations.length_eq, hreadings.length_eq, hlength]
  obtain ⟨hread, htook⟩ := History.ofEvents_requestsAt hlength c.now
  obtain ⟨hread', htook'⟩ := History.ofEvents_requestsAt hlength' c.now
  have hcounts : ∀ o ∈ History.ofEvents c.now (requestsAt readings durations),
      o.reading.wholeSecond = second := by
    intro o ho
    refine hsecond o.reading ?_
    rw [← hread]
    exact List.mem_map_of_mem ho
  have hsame : permuted.meter = given.meter := by
    rw [run_run_meter ⟨m, start⟩ events, run_run_meter ⟨m, start⟩ events]
    refine Meter.recordAll_append_perm hempty _ hcounts ?_ ?_
    · rw [hread, hread']
      exact hreadings
    · rw [htook, htook']
      exact hdurations
  refine ⟨hsame, fun now window => ?_⟩
  show permuted.meter.snapshot now window = given.meter.snapshot now window
  rw [hsame]

/-- The second after a request: late in it the request has expired, and at its start it has not. -/
theorem run_order_irrelevant_halfSecondLate :
    let retention : Duration := ⟨1500000000, by decide⟩
    let early : Instant := ⟨1000000000, by decide, by decide⟩
    let late : Instant := ⟨1900000000, by decide, by decide⟩
    let c := ClockedMeter.run ⟨⟨retention, [], by decide⟩, .epoch⟩ [.record .second]
    Meter.new? retention = some ⟨retention, [], by decide⟩ ∧
    (∀ t ∈ [early, late, early], t.wholeSecond = early) ∧
    [late, early, early].Perm [early, late, early] ∧
    [Duration.zero, .longest, .second].Perm [.longest, .second, .zero] ∧
    (c.run (requestsAt [late, early, early] [.zero, .longest, .second])).meter =
      (c.run (requestsAt [early, late, early] [.longest, .second, .zero])).meter ∧
    (c.run (requestsAt [early] [.longest])).meter.buckets.length = 2 ∧
    (c.run (requestsAt [late] [.zero])).meter.buckets.length = 1 := by
  intro retention early late c
  have hnew : Meter.new? retention = some ⟨retention, [], by decide⟩ := by decide
  have hsecond : ∀ t ∈ [early, late, early], t.wholeSecond = early := by decide
  have hreadings : [late, early, early].Perm [early, late, early] := by decide
  have hdurations : [Duration.zero, .longest, .second].Perm [.longest, .second, .zero] := by decide
  exact ⟨hnew, hsecond, hreadings, hdurations,
    (run_order_irrelevant hnew .epoch [.record .second] hsecond rfl hreadings hdurations).1,
    by decide, by decide⟩

end ClockedMeter

end RequestMeter

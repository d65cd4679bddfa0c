/-
What a meter answers, told from what was recorded.

`Proofs/Meter/History.lean` says which requests a meter still holds.  This file says what a
snapshot makes of them: a snapshot counts the retained requests whose second lies within
the window, and describes them as if they had never been put into buckets.  The rate is
taken from the first of their seconds to the last, both included.

Two things have to cancel for that.  The reading from the newest bucket back adds up sums
that may each have stopped at the longest duration; stopping early and stopping late come
to the same, so the order of adding does not matter (`foldl_addOlder_addNewest`).  And the
span of the rate must not stop, which it could only do if a second lay before the epoch.

Retention then drops out wherever the window is the stricter of the two.
-/
import RequestMeter.Proofs.Meter.History
import RequestMeter.Meter.Snapshot

namespace RequestMeter

namespace History

/-- The requests that a snapshot counts: neither expired nor before the window. -/
def counted (retention window : Duration) (now : Instant) (obs : List Observation) :
    List Filed :=
  after (now.nanos - window.nanos) (retained retention obs)

/-- Durations added up exactly. -/
def totalNanos (fs : List Filed) : Nat := fs.foldl (fun n f => n + f.duration.nanos) 0

private theorem totalNanos_concat (fs : List Filed) (f : Filed) :
    totalNanos (fs ++ [f]) = totalNanos fs + f.duration.nanos := by
  simp [totalNanos]

theorem counted_inOrder (retention window : Duration) (now : Instant)
    (obs : List Observation) : InOrder (counted retention window now obs) :=
  ((filed_inOrder obs).after _).after _

private theorem epoch_le_filed (obs : List Observation) :
    ∀ f ∈ filed obs, Instant.epoch ≤ f.second := by
  intro f hf
  unfold filed at hf
  obtain ⟨i, hi, rfl⟩ := List.mem_mapIdx.mp hf
  rw [latestSecond_eq, Instant.le_iff, Instant.epoch_nanos, Instant.wholeSecond_nanos]
  omega

theorem epoch_le_counted (retention window : Duration) (now : Instant)
    (obs : List Observation) :
    ∀ f ∈ counted retention window now obs, Instant.epoch ≤ f.second := by
  intro f hf
  exact epoch_le_filed obs f (List.mem_filter.mp (List.mem_filter.mp hf).1).1

end History

open History

/-! ### What a tally says of the requests it was made from

A tally is made from the newest bucket back, while requests come one after another at the other end.
`Tally.addNewest` adds a request at that end, so that a tally can be followed along a history.
-/

/-- A tally that is exact but for the sum, which stops at the longest duration. -/
structure Tally.Describes (t : Tally) (fs : List Filed) : Prop where
  requests : t.requests = fs.length
  total : t.total.nanos = min (totalNanos fs) Duration.longest.nanos
  least_mem : t.least ∈ fs.map Filed.duration
  least_le : ∀ f ∈ fs, t.least ≤ f.duration
  greatest_mem : t.greatest ∈ fs.map Filed.duration
  le_greatest : ∀ f ∈ fs, f.duration ≤ t.greatest
  newest_mem : t.newest ∈ fs.map Filed.second
  le_newest : ∀ f ∈ fs, f.second ≤ t.newest
  oldest_mem : t.oldest ∈ fs.map Filed.second
  oldest_le : ∀ f ∈ fs, t.oldest ≤ f.second

namespace Tally

/-- A single request. -/
def ofFiled (f : Filed) : Tally := ofBucket (.single f.second f.duration)

/-- One more request, of a second not before any other. -/
def addNewest (t : Tally) (f : Filed) : Tally where
  requests := t.requests + 1
  total := t.total + f.duration
  least := min t.least f.duration
  greatest := max t.greatest f.duration
  newest := f.second
  oldest := t.oldest

theorem ofFiled_describes (f : Filed) : (ofFiled f).Describes [f] := by
  refine ⟨rfl, ?_, List.mem_singleton.mpr rfl, List.forall_mem_singleton.mpr (le_refl _),
    List.mem_singleton.mpr rfl, List.forall_mem_singleton.mpr (le_refl _),
    List.mem_singleton.mpr rfl, List.forall_mem_singleton.mpr (le_refl _),
    List.mem_singleton.mpr rfl, List.forall_mem_singleton.mpr (le_refl _)⟩
  show f.duration.nanos = min (0 + f.duration.nanos) Duration.longest.nanos
  have hlt := f.duration.nanos_lt
  rw [Duration.longest_nanos]
  omega

theorem Describes.addNewest {t : Tally} {fs : List Filed} (h : t.Describes fs) {f : Filed}
    (hf : InOrder (fs ++ [f])) : (t.addNewest f).Describes (fs ++ [f]) := by
  have hleast : (t.addNewest f).least = min t.least f.duration := rfl
  have hgreatest : (t.addNewest f).greatest = max t.greatest f.duration := rfl
  refine ⟨?_, ?_, ?_, ?_, ?_, ?_, ?_, hf.le_last, ?_, ?_⟩
  · show t.requests + 1 = _
    rw [h.requests, List.length_append]
    rfl
  · show (t.total + f.duration).nanos = _
    rw [Duration.add_nanos, h.total, totalNanos_concat, Duration.longest_nanos]
    omega
  · rw [List.map_append, List.mem_append]
    rcases le_total t.least f.duration with hle | hle
    · left
      rw [hleast, min_eq_left hle]
      exact h.least_mem
    · right
      rw [hleast, min_eq_right hle]
      exact List.mem_singleton.mpr rfl
  · intro g hg
    rw [hleast]
    rcases List.mem_append.mp hg with hg | hg
    · exact min_le_of_left_le (h.least_le g hg)
    · rw [List.mem_singleton.mp hg]
      exact min_le_right _ _
  · rw [List.map_append, List.mem_append]
    rcases le_total f.duration t.greatest with hle | hle
    · left
      rw [hgreatest, max_eq_left hle]
      exact h.greatest_mem
    · right
      rw [hgreatest, max_eq_right hle]
      exact List.mem_singleton.mpr rfl
  · intro g hg
    rw [hgreatest]
    rcases List.mem_append.mp hg with hg | hg
    · exact le_max_of_le_left (h.le_greatest g hg)
    · rw [List.mem_singleton.mp hg]
      exact le_max_right _ _
  · exact List.mem_map.mpr ⟨f, by simp, rfl⟩
  · rw [List.map_append, List.mem_append]
    exact Or.inl h.oldest_mem
  · intro g hg
    rcases List.mem_append.mp hg with hg | hg
    · exact h.oldest_le g hg
    · -- the oldest second is that of some request, and none counts for a later one than `f`
      obtain ⟨first, hfirst, hsecond⟩ := List.mem_map.mp h.oldest_mem
      rw [List.mem_singleton.mp hg]
      show t.oldest ≤ f.second
      rw [← hsecond]
      exact hf.le_last first (List.mem_append_left _ hfirst)

/-! ### Adding up buckets is adding up their requests

A request that is filed changes the newest bucket, which is the first one that a tally reads.  So
what is added to the first has to come out as if it had been added after all the others.
-/

/-- A request can be added before older buckets or after them. -/
private theorem foldl_addOlder_addNewest (f : Filed) :
    ∀ (older : List Bucket) (t : Tally),
      older.foldl addOlder (t.addNewest f) = (older.foldl addOlder t).addNewest f := by
  intro older
  induction older with
  | nil => intro t; rfl
  | cons b rest ih =>
      intro t
      have hswap : (t.addNewest f).addOlder b = (t.addOlder b).addNewest f := by
        apply Tally.ext
        · show t.requests + 1 + b.requests = t.requests + b.requests + 1
          omega
        · exact Duration.add_right_comm ..
        · exact min_right_comm ..
        · exact max_right_comm ..
        · rfl
        · rfl
      rw [List.foldl_cons, List.foldl_cons, hswap, ih]

theorem ofBucket_add (b : Bucket) (d : Duration) :
    ofBucket (b.add d) = (ofBucket b).addNewest ⟨b.second, d⟩ := rfl

theorem addOlder_ofFiled (f : Filed) (b : Bucket) :
    (ofFiled f).addOlder b = (ofBucket b).addNewest f := by
  apply Tally.ext
  · show 1 + b.requests = b.requests + 1
    omega
  · exact Duration.add_comm ..
  · exact min_comm ..
  · exact max_comm ..
  · rfl
  · rfl

/-- Filing a request of a second not before any other adds it to the tally. -/
theorem ofBuckets?_file (older : List Bucket) {newest : Bucket} {f : Filed}
    (hle : newest.second ≤ f.second) :
    ofBuckets? (Meter.file f.second f.duration (older ++ [newest])).reverse =
      (ofBuckets? (older ++ [newest]).reverse).map (addNewest · f) := by
  have hbefore : ofBuckets? (older ++ [newest]).reverse
      = some (older.reverse.foldl addOlder (ofBucket newest)) := by
    simp [ofBuckets?]
  rw [hbefore, Meter.file_concat, Option.map_some]
  by_cases hge : f.second ≤ newest.second
  · have hsame : newest.second = f.second := le_antisymm hle hge
    have hadd : ofBucket (newest.add f.duration) = (ofBucket newest).addNewest f := by
      rw [ofBucket_add, hsame]
    rw [if_pos hge, List.reverse_append, List.reverse_singleton, List.singleton_append]
    show some (older.reverse.foldl addOlder (ofBucket (newest.add f.duration))) = _
    rw [hadd, foldl_addOlder_addNewest]
  · rw [if_neg hge, List.reverse_append]
    show some (older.reverse.foldl addOlder ((ofFiled f).addOlder newest)) = _
    rw [addOlder_ofFiled, foldl_addOlder_addNewest]

/-- The tally of the buckets of some requests describes the requests. -/
theorem ofBuckets?_stored {fs : List Filed} (h : InOrder fs) (hne : fs ≠ []) :
    ∃ t, ofBuckets? (Meter.stored fs).reverse = some t ∧ t.Describes fs := by
  induction fs using List.reverseRecOn with
  | nil => exact absurd rfl hne
  | append_singleton fs f ih =>
      rcases List.eq_nil_or_concat fs with rfl | ⟨before, last, rfl⟩
      · exact ⟨ofFiled f, rfl, ofFiled_describes f⟩
      · rw [List.concat_eq_append] at h ih ⊢
        obtain ⟨t, htally, hdescribes⟩ := ih h.of_concat (by simp)
        obtain ⟨older, newest, hstored, hnewest⟩ := Meter.stored_newest h.of_concat
        have hle : newest.second ≤ f.second := by
          rw [hnewest]
          exact h.le_last last (by simp)
        rw [hstored] at htally
        refine ⟨t.addNewest f, ?_, hdescribes.addNewest h⟩
        rw [Meter.stored_concat, hstored, ofBuckets?_file older hle, htally]
        rfl

end Tally

/-! ### What a snapshot says of them -/

/-- What a snapshot has to say of the requests it counts. -/
structure Snapshot.Describes (s : Snapshot) (fs : List Filed) : Prop where
  requests : s.requests = fs.length
  /-- The sum may stop at the longest duration, and the average at what 64 bits can hold. -/
  average : s.average.nanos =
    min (min (totalNanos fs) Duration.longest.nanos / fs.length) 18446744073709551615
  least_mem : s.least ∈ fs.map Filed.duration
  least_le : ∀ f ∈ fs, s.least ≤ f.duration
  greatest_mem : s.greatest ∈ fs.map Filed.duration
  le_greatest : ∀ f ∈ fs, f.duration ≤ s.greatest
  /-- The span of the rate is exact. -/
  rate : ∃ first ∈ fs.map Filed.second, ∃ last ∈ fs.map Filed.second,
    (∀ f ∈ fs, first ≤ f.second ∧ f.second ≤ last) ∧
    ∃ span : Duration, (span.nanos : Int) = last.nanos - first.nanos + 1000000000 ∧
      s.rate = Binary64.ofNat fs.length / span.inSeconds

namespace Tally

theorem span_nanos {t : Tally} (hepoch : Instant.epoch ≤ t.oldest) (hle : t.oldest ≤ t.newest) :
    (t.span.nanos : Int) = t.newest.nanos - t.oldest.nanos + 1000000000 := by
  have hlt := t.newest.nanos_lt
  have hsince := Instant.since?_nanos hle
  obtain ⟨d, hd, hnanos⟩ := Option.map_eq_some_iff.mp hsince
  rw [Instant.le_iff] at hepoch hle
  rw [Instant.epoch_nanos] at hepoch
  unfold span
  rw [hd, Option.getD_some, Duration.add_nanos, Duration.second_nanos]
  omega

private theorem average_nanos (t : Tally) :
    t.average.nanos = min (t.total.nanos / t.requests) 18446744073709551615 := by
  unfold average
  rw [Duration.ofNanos_nanos]
  omega

namespace Describes

variable {t : Tally} {fs : List Filed}

theorem oldest_le_newest (h : t.Describes fs) : t.oldest ≤ t.newest := by
  obtain ⟨first, hfirst, holdest⟩ := List.mem_map.mp h.oldest_mem
  rw [← holdest]
  exact h.le_newest first hfirst

theorem epoch_le_oldest (h : t.Describes fs) (hepoch : ∀ f ∈ fs, Instant.epoch ≤ f.second) :
    Instant.epoch ≤ t.oldest := by
  obtain ⟨first, hfirst, holdest⟩ := List.mem_map.mp h.oldest_mem
  rw [← holdest]
  exact hepoch first hfirst

theorem snapshot (h : t.Describes fs) (hepoch : ∀ f ∈ fs, Instant.epoch ≤ f.second) :
    (Snapshot.ofTally t).Describes fs := by
  refine ⟨h.requests, ?_, h.least_mem, h.least_le, h.greatest_mem, h.le_greatest,
    t.oldest, h.oldest_mem, t.newest, h.newest_mem,
    fun f hf => ⟨h.oldest_le f hf, h.le_newest f hf⟩, t.span,
    span_nanos (h.epoch_le_oldest hepoch) h.oldest_le_newest, ?_⟩
  · show t.average.nanos = _
    rw [average_nanos, h.total, h.requests]
  · show t.rate = _
    rw [rate, h.requests]

end Describes

end Tally

/-- A window shows the buckets of the requests it counts. -/
theorem Meter.within_recordAll {m : Meter} (hm : m.buckets = []) (obs : List Observation)
    (now : Instant) (window : Duration) :
    (m.recordAll obs).within now window =
      (stored (counted m.retention window now obs)).reverse := by
  have hbuckets := recordAll_buckets hm obs
  have hascending : Ascending (m.recordAll obs).buckets := by
    rw [hbuckets]
    exact stored_ascending _
  have hinOrder : InOrder (retained m.retention obs) := (filed_inOrder obs).after _
  rw [within_eq_filter hascending, hbuckets, stored_after hinOrder]
  rfl

/-- A snapshot depends on the past only through the requests it counts. -/
theorem Meter.snapshot_recordAll {m : Meter} (hm : m.buckets = []) (obs : List Observation)
    (now : Instant) {window : Duration} (hw : window ≠ .zero) :
    (m.recordAll obs).snapshot now window =
      ((Tally.ofBuckets? (stored (counted m.retention window now obs)).reverse).map
        Snapshot.ofTally).getD .empty := by
  rw [snapshot_of_ne_zero hw, within_recordAll hm]

namespace ClockedMeter

theorem run_snapshot {retention : Duration} {m : Meter} (hm : Meter.new? retention = some m)
    (start now : Instant) (events : List MeterEvent) {window : Duration}
    (hw : window ≠ .zero) :
    ((ClockedMeter.run ⟨m, start⟩ events).set now).snapshot window =
      ((Tally.ofBuckets? (Meter.stored
          (counted retention window now (ofEvents start events))).reverse).map
        Snapshot.ofTally).getD .empty := by
  obtain ⟨-, hretention, hempty⟩ := Meter.new?_wellKept hm
  show (ClockedMeter.run ⟨m, start⟩ events).meter.snapshot now window = _
  rw [run_meter, Meter.snapshot_recordAll hempty _ _ hw, hretention]

/-- A snapshot that counts a request describes those it counts. -/
theorem run_describes_of_requests_pos {retention : Duration} {m : Meter}
    (hm : Meter.new? retention = some m) (start now : Instant) (events : List MeterEvent)
    {window : Duration}
    (hpos : 0 < (((ClockedMeter.run ⟨m, start⟩ events).set now).snapshot window).requests) :
    counted retention window now (ofEvents start events) ≠ [] ∧
      (((ClockedMeter.run ⟨m, start⟩ events).set now).snapshot window).Describes
        (counted retention window now (ofEvents start events)) := by
  have hw : window ≠ .zero := by
    rintro rfl
    exact absurd hpos (Nat.lt_irrefl 0)
  have hsnapshot := run_snapshot hm start now events hw
  have hseen : counted retention window now (ofEvents start events) ≠ [] := by
    intro hnone
    rw [hsnapshot, hnone] at hpos
    exact absurd hpos (Nat.lt_irrefl 0)
  obtain ⟨t, htally, hdescribes⟩ := Tally.ofBuckets?_stored
    (counted_inOrder retention window now (ofEvents start events)) hseen
  rw [htally] at hsnapshot
  rw [hsnapshot]
  exact ⟨hseen, hdescribes.snapshot (epoch_le_counted retention window now _)⟩

/--
**A snapshot describes the requests it counts**, whatever way the clock has gone.  It is
empty if it counts none or if the window has no length.
-/
theorem run_snapshot_describes {retention : Duration} {m : Meter}
    (hm : Meter.new? retention = some m) (start now : Instant) (events : List MeterEvent)
    (window : Duration) :
    let seen := counted retention window now (ofEvents start events)
    let answer := ((ClockedMeter.run ⟨m, start⟩ events).set now).snapshot window
    (window ≠ .zero → seen ≠ [] → answer.Describes seen) ∧
    (window = .zero ∨ seen = [] → answer = .empty) := by
  intro seen answer
  constructor
  · intro hw hseen
    have hepoch := epoch_le_counted retention window now (ofEvents start events)
    obtain ⟨t, htally, hdescribes⟩ := Tally.ofBuckets?_stored
      (counted_inOrder retention window now (ofEvents start events)) hseen
    have hanswer : answer = Snapshot.ofTally t := by
      show ClockedMeter.snapshot _ _ = _
      rw [run_snapshot hm start now events hw, htally]
      rfl
    rw [hanswer]
    exact hdescribes.snapshot hepoch
  · intro hnone
    by_cases hw : window = .zero
    · subst hw
      exact Meter.snapshot_zero _ _
    · have hseen : counted retention window now (ofEvents start events) = [] :=
        hnone.resolve_left hw
      show ClockedMeter.snapshot _ _ = _
      rw [run_snapshot hm start now events hw, hseen]
      rfl

theorem run_snapshot_describes_setBackRun :
    Meter.new? (.ofSeconds 4) = some ⟨.ofSeconds 4, [], by decide⟩ ∧
    (((ClockedMeter.run ⟨⟨.ofSeconds 4, [], by decide⟩, .earliest⟩ setBackRun).set
        .epoch).snapshot .second).Describes
      (counted (.ofSeconds 4) .second .epoch (ofEvents .earliest setBackRun)) ∧
    (counted (.ofSeconds 4) .second .epoch (ofEvents .earliest setBackRun)).map
      Filed.duration = [.second, .zero, .second] := by
  have hnew : Meter.new? (.ofSeconds 4) = some ⟨.ofSeconds 4, [], by decide⟩ := by decide
  exact ⟨hnew, (run_snapshot_describes hnew .earliest .epoch setBackRun .second).1
    (by decide) (by decide), by decide⟩

/-! ### Retention and windows

Eviction goes by the readings at which requests were recorded, a window by the reading at which it
is asked for.  If this is not before those and the window is within the retention, the cutoff of the
window is the later one, and all that was evicted lies before it.
-/

/-- Where the window opens no earlier than the retention, nothing it shows has expired. -/
theorem counted_eq_after {retention window : Duration} {now : Instant}
    {obs : List Observation} (hnow : latestReading obs ≤ now) (hle : window ≤ retention) :
    counted retention window now obs = after (now.nanos - window.nanos) (filed obs) := by
  unfold counted retained
  rw [after_after]
  congr 1
  rw [Instant.le_iff] at hnow
  rw [Duration.le_iff] at hle
  omega

/--
**Eviction cannot be seen through a window within the retention**: meters of different
retentions answer alike, unless the clock stands before a reading that was recorded at.
-/
theorem run_snapshot_eq_of_window_le {retention₁ retention₂ : Duration} {m₁ m₂ : Meter}
    (hm₁ : Meter.new? retention₁ = some m₁) (hm₂ : Meter.new? retention₂ = some m₂)
    (start now : Instant) (events : List MeterEvent)
    (hnow : ∀ o ∈ ofEvents start events, o.reading ≤ now) {window : Duration}
    (hle₁ : window ≤ retention₁) (hle₂ : window ≤ retention₂) :
    ((ClockedMeter.run ⟨m₁, start⟩ events).set now).snapshot window =
      ((ClockedMeter.run ⟨m₂, start⟩ events).set now).snapshot window := by
  by_cases hw : window = .zero
  · subst hw
    show Meter.snapshot _ _ _ = Meter.snapshot _ _ _
    rw [Meter.snapshot_zero, Meter.snapshot_zero]
  · have hlatest := latestReading_le hnow
    rw [run_snapshot hm₁ start now events hw, run_snapshot hm₂ start now events hw,
      counted_eq_after hlatest hle₁, counted_eq_after hlatest hle₂]

/-- One of the two meters has let go of a bucket that the other still holds. -/
theorem run_snapshot_eq_of_window_le_setBackRun :
    Meter.new? (.ofSeconds 4) = some ⟨.ofSeconds 4, [], by decide⟩ ∧
    Meter.new? .second = some ⟨.second, [], by decide⟩ ∧
    (∀ o ∈ ofEvents .earliest setBackRun,
      o.reading ≤ latestReading (ofEvents .earliest setBackRun)) ∧
    Duration.second ≤ .ofSeconds 4 ∧ Duration.second ≤ .second ∧
    ((ClockedMeter.run ⟨⟨.ofSeconds 4, [], by decide⟩, .earliest⟩ setBackRun).set
        (latestReading (ofEvents .earliest setBackRun))).snapshot .second =
      ((ClockedMeter.run ⟨⟨.second, [], by decide⟩, .earliest⟩ setBackRun).set
        (latestReading (ofEvents .earliest setBackRun))).snapshot .second ∧
    (ClockedMeter.run ⟨⟨.ofSeconds 4, [], by decide⟩, .earliest⟩
      setBackRun).meter.buckets.length = 2 ∧
    (ClockedMeter.run ⟨⟨.second, [], by decide⟩, .earliest⟩
      setBackRun).meter.buckets.length = 1 := by
  have hlong : Meter.new? (.ofSeconds 4) = some ⟨.ofSeconds 4, [], by decide⟩ := by decide
  have hshort : Meter.new? .second = some ⟨.second, [], by decide⟩ := by decide
  have hnow : ∀ o ∈ ofEvents .earliest setBackRun,
      o.reading ≤ latestReading (ofEvents .earliest setBackRun) := by decide
  have hle : Duration.second ≤ .ofSeconds 4 := by decide
  have hself : Duration.second ≤ .second := by decide
  exact ⟨hlong, hshort, hnow, hle, hself,
    run_snapshot_eq_of_window_le hlong hshort .earliest _ setBackRun hnow hle hself,
    by decide, by decide⟩

end ClockedMeter

end RequestMeter

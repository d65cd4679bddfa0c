/-
What a meter holds, told from what was recorded.

A history is the list of the requests that were recorded, each with the reading of the
clock.  A request counts for the latest second seen up to then, its own included, and it
is retained as long as that second lies after the latest reading less the retention.
`recordAll_buckets` says that the buckets of a meter are those requests and no others,
filed one after another into an empty meter.  Nothing else of the past matters: not when
a bucket was evicted, nor whether the meter was empty in between.

The argument is one step long.  Where the clock shows a new latest reading, the request
counts for the second of that reading, and filing and eviction both go by it.  Where it
has been set back, nothing expires that had not expired before; the second of the latest
reading is still held, because the retention is a second at least, and takes the request.
-/
import RequestMeter.Proofs.Meter.Invariant
import Mathlib.Data.List.Induction

namespace RequestMeter

/-- A request that was recorded. -/
structure Observation where
  /-- What the clock showed. -/
  reading : Instant
  duration : Duration
deriving DecidableEq

/-- A request and the second it counts for. -/
structure Filed where
  second : Instant
  duration : Duration
deriving DecidableEq

namespace History

/-- The requests that a run records, if the clock shows `now` at first. -/
def ofEvents (now : Instant) : List MeterEvent → List Observation
  | [] => []
  | .record d :: rest => ⟨now, d⟩ :: ofEvents now rest
  | .set t :: rest => ofEvents t rest
  | .advance d :: rest => ofEvents ((now.add? d).getD now) rest

/-- The latest reading of all. -/
def latestReading (obs : List Observation) : Instant :=
  (obs.map Observation.reading).foldl max .earliest

/-- The latest second of all; no second is before the epoch. -/
def latestSecond (obs : List Observation) : Instant :=
  (obs.map fun o => o.reading.wholeSecond).foldl max .epoch

/-- Each request with the second it counts for: the latest one up to then. -/
def filed (obs : List Observation) : List Filed :=
  obs.mapIdx fun i o => ⟨latestSecond (obs.take (i + 1)), o.duration⟩

/-- The requests that count for a second after a cutoff.  The cutoff is exact, and a clock
need not be able to show it. -/
def after (cutoff : Int) (fs : List Filed) : List Filed :=
  fs.filter fun f => decide (cutoff < f.second.nanos)

/-- The requests that have not expired. -/
def retained (retention : Duration) (obs : List Observation) : List Filed :=
  after ((latestReading obs).nanos - retention.nanos) (filed obs)

/-! ### One request more

Histories grow at the end, and the induction follows them.  So each part of the closed
form is told for one request more: a maximum takes in one reading more, and what was
filed before stays filed as it was.
-/

theorem latestReading_concat (obs : List Observation) (o : Observation) :
    latestReading (obs ++ [o]) = max (latestReading obs) o.reading := by
  simp [latestReading]

theorem latestReading_le {t : Instant} {obs : List Observation}
    (h : ∀ o ∈ obs, o.reading ≤ t) : latestReading obs ≤ t := by
  induction obs using List.reverseRecOn with
  | nil => exact Instant.earliest_le t
  | append_singleton obs o ih =>
      have hobs := ih fun p hp => h p (List.mem_append_left _ hp)
      rw [latestReading_concat]
      exact max_le hobs (h o (by simp))

theorem latestSecond_concat (obs : List Observation) (o : Observation) :
    latestSecond (obs ++ [o]) = max (latestSecond obs) o.reading.wholeSecond := by
  simp [latestSecond]

/-- The latest second is that of the latest reading. -/
theorem latestSecond_eq (obs : List Observation) :
    latestSecond obs = (latestReading obs).wholeSecond := by
  induction obs using List.reverseRecOn with
  | nil => rfl
  | append_singleton obs o ih =>
      rw [latestSecond_concat, latestReading_concat, Instant.wholeSecond_max, ih]

/-- Later requests do not change what a request counts for. -/
theorem filed_concat (obs : List Observation) (o : Observation) :
    filed (obs ++ [o]) = filed obs ++ [⟨latestSecond (obs ++ [o]), o.duration⟩] := by
  unfold filed
  rw [List.mapIdx_concat, List.take_of_length_le (by simp)]
  congr 1
  rw [List.mapIdx_eq_mapIdx_iff]
  intro i hi
  rw [List.take_append_of_le_length (by omega)]

theorem after_concat (cutoff : Int) (fs : List Filed) (f : Filed) :
    after cutoff (fs ++ [f]) =
      if cutoff < f.second.nanos then after cutoff fs ++ [f] else after cutoff fs := by
  unfold after
  rw [List.filter_append]
  by_cases h : cutoff < f.second.nanos
  · simp [h]
  · simp [h]

theorem after_after (a b : Int) (fs : List Filed) :
    after a (after b fs) = after (max a b) fs := by
  unfold after
  rw [List.filter_filter]
  congr 1
  funext f
  rw [← Bool.decide_and]
  congr 1
  rw [eq_iff_iff]
  omega

theorem latestReading_le_append (obs more : List Observation) :
    latestReading obs ≤ latestReading (obs ++ more) := by
  induction more using List.reverseRecOn with
  | nil => rw [List.append_nil]
  | append_singleton more o ih =>
      rw [← List.append_assoc, latestReading_concat]
      exact le_max_of_le_left ih

/-! ### Seconds never go back -/

/-- Seconds in the order of the requests. -/
def InOrder (fs : List Filed) : Prop := fs.Pairwise fun a b => a.second ≤ b.second

theorem filed_le (obs : List Observation) : ∀ f ∈ filed obs, f.second ≤ latestSecond obs := by
  induction obs using List.reverseRecOn with
  | nil => intro f hf; simp [filed] at hf
  | append_singleton obs o ih =>
      intro f hf
      rw [filed_concat] at hf
      rcases List.mem_append.mp hf with hf | hf
      · rw [latestSecond_concat]
        exact le_max_of_le_left (ih f hf)
      · rw [List.mem_singleton.mp hf]

theorem filed_inOrder (obs : List Observation) : InOrder (filed obs) := by
  induction obs using List.reverseRecOn with
  | nil => exact List.Pairwise.nil
  | append_singleton obs o ih =>
      unfold InOrder at ih ⊢
      rw [filed_concat, List.pairwise_append]
      refine ⟨ih, List.pairwise_singleton .., ?_⟩
      intro a ha b hb
      rw [List.mem_singleton.mp hb, latestSecond_concat]
      exact le_max_of_le_left (filed_le obs a ha)

/-- The last request counts for the latest second. -/
theorem InOrder.le_last {fs : List Filed} {f : Filed} (h : InOrder (fs ++ [f])) :
    ∀ g ∈ fs ++ [f], g.second ≤ f.second := by
  unfold InOrder at h
  rw [List.pairwise_append] at h
  intro g hg
  rcases List.mem_append.mp hg with hg | hg
  · exact h.2.2 g hg f (List.mem_singleton.mpr rfl)
  · rw [List.mem_singleton.mp hg]

theorem InOrder.of_concat {fs : List Filed} {f : Filed} (h : InOrder (fs ++ [f])) :
    InOrder fs :=
  h.sublist (List.sublist_append_left ..)

theorem InOrder.after {fs : List Filed} (h : InOrder fs) (cutoff : Int) :
    InOrder (History.after cutoff fs) :=
  h.sublist List.filter_sublist

end History

namespace Meter

open History

/-! ### Filing a history

This is the store of a meter that never evicts.  Eviction would be a filter on it, and the question
is what that filter does to requests that have been merged into buckets.  Buckets have one second
each, so filtering them and forgetting the requests are the same (`stored_after`).
-/

/-- The buckets of some requests that are filed one after another. -/
def stored (fs : List Filed) : List Bucket :=
  fs.foldl (fun buckets f => file f.second f.duration buckets) []

theorem stored_concat (fs : List Filed) (f : Filed) :
    stored (fs ++ [f]) = file f.second f.duration (stored fs) := by
  simp [stored]

theorem stored_ascending (fs : List Filed) : Ascending (stored fs) := by
  induction fs using List.reverseRecOn with
  | nil => exact List.Pairwise.nil
  | append_singleton fs f ih =>
      rw [stored_concat]
      exact file_ascending ih _ _

/-- A bucket is of the second of some request. -/
theorem exists_second_eq_of_mem_stored {fs : List Filed} {b : Bucket} (hb : b ∈ stored fs) :
    ∃ f ∈ fs, f.second = b.second := by
  induction fs using List.reverseRecOn generalizing b with
  | nil => simp [stored] at hb
  | append_singleton fs f ih =>
      have hrest : ∀ a ∈ stored fs, ∃ g ∈ fs ++ [f], g.second = a.second := by
        intro a ha
        obtain ⟨g, hg, hsecond⟩ := ih ha
        exact ⟨g, List.mem_append_left _ hg, hsecond⟩
      rw [stored_concat] at hb
      rcases mem_file (stored_ascending fs) hb with hold | ⟨newest, hnewest, rfl⟩ | rfl
      · exact hrest b hold
      · exact hrest newest hnewest
      · exact ⟨f, by simp, rfl⟩

theorem stored_le {t : Instant} (fs : List Filed) (h : ∀ f ∈ fs, f.second ≤ t) :
    ∀ b ∈ stored fs, b.second ≤ t := by
  intro b hb
  obtain ⟨f, hf, hsecond⟩ := exists_second_eq_of_mem_stored hb
  rw [← hsecond]
  exact h f hf

/-- The newest bucket is of the second that the last request counts for. -/
theorem stored_newest {fs : List Filed} {f : Filed} (h : InOrder (fs ++ [f])) :
    ∃ older newest, stored (fs ++ [f]) = older ++ [newest] ∧ newest.second = f.second := by
  obtain ⟨older, newest, hfile, hle, -⟩ :=
    file_newest (stored_ascending fs) f.second f.duration
  rw [← stored_concat] at hfile
  refine ⟨older, newest, hfile, ?_⟩
  exact le_antisymm (stored_le _ h.le_last newest (by rw [hfile]; simp)) hle

/-- A bucket of a later second than all others is opened behind them. -/
theorem file_of_lt {buckets : List Bucket} {second : Instant}
    (h : ∀ b ∈ buckets, b.second < second) (d : Duration) :
    file second d buckets = buckets ++ [.single second d] := by
  rcases List.eq_nil_or_concat buckets with rfl | ⟨older, newest, rfl⟩
  · rfl
  · rw [List.concat_eq_append] at h ⊢
    rw [file_concat, if_neg (not_le_of_gt (h newest (by simp)))]
    simp

/-- Evicting before filing and after it come to the same for a request that is kept. -/
theorem filter_file {buckets : List Bucket} (h : Ascending buckets) {second : Instant}
    {cutoff : Int} (hkept : cutoff < second.nanos) (d : Duration) :
    (file second d buckets).filter (isKept cutoff) =
      file second d (buckets.filter (isKept cutoff)) := by
  rcases file_cases h second d with ⟨older, newest, rfl, hle, hfile⟩ | ⟨hlt, hfile⟩
  · have hnewest : cutoff < newest.second.nanos := by
      rw [Instant.le_iff] at hle
      omega
    have hold : (older ++ [newest]).filter (isKept cutoff)
        = older.filter (isKept cutoff) ++ [newest] := by
      simp [isKept, hnewest]
    have hnew : (older ++ [newest.add d]).filter (isKept cutoff)
        = older.filter (isKept cutoff) ++ [newest.add d] := by
      simp [isKept, hnewest]
    rw [hfile, hnew, hold, file_concat, if_pos hle]
  · have hrest : ∀ b ∈ buckets.filter (isKept cutoff), b.second < second :=
      fun b hb => hlt b (List.mem_filter.mp hb).1
    rw [hfile, file_of_lt hrest]
    simp [isKept, hkept]

/-- Evicting buckets is forgetting the requests of their seconds. -/
theorem stored_after {fs : List Filed} (h : InOrder fs) (cutoff : Int) :
    (stored fs).filter (isKept cutoff) = stored (after cutoff fs) := by
  induction fs using List.reverseRecOn with
  | nil => rfl
  | append_singleton fs f ih =>
      by_cases hkept : cutoff < f.second.nanos
      · rw [stored_concat, after_concat, if_pos hkept, stored_concat,
          filter_file (stored_ascending fs) hkept, ih h.of_concat]
      · -- the last second is the latest, so nothing is left at all
        have hnone : after cutoff (fs ++ [f]) = [] := by
          unfold after
          rw [List.filter_eq_nil_iff]
          intro g hg
          have hle := h.le_last g hg
          rw [Instant.le_iff] at hle
          simp only [decide_eq_true_eq]
          omega
        rw [hnone]
        show _ = []
        rw [List.filter_eq_nil_iff]
        intro b hb
        have hle := stored_le _ h.le_last b hb
        rw [Instant.le_iff] at hle
        simp only [isKept, decide_eq_true_eq]
        omega

/-! ### Recording files the retained requests -/

/-- Records a history. -/
def recordAll (m : Meter) (obs : List Observation) : Meter :=
  obs.foldl (fun m o => m.record o.reading o.duration) m

theorem recordAll_concat (m : Meter) (obs : List Observation) (o : Observation) :
    m.recordAll (obs ++ [o]) = (m.recordAll obs).record o.reading o.duration := by
  simp [recordAll]

theorem recordAll_append (m : Meter) (obs more : List Observation) :
    m.recordAll (obs ++ more) = (m.recordAll obs).recordAll more :=
  List.foldl_append

theorem recordAll_retention (m : Meter) (obs : List Observation) :
    (m.recordAll obs).retention = m.retention := by
  induction obs using List.reverseRecOn with
  | nil => rfl
  | append_singleton obs o ih => rw [recordAll_concat, record_retention, ih]

/-- One request more is retained, and may make others expire. -/
theorem retained_concat (m : Meter) (obs : List Observation) (o : Observation) :
    retained m.retention (obs ++ [o]) =
      after (o.reading.nanos - m.retention.nanos) (retained m.retention obs) ++
        [⟨latestSecond (obs ++ [o]), o.duration⟩] := by
  unfold retained
  rw [filed_concat, after_concat, if_pos, after_after]
  · congr 2
    rw [latestReading_concat, Instant.max_nanos]
    omega
  · rw [latestSecond_eq]
    exact sub_retention_lt_wholeSecond m _

/-- Where the clock has been set back, nothing expires that had not expired before. -/
private theorem after_retained (m : Meter) {obs : List Observation} {t : Instant}
    (h : t ≤ latestReading obs) :
    after (t.nanos - m.retention.nanos) (retained m.retention obs) =
      retained m.retention obs := by
  unfold retained
  rw [after_after]
  congr 1
  rw [Instant.le_iff] at h
  omega

/-- The bucket of the latest second is still there. -/
private theorem stored_retained_newest (m : Meter) (obs : List Observation) (o : Observation) :
    ∃ older newest, stored (retained m.retention (obs ++ [o])) = older ++ [newest] ∧
      newest.second = latestSecond (obs ++ [o]) := by
  have hinOrder : InOrder (retained m.retention (obs ++ [o])) := (filed_inOrder _).after _
  rw [retained_concat] at hinOrder ⊢
  exact stored_newest hinOrder

/-- Filing by the second of the reading and filing by the latest second come to the same. -/
private theorem file_latestSecond (m : Meter) (obs : List Observation) (o : Observation) :
    file o.reading.wholeSecond o.duration
        (stored (after (o.reading.nanos - m.retention.nanos) (retained m.retention obs))) =
      file (latestSecond (obs ++ [o])) o.duration
        (stored (after (o.reading.nanos - m.retention.nanos) (retained m.retention obs))) := by
  rcases List.eq_nil_or_concat obs with rfl | ⟨before, last, rfl⟩
  · rfl
  rw [List.concat_eq_append]
  by_cases hle : o.reading ≤ latestReading (before ++ [last])
  · -- the clock has been set back, and the newest bucket takes the request
    obtain ⟨older, newest, hstored, hnewest⟩ := stored_retained_newest m before last
    have hlatest : latestSecond (before ++ [last] ++ [o]) = newest.second := by
      rw [hnewest, latestSecond_eq, latestSecond_eq, latestReading_concat, max_eq_left hle]
    have hback : o.reading.wholeSecond ≤ newest.second := by
      rw [← hlatest, latestSecond_concat]
      exact le_max_right _ _
    rw [after_retained m hle, hstored, file_concat, file_concat, if_pos hback, hlatest,
      if_pos (le_refl newest.second)]
  · -- the clock shows a new latest reading
    have hlatest : latestSecond (before ++ [last] ++ [o]) = o.reading.wholeSecond := by
      rw [latestSecond_eq, latestReading_concat, max_eq_right (le_of_not_ge hle)]
    rw [hlatest]

/-- **The buckets of a meter are its retained requests, filed one after another.** -/
theorem recordAll_buckets {m : Meter} (hm : m.buckets = []) (obs : List Observation) :
    (m.recordAll obs).buckets = stored (retained m.retention obs) := by
  induction obs using List.reverseRecOn with
  | nil => exact hm
  | append_singleton obs o ih =>
      have hascending : Ascending (m.recordAll obs).buckets := by
        rw [ih]
        exact stored_ascending _
      have hinOrder : InOrder (retained m.retention obs) := (filed_inOrder obs).after _
      rw [recordAll_concat, record_buckets, unexpired_eq_filter hascending, ih,
        recordAll_retention, stored_after hinOrder, file_latestSecond, retained_concat,
        stored_concat]

/-- What would be held without eviction, less what has expired. -/
theorem recordAll_buckets_eq_filter {m : Meter} (hm : m.buckets = []) (obs : List Observation) :
    (m.recordAll obs).buckets =
      (stored (filed obs)).filter
        (isKept ((latestReading obs).nanos - m.retention.nanos)) := by
  rw [recordAll_buckets hm, stored_after (filed_inOrder obs)]
  rfl

theorem mem_recordAll_iff {m : Meter} (hm : m.buckets = []) {obs : List Observation}
    {b : Bucket} :
    b ∈ (m.recordAll obs).buckets ↔
      b ∈ stored (filed obs) ∧ (latestReading obs).nanos - m.retention.nanos < b.second.nanos := by
  rw [recordAll_buckets_eq_filter hm, List.mem_filter, isKept, decide_eq_true_iff]

end Meter

/-- What a run does to a meter is to record its history. -/
theorem ClockedMeter.run_meter :
    ∀ (events : List MeterEvent) (c : ClockedMeter),
      (c.run events).meter = c.meter.recordAll (History.ofEvents c.now events) := by
  intro events
  induction events with
  | nil => intro c; rfl
  | cons e rest ih =>
      intro c
      show ((c.apply e).run rest).meter = _
      rw [ih]
      cases e with
      | record d => rfl
      | set t => rfl
      | advance d =>
          simp only [apply, advance?, History.ofEvents]
          cases c.now.add? d <;> rfl

/-- What comes after a run is recorded behind its history. -/
theorem ClockedMeter.run_run_meter (c : ClockedMeter) (events later : List MeterEvent) :
    ((c.run events).run later).meter =
      c.meter.recordAll
        (History.ofEvents c.now events ++ History.ofEvents (c.run events).now later) := by
  rw [run_meter, run_meter, Meter.recordAll_append]

end RequestMeter

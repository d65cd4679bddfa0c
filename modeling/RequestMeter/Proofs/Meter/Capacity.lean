/-
A meter never holds more buckets than its retention has seconds.

Measured from the clock this would fail: a clock that has been set back takes the cutoff with
it, while the newest bucket stays where it is.  What holds at any time is that the buckets
span less than the retention.  Only a new bucket can widen the span, and it is opened just
after everything a retention before it has gone (`record_spansLessThan`).  Seconds are whole, so
buckets that span less than the retention are no more than its seconds.

Under steady load, one request a second, the bound is met.  Each request then has a bucket of
its own, and the cutoff lets go of one bucket a second once the retention is full.
-/
import RequestMeter.Proofs.Meter.History

namespace RequestMeter

/-- Whole seconds, where a part of a second counts as one. -/
def Duration.secondsUp (d : Duration) : Nat := (d.nanos + 999999999) / 1000000000

namespace Meter

/-! ### The buckets span less than the retention -/

/-- Any two buckets are less than a length of time apart. -/
def SpansLessThan (length : Duration) (buckets : List Bucket) : Prop :=
  ∀ a ∈ buckets, ∀ b ∈ buckets, b.second.nanos - a.second.nanos < length.nanos

/-- Filing keeps the seconds of the buckets, and may add the one it files for as the last. -/
private theorem second_of_mem_file {buckets : List Bucket} (h : Ascending buckets)
    {second : Instant}
    {d : Duration} {b : Bucket} (hb : b ∈ file second d buckets) :
    (∃ a ∈ buckets, a.second = b.second) ∨
      (b.second = second ∧ ∀ a ∈ buckets, a.second < second) := by
  rcases file_cases h second d with ⟨older, newest, rfl, -, hfile⟩ | ⟨hlt, hfile⟩
  · rw [hfile] at hb
    left
    rcases List.mem_append.mp hb with hold | hnew
    · exact ⟨b, List.mem_append_left _ hold, rfl⟩
    · rw [List.mem_singleton.mp hnew]
      exact ⟨newest, by simp, rfl⟩
  · rw [hfile] at hb
    rcases List.mem_append.mp hb with hold | hnew
    · exact Or.inl ⟨b, hold, rfl⟩
    · rw [List.mem_singleton.mp hnew]
      exact Or.inr ⟨rfl, hlt⟩

/-- A bucket that is opened now is less than the retention away from all that are left. -/
theorem wholeSecond_sub_lt {m : Meter} (h : m.WellKept) {now : Instant} {b : Bucket}
    (hb : b ∈ m.unexpired now) (hlt : b.second < now.wholeSecond) :
    now.wholeSecond.nanos - b.second.nanos < m.retention.nanos := by
  rw [unexpired_eq_filter h.ascending, List.mem_filter] at hb
  have hepoch := (h.consistent b hb.1).epoch_le
  have hkept : now.nanos - m.retention.nanos < b.second.nanos := by
    simpa [isKept] using hb.2
  have hsecond := Instant.wholeSecond_nanos now
  rw [Instant.le_iff, Instant.epoch_nanos] at hepoch
  rw [Instant.lt_iff] at hlt
  -- no bucket is of a second before the epoch, so the clock shows an instant after it
  omega

theorem record_spansLessThan {m : Meter} (h : m.WellKept)
    (hspan : SpansLessThan m.retention m.buckets) (now : Instant) (d : Duration) :
    SpansLessThan m.retention (m.record now d).buckets := by
  have hleft : ∀ b ∈ m.unexpired now, b ∈ m.buckets := fun b hb =>
    (List.dropWhile_sublist _).subset hb
  have ha := unexpired_ascending h.ascending now
  rw [record_buckets]
  intro x hx y hy
  rcases second_of_mem_file ha hx with ⟨a, hamem, hasecond⟩ | ⟨hxsecond, hxlt⟩
  · rcases second_of_mem_file ha hy with ⟨b, hbmem, hbsecond⟩ | ⟨hysecond, hylt⟩
    · rw [← hasecond, ← hbsecond]
      exact hspan a (hleft a hamem) b (hleft b hbmem)
    · rw [← hasecond, hysecond]
      exact wholeSecond_sub_lt h hamem (hylt a hamem)
  · -- a bucket that is opened is the last, so nothing lies after it
    have hretention := m.second_le_retention
    rw [Duration.le_iff, Duration.second_nanos] at hretention
    rcases second_of_mem_file ha hy with ⟨b, hbmem, hbsecond⟩ | ⟨hysecond, -⟩
    · have hbefore := hxlt b hbmem
      rw [Instant.lt_iff] at hbefore
      rw [← hbsecond, hxsecond]
      omega
    · rw [hxsecond, hysecond]
      omega

/-! ### From the span to the number

A span by itself says nothing of a number.  But seconds that are whole and in strict order are a
second apart at least, so one bucket more takes a second more.
-/

/-- Whole seconds in strict order are a second apart at least. -/
private theorem exists_second_le {oldest : Bucket} :
    ∀ {newer : List Bucket}, Ascending (oldest :: newer) →
      (∀ b ∈ oldest :: newer, b.Consistent) →
      ∃ newest ∈ oldest :: newer,
        oldest.second.nanos + newer.length * 1000000000 ≤ newest.second.nanos := by
  intro newer
  induction newer generalizing oldest with
  | nil => intro _ _; exact ⟨oldest, by simp, by simp⟩
  | cons next rest ih =>
      intro ha hc
      have ha' := List.pairwise_cons.mp ha
      obtain ⟨newest, hmem, hle⟩ := ih ha'.2 fun b hb => hc b (List.mem_cons_of_mem _ hb)
      have hlt := ha'.1 next (by simp)
      have hwhole := (hc oldest (by simp)).whole
      have hnext := (hc next (by simp)).whole
      rw [Instant.lt_iff] at hlt
      refine ⟨newest, List.mem_cons_of_mem _ hmem, ?_⟩
      rw [List.length_cons]
      push_cast
      omega

theorem SpansLessThan.length_le {m : Meter} (hspan : SpansLessThan m.retention m.buckets)
    (h : m.WellKept) : m.buckets.length ≤ m.retention.secondsUp := by
  unfold Duration.secondsUp
  cases hbuckets : m.buckets with
  | nil => exact Nat.zero_le _
  | cons oldest newer =>
      have ha := h.ascending
      have hc := h.consistent
      rw [hbuckets] at ha hc hspan
      obtain ⟨newest, hmem, hle⟩ := exists_second_le ha hc
      have hlt := hspan oldest (by simp) newest hmem
      rw [List.length_cons]
      omega

end Meter

/-! ### Steady load

That the bound is met cannot be told from an invariant; it takes the history.  Under steady
load every request has a second of its own, so counting buckets is counting the requests that
are retained (`length_stored`).
-/

namespace History

/-- One request a second, the first of them at an instant. -/
def Steady (first : Instant) (obs : List Observation) : Prop :=
  ∀ (i : Nat) (hi : i < obs.length), obs[i].reading.nanos = first.nanos + i * 1000000000

instance (first : Instant) (obs : List Observation) : Decidable (Steady first obs) :=
  inferInstanceAs (Decidable (∀ (i : Nat) (hi : i < obs.length),
    obs[i].reading.nanos = first.nanos + i * 1000000000))

variable {first : Instant} {obs : List Observation}

theorem Steady.of_concat {o : Observation} (h : Steady first (obs ++ [o])) :
    Steady first obs := by
  intro i hi
  have hread := h i (by rw [List.length_append]; omega)
  rwa [List.getElem_append_left hi] at hread

theorem Steady.last {o : Observation} (h : Steady first (obs ++ [o])) :
    o.reading.nanos = first.nanos + obs.length * 1000000000 := by
  have hread := h obs.length (by simp)
  rwa [List.getElem_concat_length rfl] at hread

theorem Steady.nil (first : Instant) : Steady first [] :=
  fun i hi => absurd hi (Nat.not_lt_zero i)

theorem Steady.singleton (now : Instant) (d : Duration) : Steady now [⟨now, d⟩] := by
  intro i hi
  obtain rfl : i = 0 := by simpa using hi
  simp

theorem Steady.cons {now next : Instant} (h : Steady next obs)
    (hnext : next.nanos = now.nanos + 1000000000) (d : Duration) :
    Steady now (⟨now, d⟩ :: obs) := by
  intro i hi
  cases i with
  | zero => simp
  | succ i =>
      rw [List.length_cons] at hi
      have hread := h i (by omega)
      rw [List.getElem_cons_succ, hread, hnext]
      push_cast
      omega

/-- The last reading is the latest. -/
theorem Steady.latestReading_eq {o : Observation} (h : Steady first (obs ++ [o])) :
    latestReading (obs ++ [o]) = o.reading := by
  have hle : latestReading obs ≤ o.reading := by
    refine latestReading_le fun p hp => ?_
    obtain ⟨i, hi, rfl⟩ := List.getElem_of_mem hp
    rw [Instant.le_iff, h.of_concat i hi, h.last]
    omega
  rw [latestReading_concat, max_eq_right hle]

/-- Each request has a second of its own, one after another. -/
theorem Steady.filed_seconds (hfirst : Instant.epoch ≤ first) (h : Steady first obs) :
    (filed obs).map (fun f => f.second.nanos) =
      (List.range obs.length).map fun i : Nat =>
        first.wholeSecond.nanos + (i : Int) * 1000000000 := by
  induction obs using List.reverseRecOn with
  | nil => rfl
  | append_singleton obs o ih =>
      have hlast := h.last
      rw [Instant.le_iff, Instant.epoch_nanos] at hfirst
      rw [filed_concat, List.map_append, ih h.of_concat, List.length_append,
        List.length_singleton, List.range_succ, List.map_append]
      congr 1
      rw [List.map_singleton, List.map_singleton, latestSecond_eq, h.latestReading_eq,
        Instant.wholeSecond_nanos, Instant.wholeSecond_nanos, hlast]
      congr 1
      omega

theorem Steady.filed_ascending (hfirst : Instant.epoch ≤ first) (h : Steady first obs) :
    (filed obs).Pairwise fun a b => a.second < b.second := by
  have hseconds : ((filed obs).map fun f => f.second.nanos).Pairwise (· < ·) := by
    rw [h.filed_seconds hfirst, List.pairwise_map]
    refine List.pairwise_lt_range.imp fun {a b} hab => ?_
    omega
  rw [List.pairwise_map] at hseconds
  exact hseconds

theorem Steady.retained_ascending (retention : Duration) (hfirst : Instant.epoch ≤ first)
    (h : Steady first obs) :
    (retained retention obs).Pairwise fun a b => a.second < b.second :=
  (h.filed_ascending hfirst).sublist List.filter_sublist

private theorem length_filter_le_range (c n : Nat) :
    ((List.range n).filter fun i => decide (c ≤ i)).length = n - c := by
  induction n with
  | zero => simp
  | succ n ih =>
      rw [List.range_succ, List.filter_append, List.length_append, ih]
      by_cases h : c ≤ n
      · simp [h]
        omega
      · simp [h]
        omega

/-- Retention keeps the last requests, one for each of its seconds. -/
theorem Steady.length_retained {retention : Duration} (hfirst : Instant.epoch ≤ first)
    (hwhole : retention.subsecNanos = 0) (h : Steady first obs) :
    (retained retention obs).length = min obs.length retention.seconds := by
  rcases List.eq_nil_or_concat obs with rfl | ⟨before, last, rfl⟩
  · simp [retained, filed, after]
  rw [List.concat_eq_append] at h ⊢
  have hsecond := Instant.wholeSecond_nanos first
  have hlast := h.last
  have hseconds := h.filed_seconds hfirst
  rw [Instant.le_iff, Instant.epoch_nanos] at hfirst
  unfold Duration.subsecNanos at hwhole
  unfold Duration.seconds
  have hcount : (retained retention (before ++ [last])).length =
      (((filed (before ++ [last])).map fun f => f.second.nanos).filter fun s =>
        decide (last.reading.nanos - retention.nanos < s)).length := by
    rw [List.filter_map, List.length_map]
    unfold retained after
    rw [h.latestReading_eq]
    rfl
  rw [hcount, hseconds, List.filter_map, List.length_map]
  have hcutoff : ((fun s : Int => decide (last.reading.nanos - retention.nanos < s)) ∘
      fun i : Nat => first.wholeSecond.nanos + (i : Int) * 1000000000) =
      fun i => decide ((before ++ [last]).length - retention.nanos / 1000000000 ≤ i) := by
    funext i
    rw [List.length_append, List.length_singleton]
    simp only [Function.comp_apply, decide_eq_decide]
    omega
  rw [hcutoff, length_filter_le_range]
  omega

end History

namespace Meter

open History

/-- Requests of different seconds have a bucket each. -/
theorem length_stored {fs : List Filed} (h : fs.Pairwise fun a b => a.second < b.second) :
    (stored fs).length = fs.length := by
  induction fs using List.reverseRecOn with
  | nil => rfl
  | append_singleton fs f ih =>
      rw [List.pairwise_append] at h
      have hlt : ∀ b ∈ stored fs, b.second < f.second := by
        intro b hb
        obtain ⟨g, hg, hsecond⟩ := exists_second_eq_of_mem_stored hb
        rw [← hsecond]
        exact h.2.2 g hg f (by simp)
      rw [stored_concat, file_of_lt hlt, List.length_append, ih h.1, List.length_append]
      rfl

/-- Under steady load there is a bucket for each request, as far as the retention reaches. -/
theorem length_recordAll_of_steady {m : Meter} (hm : m.buckets = [])
    (hwhole : m.retention.subsecNanos = 0) {first : Instant} (hfirst : Instant.epoch ≤ first)
    {obs : List Observation} (h : Steady first obs) :
    (m.recordAll obs).buckets.length = min obs.length m.retention.seconds := by
  rw [recordAll_buckets hm, length_stored (h.retained_ascending m.retention hfirst),
    h.length_retained hfirst hwhole]

end Meter

namespace ClockedMeter

open History

theorem run_spansLessThan {retention : Duration} {m : Meter}
    (hm : Meter.new? retention = some m) (start : Instant) (events : List MeterEvent) :
    let c := ClockedMeter.run ⟨m, start⟩ events
    c.meter.WellKept ∧ Meter.SpansLessThan c.meter.retention c.meter.buckets := by
  intro c
  obtain ⟨hnew, -, hempty⟩ := Meter.new?_wellKept hm
  refine run_keeps (P := fun m => m.WellKept ∧ Meter.SpansLessThan m.retention m.buckets)
    (fun _ now d h => ⟨h.1.record now d, Meter.record_spansLessThan h.1 h.2 now d⟩)
    events ⟨m, start⟩ ⟨hnew, ?_⟩
  rw [hempty]
  intro a ha
  exact absurd ha List.not_mem_nil

/--
**The store is bounded by the retention**: whatever way the clock goes, the buckets span less
than the retention, so there are no more of them than it has seconds.  One request a second
makes use of all of them.
-/
theorem run_buckets_bounded {retention : Duration} {m : Meter}
    (hm : Meter.new? retention = some m) (start : Instant) (events : List MeterEvent) :
    let buckets := (ClockedMeter.run ⟨m, start⟩ events).meter.buckets
    let obs := ofEvents start events
    (∀ oldest newest, buckets.head? = some oldest → buckets.getLast? = some newest →
      newest.second.nanos - oldest.second.nanos < retention.nanos) ∧
    buckets.length ≤ retention.secondsUp ∧
    ∀ first : Instant, Instant.epoch ≤ first → retention.subsecNanos = 0 → Steady first obs →
      buckets.length = min obs.length retention.seconds := by
  intro buckets obs
  obtain ⟨-, hretention, hempty⟩ := Meter.new?_wellKept hm
  obtain ⟨hkept, hspans⟩ := run_spansLessThan hm start events
  have hsame : (ClockedMeter.run ⟨m, start⟩ events).meter.retention = retention :=
    run_retention_of_new? hm start events
  refine ⟨?_, ?_, ?_⟩
  · intro oldest newest hold hnewest
    rw [← hsame]
    exact hspans oldest (List.mem_of_head? hold) newest (List.mem_of_getLast? hnewest)
  · rw [← hsame]
    exact hspans.length_le hkept
  · intro first hfirst hwhole hsteady
    show (ClockedMeter.run ⟨m, start⟩ events).meter.buckets.length = _
    rw [← hretention] at hwhole ⊢
    rw [run_meter, Meter.length_recordAll_of_steady hempty hwhole hfirst hsteady]

/-- Where the clock cannot be moved on, the load ends with the request. -/
theorem load_of_add?_eq_none {c : ClockedMeter} {every : Duration} (h : c.now.add? every = none)
    (d : Duration) (times : Nat) : load d every c (times + 1) = (c.record d, false) := by
  simp [load, advance?, record, h]

theorem load_of_add?_eq_some {c : ClockedMeter} {every : Duration} {next : Instant}
    (h : c.now.add? every = some next) (d : Duration) (times : Nat) :
    load d every c (times + 1) = load d every ((c.record d).set next) times := by
  simp [load, advance?, record, h]

/-- Loading a meter once a second records a steady history, as far as the clock goes. -/
theorem load_meter (d : Duration) :
    ∀ (times : Nat) (c : ClockedMeter),
      c.now.nanos + times * 1000000000 < 9223372036854775808000000000 + 1000000000 →
      ∃ obs, Steady c.now obs ∧ obs.length = times ∧
        (load d .second c times).1.meter = c.meter.recordAll obs := by
  intro times
  induction times with
  | zero =>
      intro c _
      exact ⟨[], Steady.nil c.now, rfl, rfl⟩
  | succ times ih =>
      intro c hrange
      push_cast at hrange
      cases hmove : c.now.add? .second with
      | none =>
          -- the clock has come to its end, so this was the last request
          have hend : times = 0 := by
            have hlo := c.now.le_nanos
            by_contra hne
            unfold Instant.add? Instant.ofNanos? at hmove
            rw [dif_pos (by rw [Duration.second_nanos]; omega)] at hmove
            cases hmove
          rw [hend, load_of_add?_eq_none hmove]
          exact ⟨[⟨c.now, d⟩], Steady.singleton c.now d, rfl, rfl⟩
      | some next =>
          have hnext := Instant.ofNanos?_eq_some_iff.mp hmove
          rw [Duration.second_nanos] at hnext
          obtain ⟨obs, hsteady, hlength, hmeter⟩ := ih ((c.record d).set next) (by
            show next.nanos + _ < _
            omega)
          refine ⟨⟨c.now, d⟩ :: obs, hsteady.cons hnext d, ?_, ?_⟩
          · rw [List.length_cons, hlength]
          · rw [load_of_add?_eq_some hmove, hmeter]
            rfl

/-- A loaded meter holds a bucket for each request, as far as its retention reaches. -/
theorem load_buckets_length {c : ClockedMeter} (hm : c.meter.buckets = [])
    (hwhole : c.meter.retention.subsecNanos = 0) (hstart : Instant.epoch ≤ c.now)
    {times : Nat}
    (hrange : c.now.nanos + times * 1000000000 < 9223372036854775808000000000 + 1000000000)
    (d : Duration) :
    (load d .second c times).1.meter.buckets.length = min times c.meter.retention.seconds := by
  obtain ⟨obs, hsteady, hlength, hmeter⟩ := load_meter d times c hrange
  rw [hmeter, Meter.length_recordAll_of_steady hm hwhole hstart hsteady, hlength]

/-- Three requests, half a second after the epoch and at each of the next two seconds. -/
def steadyRun : List MeterEvent :=
  [.record .second, .advance .second, .record .zero, .advance .second, .record .longest]

theorem run_buckets_bounded_steadyRun :
    let half : Instant := ⟨500000000, by decide, by decide⟩
    Meter.new? (.ofSeconds 2) = some ⟨.ofSeconds 2, [], by decide⟩ ∧
    Instant.epoch ≤ half ∧ (Duration.ofSeconds 2).subsecNanos = 0 ∧
    Steady half (ofEvents half steadyRun) ∧
    (ClockedMeter.run ⟨⟨.ofSeconds 2, [], by decide⟩, half⟩ steadyRun).meter.buckets.length =
      min 3 2 := by
  intro half
  have hnew : Meter.new? (.ofSeconds 2) = some ⟨.ofSeconds 2, [], by decide⟩ := by decide
  have hfirst : Instant.epoch ≤ half := by decide
  have hwhole : (Duration.ofSeconds 2).subsecNanos = 0 := by decide
  have hsteady : Steady half (ofEvents half steadyRun) := by decide
  exact ⟨hnew, hfirst, hwhole, hsteady,
    (run_buckets_bounded hnew half steadyRun).2.2 half hfirst hwhole hsteady⟩

end ClockedMeter

end RequestMeter

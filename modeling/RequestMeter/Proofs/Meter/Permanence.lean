/-
What becomes of a bucket that is no longer the newest.

Nothing but eviction.  Recording changes the newest bucket alone, so a later state holds an older
bucket as it was, or holds no bucket of its second.  And what has been evicted never comes back,
wherever the clock is set.

Both are told from the store that would never evict, `stored (filed obs)`.  More requests leave
all of it but the newest bucket alone (`stored_append`), and a meter holds the part of it that lies
after the latest reading less the retention (`mem_recordAll_iff`).  A clock that is set back does
not take the latest reading with it, so that cutoff never moves back.
-/
import RequestMeter.Proofs.Meter.Capacity

namespace RequestMeter

/-- Only the last entry that passes can be the last entry of all. -/
private theorem mem_dropLast_of_mem_dropLast_filter {α : Type} {p : α → Bool} {l : List α} {a : α}
    (h : a ∈ (l.filter p).dropLast) : a ∈ l.dropLast := by
  rcases List.eq_nil_or_concat l with rfl | ⟨older, last, rfl⟩
  · exact h
  · rw [List.concat_eq_append, List.filter_append] at h
    rw [List.concat_eq_append, List.dropLast_concat]
    by_cases hlast : p last = true
    · rw [List.filter_cons_of_pos hlast, List.filter_nil, List.dropLast_concat] at h
      exact (List.mem_filter.mp h).1
    · rw [List.filter_cons_of_neg hlast, List.filter_nil, List.append_nil] at h
      exact (List.mem_filter.mp ((List.dropLast_sublist _).subset h)).1

namespace History

/-- Later requests are filed behind the others. -/
private theorem exists_filed_append (obs more : List Observation) :
    ∃ fs, filed (obs ++ more) = filed obs ++ fs := by
  induction more using List.reverseRecOn with
  | nil => exact ⟨[], by simp⟩
  | append_singleton more o ih =>
      obtain ⟨fs, hfs⟩ := ih
      exact ⟨fs ++ [⟨latestSecond (obs ++ more ++ [o]), o.duration⟩], by
        rw [← List.append_assoc, filed_concat, hfs, List.append_assoc]⟩

end History

namespace Meter

open History

/-! ### The store that never evicts

A meter forgets, which makes two of its states hard to compare.  The store without eviction only
grows: all of it but the newest bucket is the beginning of every later one.
-/

/-- Filing looks at the newest bucket and leaves those before it alone. -/
theorem file_append (older : List Bucket) {newer : List Bucket} (h : newer ≠ [])
    (second : Instant) (d : Duration) :
    file second d (older ++ newer) = older ++ file second d newer := by
  obtain ⟨before, newest, rfl⟩ := (List.eq_nil_or_concat newer).resolve_left h
  rw [List.concat_eq_append, ← List.append_assoc, file_concat, file_concat]
  split
  · rw [List.append_assoc]
  · rw [List.append_assoc]

/-- The first bucket may take the request, and keeps its second. -/
private theorem exists_file_cons (b : Bucket) (newer : List Bucket) (second : Instant)
    (d : Duration) :
    ∃ grown rest, file second d (b :: newer) = grown :: rest ∧ grown.second = b.second := by
  cases newer with
  | nil =>
      have hfile := file_concat second d [] b
      rw [List.nil_append] at hfile
      rw [hfile]
      split
      · exact ⟨b.add d, [], rfl, rfl⟩
      · exact ⟨b, [.single second d], rfl, rfl⟩
  | cons next rest =>
      exact ⟨b, file second d (next :: rest),
        file_append [b] (List.cons_ne_nil next rest) second d, rfl⟩

/-- More requests leave the older buckets alone, and the newest keeps its second. -/
theorem stored_append {fs : List Filed} {older : List Bucket} {newest : Bucket}
    (h : stored fs = older ++ [newest]) (more : List Filed) :
    ∃ grown newer, stored (fs ++ more) = older ++ grown :: newer ∧
      grown.second = newest.second := by
  induction more using List.reverseRecOn with
  | nil => exact ⟨newest, [], by rw [List.append_nil, h], rfl⟩
  | append_singleton more f ih =>
      obtain ⟨grown, newer, hstored, hsecond⟩ := ih
      obtain ⟨taller, rest, hfile, hsame⟩ := exists_file_cons grown newer f.second f.duration
      refine ⟨taller, rest, ?_, hsame.trans hsecond⟩
      rw [← List.append_assoc, stored_concat, hstored,
        file_append older (List.cons_ne_nil grown newer), hfile]

variable {fs : List Filed} {b : Bucket}

private theorem mem_stored_append_of_mem_dropLast (hb : b ∈ (stored fs).dropLast)
    (more : List Filed) :
    b ∈ stored (fs ++ more) := by
  rcases List.eq_nil_or_concat (stored fs) with hnil | ⟨older, newest, hstored⟩
  · rw [hnil] at hb
    exact absurd hb List.not_mem_nil
  · rw [List.concat_eq_append] at hstored
    obtain ⟨grown, newer, happend, -⟩ := stored_append hstored more
    rw [hstored, List.dropLast_concat] at hb
    rw [happend]
    exact List.mem_append_left _ hb

private theorem exists_mem_stored_append (hb : b ∈ stored fs) (more : List Filed) :
    ∃ a ∈ stored (fs ++ more), a.second = b.second := by
  rcases List.eq_nil_or_concat (stored fs) with hnil | ⟨older, newest, hstored⟩
  · rw [hnil] at hb
    exact absurd hb List.not_mem_nil
  · rw [List.concat_eq_append] at hstored
    obtain ⟨grown, newer, happend, hsecond⟩ := stored_append hstored more
    rw [happend]
    rw [hstored] at hb
    rcases List.mem_append.mp hb with hold | hnew
    · exact ⟨b, List.mem_append_left _ hold, rfl⟩
    · rw [List.mem_singleton.mp hnew]
      exact ⟨grown, by simp, hsecond⟩

/-! ### What a meter holds of it -/

/-- No bucket of the second is held any more. -/
def HasEvicted (m : Meter) (b : Bucket) : Prop := ∀ a ∈ m.buckets, a.second ≠ b.second

instance (m : Meter) (b : Bucket) : Decidable (m.HasEvicted b) :=
  inferInstanceAs (Decidable (∀ a ∈ m.buckets, a.second ≠ b.second))

variable {m : Meter}

/-- A bucket goes when the latest reading is the retention away from its second, and not before. -/
theorem hasEvicted_recordAll_iff (hm : m.buckets = []) {obs : List Observation}
    (hb : b ∈ (m.recordAll obs).buckets) (more : List Observation) :
    (m.recordAll (obs ++ more)).HasEvicted b ↔
      b.second.nanos ≤ (latestReading (obs ++ more)).nanos - m.retention.nanos := by
  constructor
  · intro hgone
    by_contra hlt
    obtain ⟨fs, hfiled⟩ := exists_filed_append obs more
    obtain ⟨a, ha, hsecond⟩ := exists_mem_stored_append ((mem_recordAll_iff hm).mp hb).1 fs
    rw [← hfiled] at ha
    refine hgone a ((mem_recordAll_iff hm).mpr ⟨ha, ?_⟩) hsecond
    rw [hsecond]
    omega
  · intro hle a ha hsecond
    have hkept := ((mem_recordAll_iff hm).mp ha).2
    rw [hsecond] at hkept
    omega

/-- An older bucket is held as it was, or it has been evicted. -/
theorem mem_or_hasEvicted_recordAll (hm : m.buckets = []) {obs : List Observation}
    (hb : b ∈ (m.recordAll obs).buckets.dropLast) (more : List Observation) :
    b ∈ (m.recordAll (obs ++ more)).buckets ∨ (m.recordAll (obs ++ more)).HasEvicted b := by
  have hheld := (List.dropLast_sublist _).subset hb
  by_cases hle : b.second.nanos ≤ (latestReading (obs ++ more)).nanos - m.retention.nanos
  · exact Or.inr ((hasEvicted_recordAll_iff hm hheld more).mpr hle)
  · left
    obtain ⟨fs, hfiled⟩ := exists_filed_append obs more
    rw [recordAll_buckets_eq_filter hm] at hb
    have hstored := mem_stored_append_of_mem_dropLast (mem_dropLast_of_mem_dropLast_filter hb) fs
    rw [← hfiled] at hstored
    exact (mem_recordAll_iff hm).mpr ⟨hstored, by omega⟩

/-- Once a bucket has been evicted, all that is held from then on is newer. -/
theorem second_lt_of_hasEvicted (hm : m.buckets = []) {obs more : List Observation}
    (hb : b ∈ (m.recordAll obs).buckets) (hgone : (m.recordAll (obs ++ more)).HasEvicted b)
    (rest : List Observation) :
    ∀ a ∈ (m.recordAll (obs ++ more ++ rest)).buckets, b.second < a.second := by
  intro a ha
  have hexpired := (hasEvicted_recordAll_iff hm hb more).mp hgone
  have hkept := ((mem_recordAll_iff hm).mp ha).2
  have hlater := latestReading_le_append (obs ++ more) rest
  rw [Instant.le_iff] at hlater
  rw [Instant.lt_iff]
  omega

end Meter

namespace ClockedMeter

/--
**Older buckets stay as they are, and evicted ones do not come back.**  Whatever is recorded and
wherever the clock is set, every bucket but the newest is held unchanged until it is evicted;
then all older ones have gone with it, and no later state holds a bucket of its second or of one
before it.
-/
theorem run_buckets_permanent {retention : Duration} {m : Meter}
    (hm : Meter.new? retention = some m) (start : Instant) (events later : List MeterEvent) :
    let c := ClockedMeter.run ⟨m, start⟩ events
    (∀ b ∈ c.meter.buckets.dropLast,
      b ∈ (c.run later).meter.buckets ∨ (c.run later).meter.HasEvicted b) ∧
    ∀ b ∈ c.meter.buckets, (c.run later).meter.HasEvicted b →
      (∀ a ∈ c.meter.buckets, a.second < b.second → (c.run later).meter.HasEvicted a) ∧
      ∀ rest : List MeterEvent,
        ∀ a ∈ ((c.run later).run rest).meter.buckets, b.second < a.second := by
  intro c
  obtain ⟨-, -, hempty⟩ := Meter.new?_wellKept hm
  have hheld : c.meter = m.recordAll (History.ofEvents start events) :=
    run_meter events ⟨m, start⟩
  have hlater : (c.run later).meter = m.recordAll
      (History.ofEvents start events ++ History.ofEvents c.now later) :=
    run_run_meter ⟨m, start⟩ events later
  rw [hheld, hlater]
  refine ⟨fun b hb => Meter.mem_or_hasEvicted_recordAll hempty hb _, fun b hb hgone => ⟨?_, ?_⟩⟩
  · intro a ha hlt
    have hexpired := (Meter.hasEvicted_recordAll_iff hempty hb _).mp hgone
    rw [Instant.lt_iff] at hlt
    exact (Meter.hasEvicted_recordAll_iff hempty ha _).mpr (by omega)
  · intro rest a ha
    rw [run_meter, hlater, ← Meter.recordAll_append] at ha
    exact Meter.second_lt_of_hasEvicted hempty hb hgone _ a ha

/-- Two seconds on, the first of three buckets has gone and the second is as it was.  Then the clock
is set back to the second of the first. -/
theorem run_buckets_permanent_steadyRun :
    let c := ClockedMeter.run ⟨⟨.ofSeconds 4, [], by decide⟩, .epoch⟩ steadyRun
    let first : Bucket := .single .epoch .second
    let next : Bucket := .single ⟨1000000000, by decide, by decide⟩ .zero
    let later : List MeterEvent := [.advance (.ofSeconds 2), .record .zero]
    Meter.new? (.ofSeconds 4) = some ⟨.ofSeconds 4, [], by decide⟩ ∧
    first ∈ c.meter.buckets ∧ next ∈ c.meter.buckets.dropLast ∧
    next ∈ (c.run later).meter.buckets ∧ (c.run later).meter.HasEvicted first ∧
    ∀ a ∈ ((c.run later).run [.set .epoch, .record .zero]).meter.buckets,
      Instant.epoch < a.second := by
  intro c first next later
  have hnew : Meter.new? (.ofSeconds 4) = some ⟨.ofSeconds 4, [], by decide⟩ := by decide
  have hfirst : first ∈ c.meter.buckets := by decide
  have hnext : next ∈ c.meter.buckets.dropLast := by decide
  have hgone : (c.run later).meter.HasEvicted first := by decide
  obtain ⟨hkeeps, hnever⟩ := run_buckets_permanent hnew .epoch steadyRun later
  exact ⟨hnew, hfirst, hnext, (hkeeps next hnext).resolve_right (by decide), hgone,
    (hnever first hfirst hgone).2 [.set .epoch, .record .zero]⟩

end ClockedMeter

end RequestMeter

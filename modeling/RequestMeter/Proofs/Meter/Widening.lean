/-
What a window shows more if it opens earlier.

All that counts is where the window opens, as an exact difference: whether it is longer or the
clock stands earlier, and whether a clock can show the cutoff.  The requests of the window that
opens later are then among those of the other (`counted_sublist`), so a tally of the one is part
of a tally of the other (`Tally.IsPartOf`): fewer requests, extremes and ends no further apart.

A window that shows nothing has no extremes; its snapshot says zero for all of them.  So the
extremes can be compared only where the window that opens later shows something.
-/
import RequestMeter.Proofs.Meter.Average
import RequestMeter.Proofs.Meter.Rate

namespace RequestMeter

namespace History

/-- A window that opens later counts no other requests. -/
theorem counted_sublist (retention : Duration) {narrow wide : Duration} {now now' : Instant}
    (hopens : now'.nanos - wide.nanos ≤ now.nanos - narrow.nanos) (obs : List Observation) :
    (counted retention narrow now obs).Sublist (counted retention wide now' obs) := by
  have hcutoff : counted retention narrow now obs =
      after (now.nanos - narrow.nanos) (counted retention wide now' obs) := by
    unfold counted
    rw [after_after]
    congr 1
    omega
  rw [hcutoff]
  exact List.filter_sublist

end History

open History

/-! ### Tallies of some of the requests

Buckets of different windows cannot be matched one by one where a bucket has been cut
off.  So tallies are compared through the requests they describe: the extremes of a list
enclose those of a part of it.
-/

/-- What holds of the tallies of some requests and of more. -/
structure Tally.IsPartOf (part whole : Tally) : Prop where
  requests_le : part.requests ≤ whole.requests
  least_le : whole.least ≤ part.least
  le_greatest : part.greatest ≤ whole.greatest
  oldest_le : whole.oldest ≤ part.oldest
  le_newest : part.newest ≤ whole.newest

namespace Tally

variable {part whole : Tally}

theorem Describes.isPartOf {fs gs : List Filed} (hpart : part.Describes fs)
    (hwhole : whole.Describes gs) (hsub : fs.Sublist gs) : part.IsPartOf whole where
  requests_le := by
    rw [hpart.requests, hwhole.requests]
    exact hsub.length_le
  least_le := by
    obtain ⟨f, hf, hleast⟩ := List.mem_map.mp hpart.least_mem
    rw [← hleast]
    exact hwhole.least_le f (hsub.subset hf)
  le_greatest := by
    obtain ⟨f, hf, hgreatest⟩ := List.mem_map.mp hpart.greatest_mem
    rw [← hgreatest]
    exact hwhole.le_greatest f (hsub.subset hf)
  oldest_le := by
    obtain ⟨f, hf, holdest⟩ := List.mem_map.mp hpart.oldest_mem
    rw [← holdest]
    exact hwhole.oldest_le f (hsub.subset hf)
  le_newest := by
    obtain ⟨f, hf, hnewest⟩ := List.mem_map.mp hpart.newest_mem
    rw [← hnewest]
    exact hwhole.le_newest f (hsub.subset hf)

theorem IsPartOf.span_le (h : part.IsPartOf whole) (hepoch : Instant.epoch ≤ whole.oldest)
    (hle : part.oldest ≤ part.newest) : part.span ≤ whole.span := by
  have holdest := h.oldest_le
  have hnewest := h.le_newest
  have hpart := span_nanos (le_trans hepoch holdest) hle
  have hwhole := span_nanos hepoch (le_trans holdest (le_trans hle hnewest))
  rw [Instant.le_iff] at holdest hnewest
  rw [Duration.le_iff]
  omega

end Tally

namespace Meter

/-- The time that the rate of a window is taken over; none if the window shows nothing. -/
def covered (m : Meter) (now : Instant) (window : Duration) : Duration :=
  ((m.tally? now window).map Tally.span).getD .zero

theorem covered_of_tally?_eq_some {m : Meter} {now : Instant} {window : Duration} {t : Tally}
    (h : m.tally? now window = some t) : m.covered now window = t.span := by
  rw [covered, h, Option.map_some, Option.getD_some]

theorem covered_of_tally?_eq_none {m : Meter} {now : Instant} {window : Duration}
    (h : m.tally? now window = none) : m.covered now window = .zero := by
  rw [covered, h, Option.map_none, Option.getD_none]

/-- A window that opens at the newest bucket or later shows nothing. -/
theorem snapshot_of_newest_le {m : Meter} (h : Ascending m.buckets) {now : Instant}
    {window : Duration} {newest : Bucket} (hnewest : m.buckets.getLast? = some newest)
    (hle : newest.second.nanos ≤ now.nanos - window.nanos) : m.snapshot now window = .empty := by
  have hnone : m.within now window = [] := by
    cases hwithin : m.within now window with
    | nil => rfl
    | cons last older =>
        -- the first bucket that is shown would be the newest
        have hlast := head?_within (congrArg List.head? hwithin)
        obtain rfl : last = newest := Option.some.inj (hlast.symm.trans hnewest)
        have hlt := lt_second_of_mem_within h (b := last) (by rw [hwithin]; simp)
        omega
  by_cases hw : window = .zero
  · rw [hw, snapshot_zero]
  · rw [snapshot_of_ne_zero hw, hnone]
    rfl

section

variable {m : Meter} {obs : List Observation} {now : Instant} {window : Duration}

/-- Where a window counts a request, its tally describes those it counts. -/
theorem exists_tally?_recordAll (hm : m.buckets = []) (hw : window ≠ .zero)
    (hne : counted m.retention window now obs ≠ []) :
    ∃ t, (m.recordAll obs).tally? now window = some t ∧
      t.Describes (counted m.retention window now obs) := by
  rw [tally?_of_ne_zero hw, within_recordAll hm]
  exact Tally.ofBuckets?_stored (counted_inOrder m.retention window now obs) hne

theorem describes_of_tally?_recordAll (hm : m.buckets = []) {t : Tally}
    (ht : (m.recordAll obs).tally? now window = some t) :
    t.Describes (counted m.retention window now obs) := by
  have hw : window ≠ .zero := by
    rintro rfl
    cases ht
  by_cases hne : counted m.retention window now obs = []
  · rw [tally?_of_ne_zero hw, within_recordAll hm, hne] at ht
    cases ht
  · obtain ⟨t', ht', hdescribes⟩ := exists_tally?_recordAll hm hw hne
    rw [ht] at ht'
    rwa [Option.some.inj ht']

/-- A window that opens earlier has a tally where another has one, and the other is part of it. -/
theorem exists_isPartOf_recordAll (hm : m.buckets = []) {wide : Duration} {now' : Instant}
    (hwide : wide ≠ .zero) (hopens : now'.nanos - wide.nanos ≤ now.nanos - window.nanos)
    {part : Tally} (hpart : (m.recordAll obs).tally? now window = some part) :
    ∃ whole, (m.recordAll obs).tally? now' wide = some whole ∧ part.IsPartOf whole ∧
      part.span ≤ whole.span := by
  have hdescribes := describes_of_tally?_recordAll hm hpart
  have hsub := counted_sublist m.retention hopens obs
  obtain ⟨f, hf, -⟩ := List.mem_map.mp hdescribes.least_mem
  have hne : counted m.retention wide now' obs ≠ [] :=
    List.ne_nil_of_mem (hsub.subset hf)
  obtain ⟨whole, hwhole, hdescribes'⟩ := exists_tally?_recordAll hm hwide hne
  have hpartOf := hdescribes.isPartOf hdescribes' hsub
  have hepoch := hdescribes'.epoch_le_oldest (epoch_le_counted m.retention wide now' obs)
  exact ⟨whole, hwhole, hpartOf, hpartOf.span_le hepoch hdescribes.oldest_le_newest⟩

theorem least_le_greatest_of_tally?_recordAll (hm : m.buckets = []) {t : Tally}
    (ht : (m.recordAll obs).tally? now window = some t) : t.least ≤ t.greatest :=
  ((describes_of_tally?_recordAll hm ht).snapshot
    (epoch_le_counted m.retention window now obs)).least_le_greatest

end

end Meter

namespace ClockedMeter

/--
**A window that opens earlier shows no less.**  It counts at least as many requests over at least
as long a time, and its extremes enclose those of the other.  A window that opens at the newest
bucket or later shows nothing.
-/
theorem run_snapshot_widens {retention : Duration} {m : Meter}
    (hm : Meter.new? retention = some m) (start : Instant) (events : List MeterEvent)
    (now now' : Instant) {narrow wide : Duration} (hwide : wide ≠ .zero)
    (hopens : now'.nanos - wide.nanos ≤ now.nanos - narrow.nanos) :
    let c := ClockedMeter.run ⟨m, start⟩ events
    let s := (c.set now).snapshot narrow
    let s' := (c.set now').snapshot wide
    s.requests ≤ s'.requests ∧
    c.meter.covered now narrow ≤ c.meter.covered now' wide ∧
    (0 < s.requests →
      s'.least ≤ s.least ∧ s.least ≤ s.greatest ∧ s.greatest ≤ s'.greatest ∧
      s.rate = Binary64.ofNat s.requests / (c.meter.covered now narrow).inSeconds) ∧
    ∀ newest, c.meter.buckets.getLast? = some newest →
      newest.second.nanos ≤ now.nanos - narrow.nanos → s = .empty := by
  intro c s s'
  have hempty : m.buckets = [] := (Meter.new?_wellKept hm).2.2
  have hheld : c.meter = m.recordAll (ofEvents start events) := run_meter events ⟨m, start⟩
  have hkept : c.meter.WellKept := (run_spansLessThan hm start events).1
  have hlater : ∀ newest, c.meter.buckets.getLast? = some newest →
      newest.second.nanos ≤ now.nanos - narrow.nanos → s = .empty :=
    fun newest hnewest hle => Meter.snapshot_of_newest_le hkept.ascending hnewest hle
  cases htally : c.meter.tally? now narrow with
  | none =>
      have hs : s = .empty := Meter.snapshot_of_tally?_eq_none htally
      rw [hs, Meter.covered_of_tally?_eq_none htally]
      exact ⟨Nat.zero_le _, Nat.zero_le _, fun hpos => absurd hpos (Nat.lt_irrefl 0),
        fun _ _ _ => rfl⟩
  | some t =>
      have hpart := htally
      rw [hheld] at hpart
      obtain ⟨t', hwhole, hpartOf, hspan⟩ :=
        Meter.exists_isPartOf_recordAll hempty hwide hopens hpart
      have hextremes := Meter.least_le_greatest_of_tally?_recordAll hempty hpart
      rw [← hheld] at hwhole
      have hs : s = .ofTally t := Meter.snapshot_of_tally?_eq_some htally
      have hs' : s' = .ofTally t' := Meter.snapshot_of_tally?_eq_some hwhole
      refine ⟨?_, ?_, fun _ => ⟨?_, ?_, ?_, ?_⟩, hlater⟩
      · rw [hs, hs']; exact hpartOf.requests_le
      · rw [Meter.covered_of_tally?_eq_some htally, Meter.covered_of_tally?_eq_some hwhole]
        exact hspan
      · rw [hs, hs']; exact hpartOf.least_le
      · rw [hs]; exact hextremes
      · rw [hs, hs']; exact hpartOf.le_greatest
      · rw [hs, Meter.covered_of_tally?_eq_some htally]; rfl

/-- The last second alone, and a window so long that no clock can show where it opens. -/
theorem run_snapshot_widens_steadyRun :
    let c := ClockedMeter.run ⟨.standard, .epoch⟩ steadyRun
    let later : Instant := ⟨2000000000, by decide, by decide⟩
    let s := (c.set later).snapshot .second
    let s' := (c.set .epoch).snapshot .longest
    Meter.new? Meter.defaultRetention = some .standard ∧ Duration.longest ≠ .zero ∧
    Instant.epoch.nanos - Duration.longest.nanos ≤ later.nanos - Duration.second.nanos ∧
    Instant.epoch.sub? .longest = none ∧ s.requests = 1 ∧ s'.requests = 3 ∧
    s'.least ≤ s.least ∧ s.greatest ≤ s'.greatest ∧
    c.meter.covered later .second ≤ c.meter.covered .epoch .longest := by
  intro c later s s'
  have hnew : Meter.new? Meter.defaultRetention = some .standard := by decide
  have hwide : Duration.longest ≠ .zero := by decide
  have hopens : Instant.epoch.nanos - Duration.longest.nanos ≤
      later.nanos - Duration.second.nanos := by decide
  have hrequests : s.requests = 1 := by decide
  obtain ⟨-, hcovered, hextremes, -⟩ :=
    run_snapshot_widens hnew .epoch steadyRun later .epoch hwide hopens
  obtain ⟨hleast, -, hgreatest, -⟩ := hextremes (by rw [hrequests]; exact Nat.one_pos)
  exact ⟨hnew, hwide, hopens, by decide, hrequests, by decide, hleast, hgreatest, hcovered⟩

end ClockedMeter

end RequestMeter

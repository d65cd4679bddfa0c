/-
Nothing depends on the absolute time.

Two runs whose clocks are some whole seconds apart, and that record the same requests, hold the
same buckets that many seconds apart and answer alike.  `ClockedMeter.Shifted` relates the states of
the two, and every event keeps it.

Cutoffs are differences, so they are as far apart as the clocks are.  It makes no difference whether
a clock can show them: one that cannot be shown lies before everything there is
(`Instant.isAfter_sub?`).  Only the epoch is absolute.  Whatever lies before it counts for the epoch
itself, so neither clock may go back before it.
-/
import RequestMeter.Proofs.Meter.Invariant
import Mathlib.Data.List.Forall2

namespace RequestMeter

/-! ### Related lists, cut off at related places

Eviction and windows cut a list of buckets where a test first fails.  Where related entries pass or
fail together, both lists are cut at the same place, and what is left is related as before.
-/

section

variable {α β : Type} {R : α → β → Prop} {l : List α} {l' : List β}

private theorem forall₂_dropWhile {p : α → Bool} {q : β → Bool} (hpq : ∀ a b, R a b → p a = q b)
    (h : List.Forall₂ R l l') : List.Forall₂ R (l.dropWhile p) (l'.dropWhile q) := by
  induction h with
  | nil => exact .nil
  | @cons a b rest rest' hab hrest ih =>
      rw [List.dropWhile_cons, List.dropWhile_cons, ← hpq a b hab]
      split
      · exact ih
      · exact .cons hab hrest

private theorem forall₂_takeWhile {p : α → Bool} {q : β → Bool} (hpq : ∀ a b, R a b → p a = q b)
    (h : List.Forall₂ R l l') : List.Forall₂ R (l.takeWhile p) (l'.takeWhile q) := by
  induction h with
  | nil => exact .nil
  | @cons a b rest rest' hab hrest ih =>
      rw [List.takeWhile_cons, List.takeWhile_cons, ← hpq a b hab]
      split
      · exact .cons hab ih
      · exact .nil

/-- Related lists have related last entries. -/
private theorem exists_concat_of_forall₂ {a : α} (h : List.Forall₂ R (l ++ [a]) l') :
    ∃ (older : List β) (b : β), l' = older ++ [b] ∧ List.Forall₂ R l older ∧ R a b := by
  have hreverse := List.rel_reverse h
  rw [List.reverse_append, List.reverse_singleton, List.singleton_append] at hreverse
  obtain ⟨b, older, hab, holder, hl'⟩ := List.forall₂_cons_left_iff.mp hreverse
  refine ⟨older.reverse, b, ?_, ?_, hab⟩
  · rw [← List.reverse_reverse l', hl', List.reverse_cons]
  · rw [← List.reverse_reverse l]
    exact List.rel_reverse holder

end

variable {k : Int}

namespace Instant

/-- One instant is a number of seconds after another. -/
def Shifted (k : Int) (t t' : Instant) : Prop := t'.nanos = t.nanos + k * 1000000000

/-- A clock can show the value, and it is not before the epoch. -/
def IsShowable (n : Int) : Prop := 0 ≤ n ∧ n < 9223372036854775808000000000

instance (n : Int) : Decidable (IsShowable n) :=
  inferInstanceAs (Decidable (0 ≤ n ∧ n < 9223372036854775808000000000))

/-- The instant a number of seconds later, or the same one if a clock cannot show that. -/
def shift (k : Int) (t : Instant) : Instant :=
  (ofNanos? (t.nanos + k * 1000000000)).getD t

private theorem ofNanos?_of_isShowable {n : Int} (h : IsShowable n) :
    ∃ t, ofNanos? n = some t ∧ t.nanos = n :=
  ⟨⟨n, by have := h.1; omega, h.2⟩, dif_pos ⟨by have := h.1; omega, h.2⟩, rfl⟩

theorem shifted_shift {t : Instant} (h : IsShowable (t.nanos + k * 1000000000)) :
    t.Shifted k (t.shift k) := by
  obtain ⟨t', ht', hnanos⟩ := ofNanos?_of_isShowable h
  unfold Shifted shift
  rw [ht', Option.getD_some, hnanos]

namespace Shifted

variable {s s' t t' : Instant}

theorem le_iff (hs : s.Shifted k s') (ht : t.Shifted k t') : s' ≤ t' ↔ s ≤ t := by
  unfold Shifted at hs ht
  rw [Instant.le_iff, Instant.le_iff, hs, ht]
  omega

/-- Seconds begin in step from the epoch on. -/
theorem wholeSecond (h : t.Shifted k t') (ht : epoch ≤ t) (ht' : epoch ≤ t') :
    t.wholeSecond.Shifted k t'.wholeSecond := by
  unfold Shifted at *
  rw [Instant.le_iff, epoch_nanos] at ht ht'
  rw [wholeSecond_nanos, wholeSecond_nanos]
  omega

/-- Cutoffs move along, also where a clock cannot show them. -/
theorem isAfter_sub? (ht : t.Shifted k t') (hs : s.Shifted k s') (d : Duration) :
    t'.isAfter (s'.sub? d) = t.isAfter (s.sub? d) := by
  unfold Shifted at hs ht
  rw [Instant.isAfter_sub?, Instant.isAfter_sub?, hs, ht, decide_eq_decide]
  omega

theorem since?_eq (ht : t.Shifted k t') (hs : s.Shifted k s') : t'.since? s' = t.since? s := by
  have hle := hs.le_iff ht
  unfold Shifted at hs ht
  rw [Instant.le_iff, Instant.le_iff] at hle
  have hapart : t'.nanos - s'.nanos = t.nanos - s.nanos := by omega
  unfold since?
  rw [hapart, if_congr hle rfl rfl]

end Shifted

end Instant

/-! ### Buckets and tallies

Counts, sums and extremes never look at a second; they only pass it on.  In a snapshot the seconds
are left as a distance, and there the shift cancels (`Tally.Shifted.ofTally_eq`).
-/

/-- The same requests, of a second that is a number of seconds after the other. -/
structure Bucket.Shifted (k : Int) (b b' : Bucket) : Prop where
  second : b.second.Shifted k b'.second
  requests : b'.requests = b.requests
  total : b'.total = b.total
  least : b'.least = b.least
  greatest : b'.greatest = b.greatest

namespace Bucket

theorem single_shifted {second second' : Instant} (h : second.Shifted k second') (d : Duration) :
    (single second d).Shifted k (single second' d) := ⟨h, rfl, rfl, rfl, rfl⟩

theorem Shifted.add {b b' : Bucket} (h : b.Shifted k b') (d : Duration) :
    (b.add d).Shifted k (b'.add d) where
  second := h.second
  requests := by rw [add_requests, add_requests, h.requests]
  total := congrArg (· + d) h.total
  least := congrArg (min · d) h.least
  greatest := congrArg (max · d) h.greatest

end Bucket

/-- The same requests, of seconds that are a number of seconds after the others. -/
structure Tally.Shifted (k : Int) (t t' : Tally) : Prop where
  requests : t'.requests = t.requests
  total : t'.total = t.total
  least : t'.least = t.least
  greatest : t'.greatest = t.greatest
  newest : t.newest.Shifted k t'.newest
  oldest : t.oldest.Shifted k t'.oldest

namespace Tally

theorem ofBucket_shifted {b b' : Bucket} (h : b.Shifted k b') :
    (ofBucket b).Shifted k (ofBucket b') :=
  ⟨h.requests, h.total, h.least, h.greatest, h.second, h.second⟩

theorem Shifted.addOlder {t t' : Tally} {b b' : Bucket} (h : t.Shifted k t')
    (hb : b.Shifted k b') : (t.addOlder b).Shifted k (t'.addOlder b') where
  requests := congrArg₂ (· + ·) h.requests hb.requests
  total := congrArg₂ (· + ·) h.total hb.total
  least := congrArg₂ min h.least hb.least
  greatest := congrArg₂ max h.greatest hb.greatest
  newest := h.newest
  oldest := hb.second

theorem foldl_addOlder_shifted {older older' : List Bucket}
    (h : List.Forall₂ (Bucket.Shifted k) older older') :
    ∀ {t t' : Tally}, t.Shifted k t' →
      (older.foldl addOlder t).Shifted k (older'.foldl addOlder t') := by
  induction h with
  | nil => intro t t' ht; exact ht
  | cons hb _ ih => intro t t' ht; exact ih (ht.addOlder hb)

/-- What a snapshot says of a tally are counts, durations and distances. -/
theorem Shifted.ofTally_eq {t t' : Tally} (h : t.Shifted k t') :
    Snapshot.ofTally t' = Snapshot.ofTally t := by
  have hspan : t'.span = t.span := by
    unfold span
    rw [h.newest.since?_eq h.oldest]
  have haverage : t'.average = t.average := by
    unfold average
    rw [h.total, h.requests]
  have hrate : t'.rate = t.rate := by
    unfold rate
    rw [h.requests, hspan]
  unfold Snapshot.ofTally
  rw [h.requests, hrate, haverage, h.least, h.greatest]

theorem map_ofTally_ofBuckets?_shifted {buckets buckets' : List Bucket}
    (h : List.Forall₂ (Bucket.Shifted k) buckets buckets') :
    (ofBuckets? buckets').map Snapshot.ofTally = (ofBuckets? buckets).map Snapshot.ofTally := by
  cases h with
  | nil => rfl
  | cons hnewest holder =>
      exact congrArg some (foldl_addOlder_shifted holder (ofBucket_shifted hnewest)).ofTally_eq

end Tally

/-! ### States and events

Recording is the one event that sets the clock against the buckets, and it takes the
second of the reading.  That is where the epoch comes in: only from it on do the seconds
of both clocks begin together.
-/

theorem Meter.file_shifted {second second' : Instant} (hsecond : second.Shifted k second')
    {buckets buckets' : List Bucket} (h : List.Forall₂ (Bucket.Shifted k) buckets buckets')
    (d : Duration) :
    List.Forall₂ (Bucket.Shifted k) (file second d buckets) (file second' d buckets') := by
  rcases List.eq_nil_or_concat buckets with rfl | ⟨older, newest, rfl⟩
  · obtain rfl := List.forall₂_nil_left_iff.mp h
    exact .cons (Bucket.single_shifted hsecond d) .nil
  · rw [List.concat_eq_append] at h ⊢
    obtain ⟨older', newest', rfl, holder, hnewest⟩ := exists_concat_of_forall₂ h
    rw [file_concat, file_concat]
    by_cases hle : second ≤ newest.second
    · rw [if_pos hle, if_pos ((hsecond.le_iff hnewest.second).mpr hle)]
      exact List.rel_append holder (.cons (hnewest.add d) .nil)
    · rw [if_neg hle, if_neg (hle ∘ (hsecond.le_iff hnewest.second).mp)]
      exact List.rel_append holder
        (.cons hnewest (.cons (Bucket.single_shifted hsecond d) .nil))

/-- The same meter, with clock and buckets a number of seconds after the others. -/
structure ClockedMeter.Shifted (k : Int) (c c' : ClockedMeter) : Prop where
  now : c.now.Shifted k c'.now
  retention : c'.meter.retention = c.meter.retention
  buckets : List.Forall₂ (Bucket.Shifted k) c.meter.buckets c'.meter.buckets

/-- The event with its reading, if it has one, a number of seconds later. -/
def MeterEvent.shift (k : Int) : MeterEvent → MeterEvent
  | .set t => .set (t.shift k)
  | e => e

namespace ClockedMeter

namespace Shifted

variable {c c' : ClockedMeter}

theorem record (h : c.Shifted k c') (hnow : Instant.epoch ≤ c.now)
    (hnow' : Instant.epoch ≤ c'.now) (d : Duration) : (c.record d).Shifted k (c'.record d) where
  now := h.now
  retention := h.retention
  buckets := by
    refine Meter.file_shifted (h.now.wholeSecond hnow hnow') ?_ d
    unfold Meter.unexpired
    rw [h.retention]
    refine forall₂_dropWhile (fun b b' hb => ?_) h.buckets
    rw [hb.second.isAfter_sub? h.now]

theorem set (h : c.Shifted k c') {t t' : Instant} (ht : t.Shifted k t') :
    (c.set t).Shifted k (c'.set t') := ⟨ht, h.retention, h.buckets⟩

theorem snapshot_eq (h : c.Shifted k c') (window : Duration) :
    c'.snapshot window = c.snapshot window := by
  have hwithin : List.Forall₂ (Bucket.Shifted k) (c.meter.within c.now window)
      (c'.meter.within c'.now window) := by
    refine forall₂_takeWhile (fun b b' hb => ?_) (List.rel_reverse h.buckets)
    rw [hb.second.isAfter_sub? h.now]
  unfold snapshot
  by_cases hw : window = .zero
  · rw [hw, Meter.snapshot_zero, Meter.snapshot_zero]
  · rw [Meter.snapshot_of_ne_zero hw, Meter.snapshot_of_ne_zero hw,
      Tally.map_ofTally_ofBuckets?_shifted hwithin]

end Shifted

/-- The values that a run moves its clock to.  A clock that cannot show one refuses the move. -/
def clockMoves (now : Instant) : List MeterEvent → List Int
  | [] => []
  | .record _ :: rest => clockMoves now rest
  | .set t :: rest => t.nanos :: clockMoves t rest
  | .advance d :: rest =>
    (now.nanos + d.nanos) :: clockMoves ((now.add? d).getD now) rest

private theorem apply_advance_now (c : ClockedMeter) (d : Duration) :
    (c.apply (.advance d)).now = (c.now.add? d).getD c.now := by
  show (((c.now.add? d).map c.set).getD c).now = _
  cases c.now.add? d <;> rfl

private theorem clockMoves_append (rest : List MeterEvent) :
    ∀ (done : List MeterEvent) (c : ClockedMeter), clockMoves c.now (done ++ rest) =
      clockMoves c.now done ++ clockMoves (c.run done).now rest := by
  intro done
  induction done with
  | nil => intro c; rfl
  | cons e done ih =>
      intro c
      cases e with
      | record d => exact ih (c.record d)
      | set t => exact congrArg (t.nanos :: ·) (ih (c.set t))
      | advance d =>
          have hrest := ih (c.apply (.advance d))
          rw [apply_advance_now] at hrest
          exact congrArg ((c.now.nanos + d.nanos) :: ·) hrest

/-- After an event the clock is where it was moved, or it has not moved. -/
private theorem now_apply_mem (c : ClockedMeter) (e : MeterEvent) :
    (c.apply e).now.nanos ∈ c.now.nanos :: clockMoves c.now [e] := by
  cases e with
  | record d => exact List.mem_cons_self
  | set t => exact List.mem_cons_of_mem _ List.mem_cons_self
  | advance d =>
      rw [apply_advance_now]
      cases hmove : c.now.add? d with
      | none => exact List.mem_cons_self
      | some t =>
          refine List.mem_cons_of_mem _ (List.mem_singleton.mpr ?_)
          exact Instant.ofNanos?_eq_some_iff.mp hmove

/-- Where a clock can show it, moving on gets there. -/
private theorem apply_advance_of_isShowable {c : ClockedMeter} {d : Duration}
    (h : Instant.IsShowable (c.now.nanos + d.nanos)) :
    ∃ t : Instant, c.apply (.advance d) = c.set t ∧ t.nanos = c.now.nanos + d.nanos := by
  obtain ⟨t, ht, hnanos⟩ := Instant.ofNanos?_of_isShowable h
  refine ⟨t, ?_, hnanos⟩
  show ((c.now.add? d).map c.set).getD c = c.set t
  rw [Instant.add?, ht]
  rfl

namespace Shifted

variable {c c' : ClockedMeter}

/-- Every event keeps the two runs apart by the same time. -/
theorem apply (h : c.Shifted k c') (e : MeterEvent)
    (hclock : ∀ v ∈ c.now.nanos :: clockMoves c.now [e],
      Instant.IsShowable v ∧ Instant.IsShowable (v + k * 1000000000)) :
    (c.apply e).Shifted k (c'.apply (e.shift k)) := by
  obtain ⟨⟨hnow, hnow'⟩, hmoves⟩ := List.forall_mem_cons.mp hclock
  have hshift := h.now
  unfold Instant.Shifted at hshift
  cases e with
  | record d =>
      refine h.record hnow.1 ?_ d
      rw [Instant.le_iff, hshift]
      exact hnow'.1
  | set t => exact h.set (Instant.shifted_shift (List.forall_mem_singleton.mp hmoves).2)
  | advance d =>
      obtain ⟨hd, hd'⟩ := List.forall_mem_singleton.mp hmoves
      rw [Int.add_right_comm, ← hshift] at hd'
      obtain ⟨t, happly, hnanos⟩ := apply_advance_of_isShowable hd
      obtain ⟨t', happly', hnanos'⟩ := apply_advance_of_isShowable hd'
      show (c.apply (.advance d)).Shifted k (c'.apply (.advance d))
      rw [happly, happly']
      refine h.set ?_
      unfold Instant.Shifted
      omega

theorem run :
    ∀ (events : List MeterEvent) {c c' : ClockedMeter}, c.Shifted k c' →
      (∀ v ∈ c.now.nanos :: clockMoves c.now events,
        Instant.IsShowable v ∧ Instant.IsShowable (v + k * 1000000000)) →
      (c.run events).Shifted k (c'.run (events.map (MeterEvent.shift k))) := by
  intro events
  induction events with
  | nil => intro c c' h _; exact h
  | cons e rest ih =>
      intro c c' h hclock
      have hmoves : clockMoves c.now (e :: rest) =
          clockMoves c.now [e] ++ clockMoves (c.apply e).now rest := clockMoves_append rest [e] c
      rw [hmoves, ← List.cons_append, List.forall_mem_append] at hclock
      obtain ⟨hfirst, hrest⟩ := hclock
      refine ih (h.apply e hfirst) (List.forall_mem_cons.mpr ⟨?_, hrest⟩)
      exact hfirst _ (now_apply_mem c e)

end Shifted

/--
**Nothing depends on the absolute time.**  Where the clock goes the same way some whole seconds
later or earlier, after every event the same buckets are held that much later or earlier, and
every window answers the same.  Neither clock may go back before the epoch or be asked for an
instant that it cannot show.
-/
theorem run_shifted {retention : Duration} {m : Meter} (hm : Meter.new? retention = some m)
    (k : Int) (start : Instant) (events : List MeterEvent)
    (hclock : ∀ v ∈ start.nanos :: clockMoves start events,
      Instant.IsShowable v ∧ Instant.IsShowable (v + k * 1000000000)) :
    ∀ done, done <+: events →
      let c := ClockedMeter.run ⟨m, start⟩ done
      let c' := ClockedMeter.run ⟨m, start.shift k⟩ (done.map (MeterEvent.shift k))
      c.Shifted k c' ∧ ∀ window : Duration, c'.snapshot window = c.snapshot window := by
  rintro done ⟨rest, rfl⟩ c c'
  have hempty : m.buckets = [] := (Meter.new?_wellKept hm).2.2
  have hstart : (⟨m, start⟩ : ClockedMeter).Shifted k ⟨m, start.shift k⟩ := by
    refine ⟨Instant.shifted_shift (hclock start.nanos (by simp)).2, rfl, ?_⟩
    rw [hempty]
    exact .nil
  have hshifted : c.Shifted k c' := by
    rw [clockMoves_append rest done ⟨m, start⟩, ← List.cons_append, List.forall_mem_append]
      at hclock
    exact hstart.run done hclock.1
  exact ⟨hshifted, hshifted.snapshot_eq⟩

/-- A second on and back again, with a request at each stop. -/
def thereAndBackRun : List MeterEvent :=
  [.record .second, .advance .second, .record .zero, .set .epoch, .record .longest]

/-- A retention whose cutoff no clock can show at the epoch, but ten seconds later. -/
theorem run_shifted_thereAndBackRun :
    let long : Duration := ⟨9223372036854775813000000000, by decide⟩
    let m : Meter := ⟨long, [], by decide⟩
    let c := ClockedMeter.run ⟨m, .epoch⟩ thereAndBackRun
    let c' := ClockedMeter.run ⟨m, Instant.epoch.shift 10⟩
      (thereAndBackRun.map (MeterEvent.shift 10))
    Meter.new? long = some m ∧
    (∀ v ∈ Instant.epoch.nanos :: clockMoves .epoch thereAndBackRun,
      Instant.IsShowable v ∧ Instant.IsShowable (v + 10 * 1000000000)) ∧
    c.now.sub? long = none ∧ (c'.now.sub? long).isSome ∧
    c.Shifted 10 c' ∧ c'.snapshot long = c.snapshot long ∧
    c'.meter.buckets.map (fun b => b.second.nanos) = [10000000000, 11000000000] := by
  intro long m c c'
  have hnew : Meter.new? long = some m := by decide
  have hclock : ∀ v ∈ Instant.epoch.nanos :: clockMoves .epoch thereAndBackRun,
      Instant.IsShowable v ∧ Instant.IsShowable (v + 10 * 1000000000) := by decide
  obtain ⟨hshifted, hanswers⟩ := run_shifted hnew 10 .epoch thereAndBackRun hclock
    thereAndBackRun (List.prefix_refl _)
  exact ⟨hnew, hclock, by decide, by decide, hshifted, hanswers long, by decide⟩

end ClockedMeter

end RequestMeter

/-
The buckets of a meter stay in order, and each is what its requests left behind.

Recording looks at both ends only: expired buckets go from the front, and the newest
bucket alone decides where a request goes.  Both are right because the buckets are in the
strict order of their seconds — then the buckets that have not expired are exactly those
after the cutoff, wherever the clock stands, and no second gets a second bucket.

`file_cases` says what filing can do, and everything below is read off it.  The order
survives a clock that has been set back because a request of an earlier second goes into
the newest bucket instead of opening one behind it.  The sum of a bucket stops at the
longest duration, so its lower bound has to allow for that.
-/
import RequestMeter.Meter.Clocked
import RequestMeter.Proofs.Time.Order

namespace RequestMeter

theorem Duration.ne_zero_of_second_le {d : Duration} (h : second ≤ d) : d ≠ .zero := by
  rintro rfl
  rw [le_iff, second_nanos, zero_nanos] at h
  omega

/-- An instant lies in its second, or before the epoch. -/
theorem Instant.sub_lt_wholeSecond (t : Instant) {d : Duration} (h : Duration.second ≤ d) :
    t.nanos - d.nanos < t.wholeSecond.nanos := by
  have hsecond := t.wholeSecond_nanos
  rw [Duration.le_iff, Duration.second_nanos] at h
  omega

namespace Bucket

/-- What holds of a bucket that was made by filing requests. -/
structure Consistent (b : Bucket) : Prop where
  /-- The second is not before the epoch. -/
  epoch_le : Instant.epoch ≤ b.second
  /-- It is a whole one. -/
  whole : b.second.nanos % 1000000000 = 0
  requests_pos : 1 ≤ b.requests
  least_le_greatest : b.least ≤ b.greatest
  greatest_le_total : b.greatest ≤ b.total
  total_le : b.total.nanos ≤ b.requests * b.greatest.nanos
  /-- The sum falls short of its parts only where it has stopped. -/
  le_total : b.requests * b.least.nanos ≤ b.total.nanos ∨ b.total = Duration.longest

theorem single_consistent (now : Instant) (d : Duration) :
    (single now.wholeSecond d).Consistent := by
  have hsecond := Instant.wholeSecond_nanos now
  refine ⟨?_, ?_, Nat.le_refl 1, Nat.le_refl _, Nat.le_refl _, ?_, Or.inl ?_⟩
  · rw [Instant.le_iff, Instant.epoch_nanos, single_second]
    omega
  · rw [single_second]
    omega
  · show d.nanos ≤ 1 * d.nanos
    omega
  · show 1 * d.nanos ≤ d.nanos
    omega

theorem Consistent.add {b : Bucket} (h : b.Consistent) (d : Duration) :
    (b.add d).Consistent := by
  have hleast : (b.add d).least.nanos = min b.least.nanos d.nanos := Duration.min_nanos _ _
  have hgreatest : (b.add d).greatest.nanos = max b.greatest.nanos d.nanos :=
    Duration.max_nanos _ _
  have htotal : (b.add d).total.nanos
      = min (b.total.nanos + d.nanos) 18446744073709551615999999999 := Duration.add_nanos _ _
  have hlg := h.least_le_greatest
  have hgt := h.greatest_le_total
  rw [Duration.le_iff] at hlg hgt
  have hd := d.nanos_lt
  have hb := b.total.nanos_lt
  refine ⟨h.epoch_le, h.whole, ?_, ?_, ?_, ?_, ?_⟩
  · rw [add_requests]
    omega
  · rw [Duration.le_iff, hleast, hgreatest]
    omega
  · rw [Duration.le_iff, hgreatest, htotal]
    omega
  · rw [htotal, hgreatest, add_requests, Nat.add_mul]
    have hmul : b.requests * b.greatest.nanos ≤ b.requests * max b.greatest.nanos d.nanos :=
      Nat.mul_le_mul_left _ (Nat.le_max_left ..)
    have := h.total_le
    omega
  · rcases h.le_total with hle | hstop
    · by_cases hfits : b.total.nanos + d.nanos ≤ 18446744073709551615999999999
      · left
        rw [htotal, hleast, add_requests, Nat.add_mul]
        have hmul : b.requests * min b.least.nanos d.nanos ≤ b.requests * b.least.nanos :=
          Nat.mul_le_mul_left _ (Nat.min_le_left ..)
        omega
      · right
        apply Duration.ext
        rw [htotal, Duration.longest_nanos]
        omega
    · -- a sum that has stopped stays where it is
      right
      apply Duration.ext
      rw [htotal, hstop, Duration.longest_nanos]
      omega

end Bucket

/-! ### A cutoff in an ordered list

Where no entry before the cutoff follows one after it, dropping from the front and
taking from the back are both the same as filtering.
-/

private theorem dropWhile_eq_filter {α : Type} (p : α → Bool) :
    ∀ (l : List α), l.Pairwise (fun a b => p a = true → p b = true) →
      l.dropWhile (fun a => !p a) = l.filter p := by
  intro l
  induction l with
  | nil => intro _; rfl
  | cons a rest ih =>
      intro h
      rw [List.pairwise_cons] at h
      by_cases ha : p a = true
      · have hrest : rest.filter p = rest := List.filter_eq_self.mpr fun b hb => h.1 b hb ha
        rw [List.dropWhile_cons_of_neg (by simp [ha]), List.filter_cons_of_pos ha, hrest]
      · rw [List.dropWhile_cons_of_pos (by simpa using ha), List.filter_cons_of_neg ha, ih h.2]

private theorem takeWhile_reverse_eq_filter {α : Type} (p : α → Bool) (l : List α)
    (h : l.Pairwise (fun a b => p a = true → p b = true)) :
    l.reverse.takeWhile p = (l.filter p).reverse := by
  rw [← List.filter_reverse]
  have hrev : l.reverse.Pairwise (fun a b => p b = true → p a = true) :=
    List.pairwise_reverse.mpr h
  generalize l.reverse = r at hrev
  induction r with
  | nil => rfl
  | cons a rest ih =>
      rw [List.pairwise_cons] at hrev
      by_cases ha : p a = true
      · rw [List.takeWhile_cons_of_pos ha, List.filter_cons_of_pos ha, ih hrev.2]
      · have hrest : rest.filter p = [] :=
          List.filter_eq_nil_iff.mpr fun b hb hpb => ha (hrev.1 b hb hpb)
        rw [List.takeWhile_cons_of_neg ha, List.filter_cons_of_neg ha, hrest]

namespace Meter

/-- Oldest first, and at most one bucket for each second. -/
def Ascending (buckets : List Bucket) : Prop :=
  buckets.Pairwise fun a b => a.second < b.second

/-- Lies a bucket after a cutoff?  The cutoff is exact, and a clock need not be able to show it. -/
def isKept (cutoff : Int) (b : Bucket) : Bool := decide (cutoff < b.second.nanos)

/-- Of two cutoffs the later one counts. -/
theorem isKept_and (a c : Int) (b : Bucket) :
    (isKept a b && isKept c b) = isKept (max a c) b := by
  unfold isKept
  rw [← Bool.decide_and]
  congr 1
  rw [eq_iff_iff]
  omega

theorem Ascending.isKept {buckets : List Bucket} (h : Ascending buckets) (cutoff : Int) :
    buckets.Pairwise fun a b => Meter.isKept cutoff a = true → Meter.isKept cutoff b = true := by
  refine List.Pairwise.imp ?_ h
  intro a b hab ha
  rw [Instant.lt_iff] at hab
  simp only [Meter.isKept, decide_eq_true_eq] at ha ⊢
  omega

/-- The buckets that have not expired are those after the cutoff. -/
theorem unexpired_eq_filter {m : Meter} (h : Ascending m.buckets) (now : Instant) :
    m.unexpired now = m.buckets.filter (isKept (now.nanos - m.retention.nanos)) := by
  rw [← dropWhile_eq_filter _ _ (h.isKept _)]
  unfold unexpired
  congr 1
  funext b
  rw [Instant.isAfter_sub?]
  rfl

/-- The buckets within a window are those after its cutoff, newest first. -/
theorem within_eq_filter {m : Meter} (h : Ascending m.buckets) (now : Instant)
    (window : Duration) :
    m.within now window =
      (m.buckets.filter (isKept (now.nanos - window.nanos))).reverse := by
  rw [← takeWhile_reverse_eq_filter _ _ (h.isKept _)]
  unfold within
  congr 1
  funext b
  exact Instant.isAfter_sub? b.second now window

theorem mem_of_mem_within {m : Meter} {now : Instant} {window : Duration} {b : Bucket}
    (hb : b ∈ m.within now window) : b ∈ m.buckets :=
  List.mem_reverse.mp ((List.takeWhile_sublist _).subset hb)

/-! ### What filing can do

No bucket is ever put between others.  So the order hangs on one comparison, that of
the newest bucket with the second that is filed for, and members and ends of the list
are told by the same two cases.
-/

/-- The newest bucket takes the request, or a bucket of a later second is opened for it. -/
theorem file_cases {buckets : List Bucket} (h : Ascending buckets) (second : Instant)
    (d : Duration) :
    (∃ older newest, buckets = older ++ [newest] ∧ second ≤ newest.second ∧
      file second d buckets = older ++ [newest.add d]) ∨
    ((∀ b ∈ buckets, b.second < second) ∧
      file second d buckets = buckets ++ [.single second d]) := by
  rcases List.eq_nil_or_concat buckets with rfl | ⟨older, newest, rfl⟩
  · right
    exact ⟨by simp, rfl⟩
  · rw [List.concat_eq_append] at h ⊢
    rw [file_concat]
    by_cases hle : second ≤ newest.second
    · left
      exact ⟨older, newest, rfl, hle, if_pos hle⟩
    · right
      rw [if_neg hle]
      refine ⟨?_, by simp⟩
      have hlt : newest.second < second := lt_of_not_ge hle
      unfold Ascending at h
      rw [List.pairwise_append] at h
      intro b hb
      rcases List.mem_append.mp hb with hold | hnew
      · exact (h.2.2 b hold newest (List.mem_singleton.mpr rfl)).trans hlt
      · rw [List.mem_singleton.mp hnew]
        exact hlt

theorem mem_file {buckets : List Bucket} (h : Ascending buckets) {second : Instant}
    {d : Duration} {b : Bucket} (hb : b ∈ file second d buckets) :
    b ∈ buckets ∨ (∃ newest ∈ buckets, b = newest.add d) ∨ b = .single second d := by
  rcases file_cases h second d with ⟨older, newest, rfl, -, hfile⟩ | ⟨-, hfile⟩
  · rw [hfile] at hb
    rcases List.mem_append.mp hb with hold | hnew
    · exact Or.inl (List.mem_append_left _ hold)
    · exact Or.inr (Or.inl ⟨newest, by simp, List.mem_singleton.mp hnew⟩)
  · rw [hfile] at hb
    rcases List.mem_append.mp hb with hold | hnew
    · exact Or.inl hold
    · exact Or.inr (Or.inr (List.mem_singleton.mp hnew))

theorem file_ascending {buckets : List Bucket} (h : Ascending buckets) (second : Instant)
    (d : Duration) : Ascending (file second d buckets) := by
  rcases file_cases h second d with ⟨older, newest, rfl, -, hfile⟩ | ⟨hlt, hfile⟩
  · rw [hfile]
    unfold Ascending at h ⊢
    rw [List.pairwise_append] at h ⊢
    refine ⟨h.1, List.pairwise_singleton .., ?_⟩
    intro a ha b hb
    rw [List.mem_singleton.mp hb]
    exact h.2.2 a ha newest (List.mem_singleton.mpr rfl)
  · rw [hfile]
    unfold Ascending at h ⊢
    rw [List.pairwise_append]
    refine ⟨h, List.pairwise_singleton .., ?_⟩
    intro a ha b hb
    rw [List.mem_singleton.mp hb]
    exact hlt a ha

/-- The newest bucket after filing is of the second of the request, or of a later one. -/
theorem file_newest {buckets : List Bucket} (h : Ascending buckets) (second : Instant)
    (d : Duration) :
    ∃ older newest, file second d buckets = older ++ [newest] ∧ second ≤ newest.second ∧
      ∀ b ∈ older, b ∈ buckets := by
  rcases file_cases h second d with ⟨older, newest, rfl, hle, hfile⟩ | ⟨-, hfile⟩
  · exact ⟨older, newest.add d, hfile, hle, fun b hb => List.mem_append_left _ hb⟩
  · exact ⟨buckets, .single second d, hfile, le_refl second, fun b hb => hb⟩

/-! ### What recording keeps

Recording evicts and then files.  Eviction takes buckets away, which harms neither the order
nor what is left; and the second that is filed for has never expired, because a second is
the shortest retention there is.
-/

/-- What holds of the buckets of a meter at any time. -/
structure WellKept (m : Meter) : Prop where
  ascending : Ascending m.buckets
  consistent : ∀ b ∈ m.buckets, b.Consistent

theorem unexpired_ascending {m : Meter} (h : Ascending m.buckets) (now : Instant) :
    Ascending (m.unexpired now) :=
  h.sublist (List.dropWhile_sublist _)

theorem file_consistent {buckets : List Bucket} (ha : Ascending buckets)
    (hc : ∀ b ∈ buckets, b.Consistent) (now : Instant) (d : Duration) :
    ∀ b ∈ file now.wholeSecond d buckets, b.Consistent := by
  intro b hb
  rcases mem_file ha hb with hold | ⟨newest, hnewest, rfl⟩ | rfl
  · exact hc b hold
  · exact (hc newest hnewest).add d
  · exact Bucket.single_consistent now d

theorem WellKept.record {m : Meter} (h : m.WellKept) (now : Instant) (d : Duration) :
    (m.record now d).WellKept := by
  have ha := unexpired_ascending h.ascending now
  refine ⟨file_ascending ha _ d, file_consistent ha ?_ now d⟩
  intro b hb
  exact h.consistent b ((List.dropWhile_sublist _).subset hb)

/-- The second of an instant has not expired at that instant: less than a second has
passed since it began, and a second is the least that is kept. -/
theorem sub_retention_lt_wholeSecond (m : Meter) (t : Instant) :
    t.nanos - m.retention.nanos < t.wholeSecond.nanos :=
  t.sub_lt_wholeSecond m.second_le_retention

/-- Nothing that has expired is left, and the newest bucket is not of an earlier second. -/
theorem record_fresh {m : Meter} (h : m.WellKept) (now : Instant) (d : Duration) :
    (∀ b ∈ (m.record now d).buckets, now.nanos - m.retention.nanos < b.second.nanos) ∧
    ∃ newest, (m.record now d).buckets.getLast? = some newest ∧
      now.wholeSecond ≤ newest.second := by
  obtain ⟨older, newest, hfile, hle, hold⟩ :=
    file_newest (unexpired_ascending h.ascending now) now.wholeSecond d
  rw [record_buckets, hfile]
  refine ⟨?_, newest, by simp, hle⟩
  intro b hb
  rcases List.mem_append.mp hb with hb | hb
  · have hkept := hold b hb
    rw [unexpired_eq_filter h.ascending, List.mem_filter] at hkept
    simpa [isKept] using hkept.2
  · have hlt := sub_retention_lt_wholeSecond m now
    rw [Instant.le_iff] at hle
    rw [List.mem_singleton.mp hb]
    omega

theorem new?_wellKept {retention : Duration} {m : Meter} (hm : new? retention = some m) :
    m.WellKept ∧ m.retention = retention ∧ m.buckets = [] := by
  unfold new? at hm
  split at hm
  · cases hm
    exact ⟨⟨List.Pairwise.nil, by simp⟩, rfl, rfl⟩
  · cases hm

end Meter

/-! ### What runs keep

A run touches its meter by recording and in no other way.  So an invariant has to be shown for one
recording only, and `run_keeps` takes it to every meter that can be reached.
-/

namespace ClockedMeter

/-- An event leaves the meter alone or records a request at the reading of the clock. -/
private theorem apply_meter (c : ClockedMeter) (e : MeterEvent) :
    (c.apply e).meter = c.meter ∨ ∃ d, (c.apply e).meter = c.meter.record c.now d := by
  cases e with
  | record d => exact Or.inr ⟨d, rfl⟩
  | set t => exact Or.inl rfl
  | advance d =>
      left
      simp only [apply, advance?]
      cases c.now.add? d <;> rfl

/-- What every recording keeps, every run keeps. -/
theorem run_keeps {P : Meter → Prop}
    (hrecord : ∀ (m : Meter) (now : Instant) (d : Duration), P m → P (m.record now d)) :
    ∀ (events : List MeterEvent) (c : ClockedMeter), P c.meter → P (c.run events).meter := by
  intro events
  induction events with
  | nil => intro c h; exact h
  | cons e rest ih =>
      intro c h
      refine ih (c.apply e) ?_
      rcases apply_meter c e with heq | ⟨d, heq⟩
      · rw [heq]; exact h
      · rw [heq]; exact hrecord _ _ _ h

theorem run_retention (c : ClockedMeter) (events : List MeterEvent) :
    (c.run events).meter.retention = c.meter.retention :=
  run_keeps (P := fun m => m.retention = c.meter.retention) (fun _ _ _ h => h) events c rfl

theorem run_retention_of_new? {retention : Duration} {m : Meter}
    (hm : Meter.new? retention = some m) (start : Instant) (events : List MeterEvent) :
    (ClockedMeter.run ⟨m, start⟩ events).meter.retention = retention :=
  (run_retention ⟨m, start⟩ events).trans (Meter.new?_wellKept hm).2.1

/--
**Every meter that a run can reach is well kept**, wherever its clock has been, and
right after a recording nothing it holds has expired.
-/
theorem run_wellKept {retention : Duration} {m : Meter} (hm : Meter.new? retention = some m)
    (start : Instant) (events : List MeterEvent) :
    let c := ClockedMeter.run ⟨m, start⟩ events
    c.meter.WellKept ∧
    ∀ d : Duration,
      (∀ b ∈ (c.record d).meter.buckets, c.now.nanos - retention.nanos < b.second.nanos) ∧
      ∃ newest, (c.record d).meter.buckets.getLast? = some newest ∧
        c.now.wholeSecond ≤ newest.second := by
  intro c
  obtain ⟨hnew, hretention, -⟩ := Meter.new?_wellKept hm
  have hkept : c.meter.WellKept := run_keeps (fun _ now d h => h.record now d) events _ hnew
  have hsame : c.meter.retention = retention := by
    rw [← hretention]
    exact run_retention ⟨m, start⟩ events
  refine ⟨hkept, fun d => ?_⟩
  have hfresh := Meter.record_fresh hkept c.now d
  rw [hsame] at hfresh
  exact hfresh

/-- Four requests: one before the epoch, and one with the clock set back by a second. -/
def setBackRun : List MeterEvent :=
  [.record .longest, .set .epoch, .advance .second, .record .second, .set .epoch,
    .record .zero, .advance (.ofSeconds 4), .record .second]

theorem run_wellKept_setBackRun :
    Meter.new? (.ofSeconds 4) = some ⟨.ofSeconds 4, [], by decide⟩ ∧
    (ClockedMeter.run ⟨⟨.ofSeconds 4, [], by decide⟩, .earliest⟩ setBackRun).meter.WellKept ∧
    (ClockedMeter.run ⟨⟨.ofSeconds 4, [], by decide⟩, .earliest⟩
      setBackRun).meter.buckets.map Bucket.requests = [2, 1] := by
  have hnew : Meter.new? (.ofSeconds 4) = some ⟨.ofSeconds 4, [], by decide⟩ := by decide
  exact ⟨hnew, (run_wellKept hnew .earliest setBackRun).1, by decide⟩

end ClockedMeter

end RequestMeter

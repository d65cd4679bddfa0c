/-
What time the rate of a snapshot is taken over.

The rate is requests per second of the time from the first bucket within the window to the last.
That time is a whole number of seconds, because seconds are.  It is never longer than the
retention rounded up, because the buckets held never span more, however old they are by now.
And where no bucket is of a second still to come, it is never longer than the window rounded
up, because both ends lie between the cutoff and the reading.

So the rate is never below what it would be over the whole retention or the whole window: time
in which nothing was recorded does not dilute it.
-/
import RequestMeter.Proofs.Meter.Capacity
import RequestMeter.Proofs.Meter.Safety
import RequestMeter.Proofs.Number.Rounding
import Mathlib.Algebra.Order.Field.Basic

namespace RequestMeter

/-! ### The two ends of a tally

The span of a rate lies between the seconds of two buckets that are held and shown.
So there are two bounds on it: how far apart any two buckets can be, and that those of
a window lie after its cutoff.
-/

namespace Tally

private theorem foldl_addOlder_newest :
    ∀ (older : List Bucket) (t : Tally), (older.foldl addOlder t).newest = t.newest := by
  intro older
  induction older with
  | nil => intro t; rfl
  | cons b rest ih => intro t; exact ih (t.addOlder b)

private theorem foldl_addOlder_oldest :
    ∀ (older : List Bucket) (t : Tally),
      (older.foldl addOlder t).oldest = t.oldest ∨
        ∃ b ∈ older, b.second = (older.foldl addOlder t).oldest := by
  intro older
  induction older with
  | nil => intro t; exact Or.inl rfl
  | cons b rest ih =>
      intro t
      right
      rcases ih (t.addOlder b) with heq | ⟨a, ha, hsecond⟩
      · exact ⟨b, by simp, heq.symm⟩
      · exact ⟨a, List.mem_cons_of_mem _ ha, hsecond⟩

/-- The last second of a tally is that of the first bucket read, and its first second that of
some bucket. -/
theorem ends_of_ofBuckets? {buckets : List Bucket} {t : Tally}
    (h : ofBuckets? buckets = some t) :
    (∃ newest, buckets.head? = some newest ∧ newest.second = t.newest) ∧
      ∃ oldest ∈ buckets, oldest.second = t.oldest := by
  cases buckets with
  | nil => cases h
  | cons newest older =>
      obtain rfl := Option.some.inj h
      refine ⟨⟨newest, rfl, (foldl_addOlder_newest older (ofBucket newest)).symm⟩, ?_⟩
      rcases foldl_addOlder_oldest older (ofBucket newest) with heq | ⟨b, hb, hsecond⟩
      · exact ⟨newest, by simp, heq.symm⟩
      · exact ⟨b, List.mem_cons_of_mem _ hb, hsecond⟩

end Tally

namespace Meter

theorem lt_second_of_mem_within {m : Meter} (h : Ascending m.buckets) {now : Instant}
    {window : Duration} {b : Bucket} (hb : b ∈ m.within now window) :
    now.nanos - window.nanos < b.second.nanos := by
  rw [within_eq_filter h, List.mem_reverse, List.mem_filter] at hb
  simpa [isKept] using hb.2

/-- Where a window shows anything, it shows the newest bucket. -/
theorem head?_within {m : Meter} {now : Instant} {window : Duration} {b : Bucket}
    (h : (m.within now window).head? = some b) : m.buckets.getLast? = some b := by
  rw [← List.head?_reverse]
  unfold within at h
  cases hreverse : m.buckets.reverse with
  | nil =>
      rw [hreverse] at h
      cases h
  | cons newest older =>
      rw [hreverse, List.takeWhile_cons] at h
      split at h
      · exact h
      · cases h

/-- A snapshot that counts a request has a tally. -/
theorem tally?_of_requests_pos {m : Meter} {now : Instant} {window : Duration}
    (hpos : 0 < (m.snapshot now window).requests) :
    ∃ t, m.tally? now window = some t ∧ Tally.ofBuckets? (m.within now window) = some t := by
  have hw : window ≠ .zero := by
    rintro rfl
    exact absurd hpos (Nat.lt_irrefl 0)
  cases htally : m.tally? now window with
  | none =>
      rw [snapshot_of_tally?_eq_none htally] at hpos
      exact absurd hpos (Nat.lt_irrefl 0)
  | some t => exact ⟨t, rfl, (tally?_of_ne_zero hw m now).symm.trans htally⟩

end Meter

namespace Tally

/-- Seconds that lie less than a length of time apart cover no more than its seconds. -/
theorem Sound.seconds_le {t : Tally} (h : t.Sound) {seconds : Nat}
    (hspan : t.span.nanos = seconds * 1000000000) {length : Duration}
    (hlt : t.newest.nanos - t.oldest.nanos < length.nanos) : seconds ≤ length.secondsUp := by
  have hnanos := span_nanos h.epoch_le h.oldest_le
  unfold Duration.secondsUp
  omega

end Tally

namespace Meter

/-- The time covered is at most the retention, and at most the window if no bucket is of a second
still to come. -/
theorem seconds_covered_le {m : Meter} (h : m.WellKept)
    (hspan : SpansLessThan m.retention m.buckets) {now : Instant} {window : Duration} {t : Tally}
    (ht : Tally.ofBuckets? (m.within now window) = some t) {seconds : Nat}
    (hseconds : t.span.nanos = seconds * 1000000000) :
    seconds ≤ m.retention.secondsUp ∧
      ∀ newest, m.buckets.getLast? = some newest → newest.second ≤ now →
        seconds ≤ window.secondsUp := by
  have hsound := h.tally?_sound ht
  obtain ⟨⟨last, hlast, hnewest⟩, first, hfirst, holdest⟩ := Tally.ends_of_ofBuckets? ht
  have hheld := head?_within hlast
  refine ⟨hsound.seconds_le hseconds ?_, ?_⟩
  · rw [← hnewest, ← holdest]
    exact hspan first (mem_of_mem_within hfirst) last (List.mem_of_getLast? hheld)
  · intro newest hlatest hle
    have hafter := lt_second_of_mem_within h.ascending hfirst
    obtain rfl : last = newest := Option.some.inj (hheld.symm.trans hlatest)
    refine hsound.seconds_le hseconds ?_
    rw [Instant.le_iff] at hle
    rw [← hnewest, ← holdest]
    omega

end Meter

/-! ### The rate is never diluted -/

private theorem Duration.eq_ofSeconds {d : Duration} {seconds : Nat}
    (h : d.nanos = seconds * 1000000000) : d = .ofSeconds seconds := by
  have hlt := d.nanos_lt
  apply Duration.ext
  rw [Duration.ofSeconds, Duration.ofNanos_nanos]
  omega

/-- Over a shorter time, the same requests make a higher rate. -/
private theorem requests_div_le {seconds longer : Nat} (hpos : 1 ≤ seconds) (hle : seconds ≤ longer)
    (requests : Nat) : (requests : Rat) / longer ≤ requests / seconds := by
  have hseconds : (0 : Rat) < seconds := by exact_mod_cast hpos
  have hlonger : (seconds : Rat) ≤ longer := by exact_mod_cast hle
  exact div_le_div_of_nonneg_left (Nat.cast_nonneg requests) hseconds hlonger

namespace ClockedMeter

/--
**Quiet times do not dilute the rate.**  It is taken over a whole number of seconds, one at
least and no more than the retention has, and divides by the double of this number; where the
newest bucket is not of a second still to come, there are no more seconds than the window has.  So
it is never below the rate over the one or the other.
-/
theorem run_rate_undiluted {retention : Duration} {m : Meter}
    (hm : Meter.new? retention = some m) (start now : Instant) (events : List MeterEvent)
    (window : Duration)
    (hpos : 0 < (((ClockedMeter.run ⟨m, start⟩ events).set now).snapshot window).requests) :
    let c := (ClockedMeter.run ⟨m, start⟩ events).set now
    let s := c.snapshot window
    ∃ (t : Tally) (seconds : Nat),
      c.meter.tally? now window = some t ∧ t.span = .ofSeconds seconds ∧
      s.rate = Binary64.ofNat s.requests / t.span.inSeconds ∧
      t.span.inSeconds = Binary64.ofNat seconds ∧
      1 ≤ seconds ∧ seconds ≤ retention.secondsUp ∧
      (s.requests : Rat) / retention.secondsUp ≤ s.requests / seconds ∧
      (s.requests : Rat) / seconds ≤ s.requests ∧
      ∀ newest, c.meter.buckets.getLast? = some newest → newest.second ≤ now →
        seconds ≤ window.secondsUp ∧
        (s.requests : Rat) / window.secondsUp ≤ s.requests / seconds := by
  intro c s
  obtain ⟨hkept, hspans⟩ := run_spansLessThan hm start events
  obtain ⟨t, htally, hof⟩ := Meter.tally?_of_requests_pos hpos
  obtain ⟨seconds, hone, hseconds⟩ := (hkept.tally?_sound hof).exists_span_eq
  obtain ⟨hle, hwindow⟩ := Meter.seconds_covered_le hkept hspans hof hseconds
  rw [run_retention_of_new? hm] at hle
  have hrate : s.rate = Binary64.ofNat s.requests / t.span.inSeconds := by
    have htold : s = .ofTally t := Meter.snapshot_of_tally?_eq_some htally
    rw [htold]
    rfl
  have hspan : t.span = .ofSeconds seconds := Duration.eq_ofSeconds hseconds
  have hdouble : t.span.inSeconds = Binary64.ofNat seconds := by
    have hlt := t.span.nanos_lt
    rw [hspan]
    exact Duration.inSeconds_ofSeconds (by omega)
  refine ⟨t, seconds, htally, hspan, hrate, hdouble, hone, hle, requests_div_le hone hle _, ?_, ?_⟩
  · simpa using requests_div_le (Nat.le_refl 1) hone s.requests
  · intro newest hnewest hnow
    have hle := hwindow newest hnewest hnow
    exact ⟨hle, requests_div_le hone hle _⟩

/-- A request half a second into each of three seconds. -/
def halfPastRun : List MeterEvent :=
  [.record .second, .advance .second, .record .zero, .advance .second, .record .second]

/-- The window shows two seconds of the three that are held, which is what it has rounded up. -/
theorem run_rate_undiluted_halfPastRun :
    let half : Instant := ⟨500000000, by decide, by decide⟩
    let now : Instant := ⟨2500000000, by decide, by decide⟩
    let retention : Duration := ⟨2600000000, by decide⟩
    let window : Duration := ⟨1600000000, by decide⟩
    let newest : Bucket := .single ⟨2000000000, by decide, by decide⟩ .second
    let c := (ClockedMeter.run ⟨⟨retention, [], by decide⟩, half⟩ halfPastRun).set now
    Meter.new? retention = some ⟨retention, [], by decide⟩ ∧
    0 < (c.snapshot window).requests ∧
    c.meter.buckets.getLast? = some newest ∧ newest.second ≤ now ∧
    (∃ (t : Tally) (seconds : Nat), c.meter.tally? now window = some t ∧
      t.span = .ofSeconds seconds ∧ t.span.inSeconds = Binary64.ofNat seconds ∧
      1 ≤ seconds ∧ seconds ≤ retention.secondsUp ∧
      seconds ≤ window.secondsUp) ∧
    (c.meter.tally? now window).map Tally.span = some (.ofSeconds 2) ∧
    retention.secondsUp = 3 ∧ window.secondsUp = 2 := by
  intro half now retention window newest c
  have hnew : Meter.new? retention = some ⟨retention, [], by decide⟩ := by decide
  have hpos : 0 < (c.snapshot window).requests := by decide
  have hnewest : c.meter.buckets.getLast? = some newest := by decide
  have hnow : newest.second ≤ now := by decide
  obtain ⟨t, seconds, htally, hspan, -, hdouble, hone, hretention, -, -, hwindow⟩ :=
    run_rate_undiluted hnew half now halfPastRun window hpos
  exact ⟨hnew, hpos, hnewest, hnow,
    ⟨t, seconds, htally, hspan, hdouble, hone, hretention, (hwindow newest hnewest hnow).1⟩,
    by decide, by decide, by decide⟩

end ClockedMeter

end RequestMeter

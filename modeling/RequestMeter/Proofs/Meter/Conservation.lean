/-
How many requests the buckets hold.

A request is filed into one bucket and adds one to it, whichever bucket that is, and eviction
only takes away.  So a meter never holds more requests than were recorded
(`requestsIn_recordAll_le`), and a snapshot, which adds up the buckets within its window, never
counts more (`snapshot_requests`).
-/
import RequestMeter.Proofs.Meter.History

namespace RequestMeter

namespace Meter

/-- The requests of some buckets together. -/
def requestsIn : List Bucket → Nat
  | [] => 0
  | b :: rest => b.requests + requestsIn rest

@[simp] theorem requestsIn_nil : requestsIn [] = 0 := rfl

@[simp] theorem requestsIn_cons (b : Bucket) (rest : List Bucket) :
    requestsIn (b :: rest) = b.requests + requestsIn rest := rfl

@[simp] theorem requestsIn_append (l₁ l₂ : List Bucket) :
    requestsIn (l₁ ++ l₂) = requestsIn l₁ + requestsIn l₂ := by
  induction l₁ with
  | nil => simp
  | cons b rest ih => rw [List.cons_append, requestsIn_cons, requestsIn_cons, ih, Nat.add_assoc]

@[simp] theorem requestsIn_reverse (buckets : List Bucket) :
    requestsIn buckets.reverse = requestsIn buckets := by
  induction buckets with
  | nil => rfl
  | cons b rest ih => simp [ih, Nat.add_comm]

theorem requestsIn_le_of_sublist {l₁ l₂ : List Bucket} (h : l₁.Sublist l₂) :
    requestsIn l₁ ≤ requestsIn l₂ := by
  induction h with
  | slnil => exact Nat.le_refl _
  | cons b _ ih => exact Nat.le_trans ih (Nat.le_add_left ..)
  | cons_cons b _ ih => exact Nat.add_le_add_left ih b.requests

theorem requests_le_requestsIn {buckets : List Bucket} {b : Bucket} (hb : b ∈ buckets) :
    b.requests ≤ requestsIn buckets := by
  simpa using requestsIn_le_of_sublist (List.singleton_sublist.mpr hb)

/-- A bucket that is passed over is missing from the count. -/
theorem requestsIn_filter_add_le {buckets : List Bucket} {p : Bucket → Bool} {b : Bucket}
    (hb : b ∈ buckets) (hp : p b = false) :
    requestsIn (buckets.filter p) + b.requests ≤ requestsIn buckets := by
  induction buckets with
  | nil => exact absurd hb List.not_mem_nil
  | cons a rest ih =>
      rcases List.mem_cons.mp hb with rfl | hrest
      · have hle := requestsIn_le_of_sublist (List.filter_sublist (p := p) (l := rest))
        rw [List.filter_cons_of_neg (by simp [hp]), requestsIn_cons]
        omega
      · have hle := ih hrest
        by_cases ha : p a = true
        · rw [List.filter_cons_of_pos ha, requestsIn_cons, requestsIn_cons]
          omega
        · rw [List.filter_cons_of_neg ha, requestsIn_cons]
          omega

/-! ### Recording adds one at most -/

/-- Filing a request adds one, whichever bucket takes it. -/
theorem requestsIn_file (second : Instant) (d : Duration) (buckets : List Bucket) :
    requestsIn (file second d buckets) = requestsIn buckets + 1 := by
  rcases List.eq_nil_or_concat buckets with rfl | ⟨older, newest, rfl⟩
  · rfl
  · rw [List.concat_eq_append, file_concat]
    split
    · simp only [requestsIn_append, requestsIn_cons, requestsIn_nil, Bucket.add_requests]
      omega
    · simp only [requestsIn_append, requestsIn_cons, requestsIn_nil]
      rfl

theorem requestsIn_record_le (m : Meter) (now : Instant) (d : Duration) :
    requestsIn (m.record now d).buckets ≤ requestsIn m.buckets + 1 := by
  have hleft : requestsIn (m.unexpired now) ≤ requestsIn m.buckets :=
    requestsIn_le_of_sublist (List.dropWhile_sublist _)
  rw [record_buckets, requestsIn_file]
  omega

/-- A meter holds no request that was not recorded. -/
theorem requestsIn_recordAll_le (m : Meter) (obs : List Observation) :
    requestsIn (m.recordAll obs).buckets ≤ requestsIn m.buckets + obs.length := by
  induction obs using List.reverseRecOn with
  | nil => exact Nat.le_refl _
  | append_singleton obs o ih =>
      have hstep := requestsIn_record_le (m.recordAll obs) o.reading o.duration
      rw [recordAll_concat, List.length_append, List.length_singleton]
      omega

end Meter

/-! ### A snapshot counts what is held -/

namespace Tally

open Meter

theorem foldl_addOlder_requests :
    ∀ (older : List Bucket) (t : Tally),
      (older.foldl addOlder t).requests = t.requests + requestsIn older := by
  intro older
  induction older with
  | nil => intro t; rfl
  | cons b rest ih =>
      intro t
      rw [List.foldl_cons, ih, requestsIn_cons, ← Nat.add_assoc]
      rfl

/-- A tally counts the requests of its buckets. -/
theorem ofBuckets?_requests {buckets : List Bucket} {t : Tally}
    (h : ofBuckets? buckets = some t) : t.requests = requestsIn buckets := by
  cases buckets with
  | nil => cases h
  | cons newest older =>
      obtain rfl := Option.some.inj h
      rw [foldl_addOlder_requests]
      rfl

end Tally

namespace Meter

/-- A snapshot counts the requests of the buckets within its window. -/
theorem snapshot_requests {window : Duration} (hw : window ≠ .zero) (m : Meter) (now : Instant) :
    (m.snapshot now window).requests = requestsIn (m.within now window) := by
  rw [snapshot_of_ne_zero hw]
  cases htally : Tally.ofBuckets? (m.within now window) with
  | none =>
      cases hwithin : m.within now window with
      | nil => rfl
      | cons newest older =>
          rw [hwithin] at htally
          cases htally
  | some t => exact Tally.ofBuckets?_requests htally

end Meter

end RequestMeter

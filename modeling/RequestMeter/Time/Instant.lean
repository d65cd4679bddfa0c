/-
Points in time, as a clock shows them.

An instant is a whole number of nanoseconds after the epoch, negative before it, inside the
range of a signed 64-bit count of seconds with a nanosecond part.  Moving an instant can
leave that range, so moving is partial; the distance between two instants always fits a
duration.
-/
import RequestMeter.Time.Duration

namespace RequestMeter

/-- A point in time in whole nanoseconds after the epoch, less than 2⁶³ seconds away. -/
@[ext]
structure Instant where
  nanos : Int
  le_nanos : -9223372036854775808000000000 ≤ nanos
  nanos_lt : nanos < 9223372036854775808000000000
deriving DecidableEq

namespace Instant

/-- Where counting starts. -/
def epoch : Instant := ⟨0, by decide, by decide⟩

/-- The first instant that a clock can show. -/
def earliest : Instant := ⟨-9223372036854775808000000000, by decide, by decide⟩

/-- The instant that many nanoseconds after the epoch, if a clock can show it. -/
def ofNanos? (n : Int) : Option Instant :=
  if h : -9223372036854775808000000000 ≤ n ∧ n < 9223372036854775808000000000 then
    some ⟨n, h.1, h.2⟩
  else
    none

/-- The instant a duration later, if a clock can show it. -/
def add? (t : Instant) (d : Duration) : Option Instant := ofNanos? (t.nanos + d.nanos)

/-- The instant a duration earlier, if a clock can show it. -/
def sub? (t : Instant) (d : Duration) : Option Instant := ofNanos? (t.nanos - d.nanos)

/-- How long after an earlier instant this one is; nothing if it is not after it. -/
def since? (later earlier : Instant) : Option Duration :=
  if earlier.nanos ≤ later.nanos then
    Duration.ofNanos? (later.nanos - earlier.nanos).toNat
  else
    none

/--
The start of the second an instant lies in.  Instants before the epoch all count for the
epoch itself.
-/
def wholeSecond (t : Instant) : Instant where
  nanos := ((t.nanos.toNat / 1000000000 * 1000000000 : Nat) : Int)
  le_nanos := by omega
  nanos_lt := by have := t.nanos_lt; omega

instance : LE Instant := ⟨fun a b => a.nanos ≤ b.nanos⟩
instance : LT Instant := ⟨fun a b => a.nanos < b.nanos⟩
instance (a b : Instant) : Decidable (a ≤ b) := inferInstanceAs (Decidable (a.nanos ≤ b.nanos))
instance (a b : Instant) : Decidable (a < b) := inferInstanceAs (Decidable (a.nanos < b.nanos))
instance : Max Instant := maxOfLe
instance : Inhabited Instant := ⟨epoch⟩

/--
Does an instant lie within the trailing window that opens at a cutoff?  The cutoff itself
does not.  A window too long to have a cutoff holds every instant.
-/
def isAfter (t : Instant) : Option Instant → Bool
  | some cutoff => cutoff < t
  | none => true

/-! ### What the operations do to the nanoseconds -/

theorem le_iff {a b : Instant} : a ≤ b ↔ a.nanos ≤ b.nanos := Iff.rfl

theorem lt_iff {a b : Instant} : a < b ↔ a.nanos < b.nanos := Iff.rfl

@[simp] theorem epoch_nanos : epoch.nanos = 0 := rfl

theorem earliest_le (t : Instant) : earliest ≤ t := t.le_nanos

theorem max_nanos (a b : Instant) : (max a b).nanos = max a.nanos b.nanos := by
  change (if a ≤ b then b else a).nanos = _
  split <;> rename_i h <;> rw [le_iff] at h <;> omega

theorem ofNanos?_nanos (t : Instant) : ofNanos? t.nanos = some t :=
  dif_pos ⟨t.le_nanos, t.nanos_lt⟩

theorem ofNanos?_eq_some_iff {n : Int} {t : Instant} : ofNanos? n = some t ↔ t.nanos = n := by
  constructor
  · intro h
    unfold ofNanos? at h
    split at h
    · cases h; rfl
    · cases h
  · rintro rfl
    exact ofNanos?_nanos t

theorem wholeSecond_nanos (t : Instant) :
    t.wholeSecond.nanos = max 0 (t.nanos / 1000000000 * 1000000000) := by
  simp only [wholeSecond]
  omega

/-- The later of two instants lies in the later of their seconds. -/
theorem wholeSecond_max (a b : Instant) :
    (max a b).wholeSecond = max a.wholeSecond b.wholeSecond := by
  apply Instant.ext
  rw [wholeSecond_nanos, max_nanos, max_nanos, wholeSecond_nanos, wholeSecond_nanos]
  omega

/-- Lying after the cutoff of a window is a comparison of exact differences. -/
theorem isAfter_sub? (t now : Instant) (window : Duration) :
    t.isAfter (now.sub? window) = decide (now.nanos - window.nanos < t.nanos) := by
  have hlo := t.le_nanos
  have hhi := now.nanos_lt
  unfold sub? ofNanos?
  split
  · rfl
  · simp only [isAfter]
    symm
    rw [decide_eq_true_iff]
    omega

/-- The distance to an earlier instant always fits a duration. -/
theorem since?_nanos {later earlier : Instant} (h : earlier ≤ later) :
    (later.since? earlier).map Duration.nanos = some (later.nanos - earlier.nanos).toNat := by
  have hlo := earlier.le_nanos
  have hhi := later.nanos_lt
  rw [le_iff] at h
  unfold since? Duration.ofNanos?
  rw [if_pos h, dif_pos (by omega)]
  rfl

end Instant

end RequestMeter

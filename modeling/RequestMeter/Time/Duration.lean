/-
Lengths of time.

A duration is a whole number of nanoseconds, below what a 64-bit count of seconds with a
nanosecond part can hold.  The bound is part of the type, so a sum has to say what it does
at the bound: `+` stays at the longest duration.
-/

namespace RequestMeter

/-- A length of time in whole nanoseconds, below 2⁶⁴ seconds. -/
@[ext]
structure Duration where
  nanos : Nat
  nanos_lt : nanos < 18446744073709551616000000000
deriving DecidableEq

namespace Duration

/-- The longest duration, one nanosecond short of 2⁶⁴ seconds. -/
def longest : Duration := ⟨18446744073709551615999999999, by decide⟩

/-- The duration of a number of nanoseconds, if there is one. -/
def ofNanos? (n : Nat) : Option Duration :=
  if h : n < 18446744073709551616000000000 then some ⟨n, h⟩ else none

/-- The duration of a number of nanoseconds, or the longest one. -/
def ofNanos (n : Nat) : Duration :=
  (ofNanos? n).getD longest

/-- The duration of a number of seconds, or the longest one. -/
def ofSeconds (n : Nat) : Duration := ofNanos (n * 1000000000)

/-- No time at all. -/
def zero : Duration := ⟨0, by decide⟩

/-- One second. -/
def second : Duration := ⟨1000000000, by decide⟩

/-- Sums stop at the longest duration. -/
instance : Add Duration := ⟨fun a b => ofNanos (a.nanos + b.nanos)⟩

instance : LE Duration := ⟨fun a b => a.nanos ≤ b.nanos⟩
instance : LT Duration := ⟨fun a b => a.nanos < b.nanos⟩
instance (a b : Duration) : Decidable (a ≤ b) := inferInstanceAs (Decidable (a.nanos ≤ b.nanos))
instance (a b : Duration) : Decidable (a < b) := inferInstanceAs (Decidable (a.nanos < b.nanos))
instance : Min Duration := minOfLe
instance : Max Duration := maxOfLe
instance : Inhabited Duration := ⟨zero⟩

/-- Whole microseconds. -/
def micros (d : Duration) : Nat := d.nanos / 1000

/-- Whole seconds. -/
def seconds (d : Duration) : Nat := d.nanos / 1000000000

/-- The nanoseconds left over beside the whole seconds. -/
def subsecNanos (d : Duration) : Nat := d.nanos % 1000000000

/-! ### What the operations do to the nanoseconds -/

theorem le_iff {a b : Duration} : a ≤ b ↔ a.nanos ≤ b.nanos := Iff.rfl

theorem lt_iff {a b : Duration} : a < b ↔ a.nanos < b.nanos := Iff.rfl

@[simp] theorem zero_nanos : zero.nanos = 0 := rfl

@[simp] theorem second_nanos : second.nanos = 1000000000 := rfl

@[simp] theorem longest_nanos : longest.nanos = 18446744073709551615999999999 := rfl

theorem ofNanos?_eq_some_iff {n : Nat} {d : Duration} : ofNanos? n = some d ↔ d.nanos = n := by
  constructor
  · intro h
    unfold ofNanos? at h
    split at h
    · cases h; rfl
    · cases h
  · rintro rfl
    exact dif_pos d.nanos_lt

theorem ofNanos_nanos (n : Nat) :
    (ofNanos n).nanos = min n 18446744073709551615999999999 := by
  unfold ofNanos ofNanos?
  split
  · simp only [Option.getD_some]; omega
  · simp only [Option.getD_none, longest_nanos]; omega

/-- Any 64-bit number of seconds is a duration. -/
theorem ofSeconds_nanos {n : Nat} (h : n ≤ 18446744073709551615) :
    (ofSeconds n).nanos = n * 1000000000 := by
  rw [ofSeconds, ofNanos_nanos]
  omega

theorem add_nanos (a b : Duration) :
    (a + b).nanos = min (a.nanos + b.nanos) 18446744073709551615999999999 :=
  ofNanos_nanos _

theorem min_nanos (a b : Duration) : (min a b).nanos = min a.nanos b.nanos := by
  change (if a ≤ b then a else b).nanos = _
  split <;> rename_i h <;> rw [le_iff] at h <;> omega

theorem max_nanos (a b : Duration) : (max a b).nanos = max a.nanos b.nanos := by
  change (if a ≤ b then b else a).nanos = _
  split <;> rename_i h <;> rw [le_iff] at h <;> omega

theorem add_comm (a b : Duration) : a + b = b + a := by
  apply Duration.ext
  rw [add_nanos, add_nanos, Nat.add_comm]

/-- It does not matter where in a sum the longest duration is reached. -/
theorem add_right_comm (a b c : Duration) : a + b + c = a + c + b := by
  apply Duration.ext
  simp only [add_nanos]
  omega

end Duration

end RequestMeter

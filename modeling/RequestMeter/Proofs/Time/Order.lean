/-
Durations and instants in order.

Both are ordered by their nanoseconds, so they inherit all that is known of the order of numbers:
of two there is always a lesser and a greater one, and it does not matter in which order the least
or the greatest of several is looked for.  The comparisons stay those that the meter makes; only
what they obey is added.
-/
import RequestMeter.Time.Instant
import Mathlib.Data.Int.Order.Basic
import Mathlib.Order.MinMax

namespace RequestMeter

namespace Duration

instance : Ord Duration := ⟨fun a b => compare a.nanos b.nanos⟩

instance : LinearOrder Duration :=
  Function.Injective.linearOrder nanos (fun _ _ => Duration.ext) Iff.rfl Iff.rfl min_nanos
    max_nanos fun _ _ => rfl

end Duration

namespace Instant

instance : Min Instant := minOfLe

instance : Ord Instant := ⟨fun a b => compare a.nanos b.nanos⟩

private theorem min_nanos (a b : Instant) : (min a b).nanos = min a.nanos b.nanos := by
  change (if a ≤ b then a else b).nanos = _
  split <;> rename_i h <;> rw [le_iff] at h <;> omega

instance : LinearOrder Instant :=
  Function.Injective.linearOrder nanos (fun _ _ => Instant.ext) Iff.rfl Iff.rfl min_nanos
    max_nanos fun _ _ => rfl

end Instant

end RequestMeter

/-
What a meter answers.

A snapshot describes the requests of a trailing window.  The buckets are read from the newest
back to the first that does not lie within the window.  The rate is taken over the time these
buckets cover and not over the window, so a long window does not dilute the rate of a meter
that has just started.
-/
import RequestMeter.Meter.Basic
import RequestMeter.Meter.Tally

namespace RequestMeter

/-- Statistics of the requests of some window. -/
@[ext]
structure Snapshot where
  requests : Nat
  /-- Requests per second. -/
  rate : Binary64
  average : Duration
  least : Duration
  greatest : Duration
deriving DecidableEq

namespace Snapshot

/-- The snapshot of no requests. -/
def empty : Snapshot := ⟨0, .zero, .zero, .zero, .zero⟩

instance : Inhabited Snapshot := ⟨empty⟩

/-- The snapshot of a tally. -/
def ofTally (t : Tally) : Snapshot :=
  ⟨t.requests, t.rate, t.average, t.least, t.greatest⟩

end Snapshot

namespace Meter

/-- The buckets within a trailing window, newest first. -/
def within (m : Meter) (now : Instant) (window : Duration) : List Bucket :=
  m.buckets.reverse.takeWhile fun b => b.second.isAfter (now.sub? window)

/-- The tally of a trailing window; a window of no length has none. -/
def tally? (m : Meter) (now : Instant) (window : Duration) : Option Tally :=
  if window = .zero then none else Tally.ofBuckets? (m.within now window)

/-- The statistics of a trailing window. -/
def snapshot (m : Meter) (now : Instant) (window : Duration) : Snapshot :=
  match m.tally? now window with
  | none => .empty
  | some t => .ofTally t

theorem snapshot_of_tally?_eq_some {m : Meter} {now : Instant} {window : Duration} {t : Tally}
    (h : m.tally? now window = some t) : m.snapshot now window = .ofTally t := by
  rw [snapshot, h]

theorem snapshot_of_tally?_eq_none {m : Meter} {now : Instant} {window : Duration}
    (h : m.tally? now window = none) : m.snapshot now window = .empty := by
  rw [snapshot, h]

theorem tally?_of_ne_zero {window : Duration} (h : window ≠ .zero) (m : Meter) (now : Instant) :
    m.tally? now window = Tally.ofBuckets? (m.within now window) := if_neg h

/-- A window of no length has nothing to show. -/
@[simp] theorem snapshot_zero (m : Meter) (now : Instant) : m.snapshot now .zero = .empty := rfl

/-- The snapshot of another window is that of the buckets within it. -/
theorem snapshot_of_ne_zero {window : Duration} (h : window ≠ .zero) (m : Meter) (now : Instant) :
    m.snapshot now window =
      ((Tally.ofBuckets? (m.within now window)).map Snapshot.ofTally).getD .empty := by
  unfold snapshot
  rw [tally?_of_ne_zero h]
  cases Tally.ofBuckets? (m.within now window) <;> rfl

end Meter

end RequestMeter

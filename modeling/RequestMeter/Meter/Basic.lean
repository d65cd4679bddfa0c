/-
The meter: request durations in one-second buckets, kept for a retention.

Recording first lets go of the buckets that have expired, oldest first, up to the first one
that has not.  Then the request goes into the bucket of its second.  Where the clock has been
set back, the newest bucket is of a later second and takes the request, so the buckets stay
in the order of their seconds.
-/
import RequestMeter.Meter.Bucket

namespace RequestMeter

/-- Buckets and the time they are kept for.  Buckets are a second wide, so a shorter
retention would keep nothing. -/
structure Meter where
  retention : Duration
  /-- Oldest first. -/
  buckets : List Bucket
  second_le_retention : Duration.second ≤ retention
deriving DecidableEq

namespace Meter

/-- A meter without buckets, if the retention is long enough. -/
def new? (retention : Duration) : Option Meter :=
  if h : Duration.second ≤ retention then some ⟨retention, [], h⟩ else none

/-- Buckets are kept for a quarter of an hour unless something else is asked for. -/
def defaultRetention : Duration := .ofSeconds 900

/-- A meter with the default retention. -/
def standard : Meter := ⟨defaultRetention, [], by decide⟩

instance : Inhabited Meter := ⟨standard⟩

/-- The buckets that are left once the expired ones have gone. -/
def unexpired (m : Meter) (now : Instant) : List Bucket :=
  m.buckets.dropWhile fun b => !b.second.isAfter (now.sub? m.retention)

/-- Puts a request of a second into the newest bucket, or into a new one behind it. -/
def file (second : Instant) (d : Duration) (buckets : List Bucket) : List Bucket :=
  match buckets.getLast? with
  | none => [.single second d]
  | some newest =>
    if second ≤ newest.second then buckets.dropLast ++ [newest.add d]
    else buckets ++ [.single second d]

/-- Records a request that took a duration and ended now. -/
def record (m : Meter) (now : Instant) (d : Duration) : Meter :=
  { m with buckets := file now.wholeSecond d (m.unexpired now) }

/-! ### What recording does to the buckets -/

@[simp] theorem file_nil (second : Instant) (d : Duration) :
    file second d [] = [.single second d] := rfl

/-- Only the newest bucket decides where a request goes, and only it can change. -/
theorem file_concat (second : Instant) (d : Duration) (older : List Bucket) (newest : Bucket) :
    file second d (older ++ [newest]) =
      if second ≤ newest.second then older ++ [newest.add d]
      else older ++ [newest, .single second d] := by
  simp [file]

@[simp] theorem record_retention (m : Meter) (now : Instant) (d : Duration) :
    (m.record now d).retention = m.retention := rfl

theorem record_buckets (m : Meter) (now : Instant) (d : Duration) :
    (m.record now d).buckets = file now.wholeSecond d (m.unexpired now) := rfl

end Meter

end RequestMeter

/-
Recording and asking with numbers that have to fit.

Counts are 64-bit numbers here, and where there is no sum, distance or quotient there is no
answer either.  A sum of durations that stops at the longest duration, and a cutoff that a clock
cannot show, are no failures: they are what is meant.
-/
import RequestMeter.Meter.Clocked

namespace RequestMeter

/-- The sum of two counts, if 64 bits can hold it. -/
def addCounts? (a b : Nat) : Option Nat :=
  if a + b < 18446744073709551616 then some (a + b) else none

/-- The start of the second of an instant, put after the epoch by its whole seconds. -/
def Instant.wholeSecond? (t : Instant) : Option Instant :=
  epoch.add? (.ofSeconds ((t.since? epoch).getD .zero).seconds)

/-- One more request in the same second, if it can be counted. -/
def Bucket.add? (b : Bucket) (d : Duration) : Option Bucket := do
  let requests ← addCounts? b.requests 1
  return { b.add d with requests := requests }

namespace Tally

/-- The time the tally covers, if its first second is not after its last and the sum fits. -/
def span? (t : Tally) : Option Duration := do
  let apart ← t.newest.since? t.oldest
  Duration.ofNanos? (apart.nanos + Duration.second.nanos)

/-- The average duration, if there is a request to share the total. -/
def average? (t : Tally) : Option Duration :=
  if t.requests = 0 then none else some t.average

/-- The snapshot of the tally. -/
def snapshot? (t : Tally) : Option Snapshot := do
  let span ← t.span?
  let average ← t.average?
  return ⟨t.requests, Binary64.ofNat t.requests / span.inSeconds, average, t.least, t.greatest⟩

end Tally

namespace Meter

/-- Puts a request of a second into the newest bucket, or into a new one behind it. -/
def file? (second : Instant) (d : Duration) (buckets : List Bucket) : Option (List Bucket) :=
  match buckets.getLast? with
  | none => some [.single second d]
  | some newest =>
    if second ≤ newest.second then do
      let newest ← newest.add? d
      return buckets.dropLast ++ [newest]
    else some (buckets ++ [.single second d])

/-- Records a request that took a duration and ended now. -/
def record? (m : Meter) (now : Instant) (d : Duration) : Option Meter := do
  let second ← now.wholeSecond?
  let buckets ← file? second d (m.unexpired now)
  return { m with buckets := buckets }

/-- The requests of some buckets, counted one bucket after another. -/
def count? (buckets : List Bucket) : Option Nat :=
  buckets.foldlM (fun n b => addCounts? n b.requests) 0

/-- The statistics of a trailing window. -/
def snapshot? (m : Meter) (now : Instant) (window : Duration) : Option Snapshot :=
  if window = .zero then some .empty
  else do
    let requests ← count? (m.within now window)
    match Tally.ofBuckets? (m.within now window) with
    | none => return .empty
    | some t => Tally.snapshot? { t with requests := requests }

end Meter

namespace ClockedMeter

/-- One event.  A move that the clock refuses leaves everything as it was. -/
def step? (c : ClockedMeter) : MeterEvent → Option ClockedMeter
  | .record d => do
    let meter ← c.meter.record? c.now d
    return { c with meter := meter }
  | e => some (c.apply e)

/-- A run of events. -/
def run? (c : ClockedMeter) (events : List MeterEvent) : Option ClockedMeter :=
  events.foldlM step? c

end ClockedMeter

end RequestMeter

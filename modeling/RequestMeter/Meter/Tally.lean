/-
Buckets added up.

A tally is what a run of buckets amounts to: the number of their requests, the total, least
and greatest duration, and the first and last second.  The rate and the average come from it.
-/
import RequestMeter.Meter.Bucket
import RequestMeter.Time.InSeconds

namespace RequestMeter

/-- What some buckets, at least one, amount to. -/
@[ext]
structure Tally where
  requests : Nat
  total : Duration
  least : Duration
  greatest : Duration
  /-- The last second that counts. -/
  newest : Instant
  /-- The first second that counts. -/
  oldest : Instant
deriving DecidableEq

namespace Tally

/-- A single bucket. -/
def ofBucket (b : Bucket) : Tally :=
  ⟨b.requests, b.total, b.least, b.greatest, b.second, b.second⟩

/-- One more bucket, older than those before. -/
def addOlder (t : Tally) (b : Bucket) : Tally where
  requests := t.requests + b.requests
  total := t.total + b.total
  least := min t.least b.least
  greatest := max t.greatest b.greatest
  newest := t.newest
  oldest := b.second

/-- Some buckets, newest first. -/
def ofBuckets? : List Bucket → Option Tally
  | [] => none
  | newest :: older => some (older.foldl addOlder (ofBucket newest))

/-- The time the tally covers, both its first and its last second included. -/
def span (t : Tally) : Duration :=
  (t.newest.since? t.oldest).getD .zero + .second

/-- The average duration in whole nanoseconds, at most what 64 bits can hold. -/
def average (t : Tally) : Duration :=
  .ofNanos (min (t.total.nanos / t.requests) 18446744073709551615)

/-- Requests per second of the time covered. -/
def rate (t : Tally) : Binary64 := Binary64.ofNat t.requests / t.span.inSeconds

end Tally

end RequestMeter

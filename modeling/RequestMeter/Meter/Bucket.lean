/-
What a meter keeps of the requests of one second: how many there were, how long they took
together, and the shortest and the longest of them.
-/
import RequestMeter.Time.Instant

namespace RequestMeter

/-- All requests that were recorded within one second. -/
@[ext]
structure Bucket where
  /-- The start of the second. -/
  second : Instant
  requests : Nat
  /-- The durations added up, at most the longest duration. -/
  total : Duration
  least : Duration
  greatest : Duration
deriving DecidableEq

namespace Bucket

/-- The bucket of a second with one request. -/
def single (second : Instant) (d : Duration) : Bucket := ⟨second, 1, d, d, d⟩

/-- One more request in the same second. -/
def add (b : Bucket) (d : Duration) : Bucket where
  second := b.second
  requests := b.requests + 1
  total := b.total + d
  least := min b.least d
  greatest := max b.greatest d

@[simp] theorem single_second (s : Instant) (d : Duration) : (single s d).second = s := rfl

@[simp] theorem add_second (b : Bucket) (d : Duration) : (b.add d).second = b.second := rfl

@[simp] theorem add_requests (b : Bucket) (d : Duration) :
    (b.add d).requests = b.requests + 1 := rfl

end Bucket

end RequestMeter

/-
A request on its way with a stopwatch.

The stopwatch starts with the request and stops once: when the service fails to reply, when the
body ends or fails for the first time, or when the client gives up before that.  Polls give what
they would give without the stopwatch.
-/
import RequestMeter.Exchange.Basic

namespace RequestMeter

/-- A request on its way, and whether its stopwatch is still running. -/
structure TimedExchange where
  exchange : Exchange
  running : Bool

namespace TimedExchange

/-- A request that follows a script, as its stopwatch starts. -/
def start (s : Script) : TimedExchange := ⟨.ofScript s, true⟩

/-- Asks for more.  The last component tells whether the stopwatch stops with this. -/
def poll (t : TimedExchange) : Progress × Option TimedExchange × Bool :=
  let (progress, rest) := t.exchange.poll
  (progress,
   rest.map fun e => ⟨e, t.running && !progress.isFinal⟩,
   t.running && progress.isFinal)

/-- Gives up.  Tells whether the stopwatch stops with this. -/
def drop (t : TimedExchange) : Bool := t.running

/--
Polls a number of times, or until nothing is left.  Gives what the polls gave and how often the
stopwatch stopped.
-/
def pollTimes : Nat → TimedExchange → List Progress × Nat
  | 0, _ => ([], 0)
  | polls + 1, t =>
    match t.poll with
    | (progress, rest, stopped) =>
      let (later, stops) :=
        match rest with
        | some t' => pollTimes polls t'
        | none => ([], 0)
      (progress :: later, stops + stopped.toNat)

/-! ### What the stopwatch changes, and what it does not -/

/-- A poll gives what it would give without the stopwatch. -/
theorem poll_fst (t : TimedExchange) : t.poll.1 = t.exchange.poll.1 := rfl

/-- A poll leaves what it would leave without the stopwatch. -/
theorem poll_exchange (t : TimedExchange) :
    t.poll.2.1.map TimedExchange.exchange = t.exchange.poll.2 := by
  simp [poll, Function.comp_def]

/-- The stopwatch stops with a poll that is final, if it has not stopped before. -/
theorem poll_stops (t : TimedExchange) :
    t.poll.2.2 = (t.running && t.exchange.poll.1.isFinal) := rfl

end TimedExchange

end RequestMeter

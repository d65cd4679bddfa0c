/-
The app with a stopwatch on each request.

The app answers from the meter as it is; then the body of the answer is read to its end, and with
that the meter hears of the request.  So a report never counts the request that asked for it.
-/
import RequestMeter.Exchange.Timed
import RequestMeter.Http.App
import RequestMeter.Meter.Clocked

namespace RequestMeter.Http

/-- What can happen to the app. -/
inductive AppEvent where
  /-- A request, and what its stopwatch shows in the end. -/
  | request (r : Request) (elapsed : Duration)
  /-- Something else happens to the meter or its clock. -/
  | event (e : MeterEvent)

namespace Response

/-- The body in one piece, or in none. -/
def items (r : Response) : List BodyItem := if r.body.isEmpty then [] else [.chunk r.body]

/-- How an exchange goes in which the response is given. -/
def script (r : Response) : Script :=
  ⟨0, .ok ⟨r.status, .bytes r.body.utf8ByteSize, r.items⟩⟩

/-- How often the exchange is polled until the body has been read. -/
def polls (r : Response) : Nat := r.items.length + 2

end Response

namespace App

/-- The meter after a request has been recorded a number of times. -/
def recordTimes (c : ClockedMeter) (elapsed : Duration) : Nat → ClockedMeter
  | 0 => c
  | n + 1 => recordTimes (c.record elapsed) elapsed n

/-- Answers a request, reads the answer, and tells the meter. -/
def serve (c : ClockedMeter) (elapsed : Duration) (r : Request) : Response × ClockedMeter :=
  let response := handle c.meter c.now r
  let (_, stops) := (TimedExchange.start response.script).pollTimes response.polls
  (response, recordTimes c elapsed stops)

/-- One event, and the answer to it if it is a request. -/
def act (c : ClockedMeter) : AppEvent → Option Response × ClockedMeter
  | .request r elapsed =>
    match serve c elapsed r with
    | (response, next) => (some response, next)
  | .event e => (none, c.apply e)

/-- A run of events: the answers, and the meter in the end. -/
def run (c : ClockedMeter) : List AppEvent → List (Option Response) × ClockedMeter
  | [] => ([], c)
  | e :: rest =>
    match act c e with
    | (answer, next) =>
      match run next rest with
      | (answers, last) => (answer :: answers, last)

end App

end RequestMeter.Http

/-
The traffic past a meter: requests on their way, each with a stopwatch and held under a name.

The meter hears of a request once, in the step that stops its stopwatch.  A new request may take
the name of an old one; the client then gives up on the old one after the new one has started.
How long a request took is what the stopwatch shows, so it comes with the step.
-/
import RequestMeter.Exchange.Slots
import RequestMeter.Exchange.Timed
import RequestMeter.Meter.Clocked

namespace RequestMeter

/-- What a client, or the clock, can do. -/
inductive TrafficAction where
  /-- Starts a request. -/
  | call (name : String) (script : Script)
  /-- Asks for more. -/
  | poll (name : String)
  /-- Gives up. -/
  | drop (name : String)
  /-- Asks a service of some readiness whether it takes requests. -/
  | ready (inner : Readiness)
  /-- Something else happens to the meter or its clock. -/
  | event (e : MeterEvent)

/-- What a client hears of it. -/
inductive TrafficAnswer where
  | called
  | progress (p : Progress)
  | dropped
  /-- There is nothing under the name. -/
  | gone
  | readiness (r : Readiness)
  /-- The event was no business of the client's. -/
  | nothing
deriving DecidableEq

/-- The requests on their way, and the meter that their times go to. -/
structure Traffic where
  clocked : ClockedMeter
  held : Slots TimedExchange

namespace Traffic

/-- What follows for the client and the requests, and whether a stopwatch stops. -/
def respond (held : Slots TimedExchange) :
    TrafficAction → TrafficAnswer × Slots TimedExchange × Bool
  | .call name script =>
    let stops := match held.get? name with
      | some old => old.drop
      | none => false
    (.called, held.put name (.start script), stops)
  | .poll name =>
    match held.get? name with
    | none => (.gone, held, false)
    | some t =>
      match t.poll with
      | (progress, rest, stops) => (.progress progress, held.update name rest, stops)
  | .drop name =>
    match held.get? name with
    | none => (.gone, held, false)
    | some t => (.dropped, held.erase name, t.drop)
  | .ready inner => (.readiness inner, held, false)
  | .event _ => (.nothing, held, false)

/-- The meter after an action. -/
def told (c : ClockedMeter) (stops : Bool) (elapsed : Duration) : TrafficAction → ClockedMeter
  | .event e => c.apply e
  | _ => if stops then c.record elapsed else c

/-- One action.  `elapsed` is what the stopwatch shows if one stops. -/
def act (t : Traffic) (elapsed : Duration) (a : TrafficAction) : TrafficAnswer × Traffic :=
  match respond t.held a with
  | (answer, held, stops) => (answer, ⟨told t.clocked stops elapsed a, held⟩)

/-- A run of actions: what the client heard, and the traffic in the end. -/
def run (t : Traffic) : List (TrafficAction × Duration) → List TrafficAnswer × Traffic
  | [] => ([], t)
  | (a, elapsed) :: rest =>
    match t.act elapsed a with
    | (answer, next) =>
      match next.run rest with
      | (answers, last) => (answer :: answers, last)

end Traffic

end RequestMeter

/-
A meter beside a clock that is set by hand.

The clock may be set to any instant, forwards or backwards, and moved on by any duration that
leaves it an instant to show; a move beyond the last instant is refused and changes nothing.
-/
import RequestMeter.Meter.Snapshot

namespace RequestMeter

/-- A meter and the reading of its clock. -/
structure ClockedMeter where
  meter : Meter
  now : Instant
deriving DecidableEq

/-- What can happen to a meter and its clock. -/
inductive MeterEvent where
  /-- A request that took this long ends. -/
  | record (d : Duration)
  /-- The clock is set. -/
  | set (t : Instant)
  /-- The clock moves on. -/
  | advance (d : Duration)
deriving DecidableEq

namespace ClockedMeter

/-- Records a request at the reading of the clock. -/
def record (c : ClockedMeter) (d : Duration) : ClockedMeter :=
  { c with meter := c.meter.record c.now d }

/-- Sets the clock. -/
def set (c : ClockedMeter) (t : Instant) : ClockedMeter := { c with now := t }

/-- Moves the clock on, if it can show the instant. -/
def advance? (c : ClockedMeter) (d : Duration) : Option ClockedMeter :=
  (c.now.add? d).map c.set

/-- The statistics of a trailing window at the reading of the clock. -/
def snapshot (c : ClockedMeter) (window : Duration) : Snapshot := c.meter.snapshot c.now window

/-- One event.  A move that the clock refuses leaves everything as it was. -/
def apply (c : ClockedMeter) : MeterEvent → ClockedMeter
  | .record d => c.record d
  | .set t => c.set t
  | .advance d => (c.advance? d).getD c

/-- A run of events. -/
def run (c : ClockedMeter) (events : List MeterEvent) : ClockedMeter := events.foldl apply c

/--
Steady load: records a request and moves the clock on, a number of times.  Where the clock
refuses to move, the load ends and the answer says so with `false`.
-/
def load (d every : Duration) (c : ClockedMeter) : Nat → ClockedMeter × Bool
  | 0 => (c, true)
  | times + 1 =>
    let recorded := c.record d
    match recorded.advance? every with
    | none => (recorded, false)
    | some moved => load d every moved times

end ClockedMeter

end RequestMeter

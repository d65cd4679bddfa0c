/-
A request on its way: the wait for the reply and then its body.

Asking for more is called a poll.  A body that says there is none is at its end whatever it
holds.  A body goes on after a failure, but it fails only once: later failures are passed over.
-/
import RequestMeter.Exchange.Script

namespace RequestMeter

/-- What a poll gives. -/
inductive Progress where
  /-- Nothing yet. -/
  | pending
  /-- There will be no reply. -/
  | failed (f : Failure)
  /-- The reply; its body can be polled now. -/
  | started (status : Nat) (size : BodySize)
  /-- More of the body. -/
  | chunk (data : String)
  /-- The body has failed. -/
  | broken (message : String)
  /-- The body is at its end. -/
  | ended
deriving DecidableEq

/-- Is the exchange over with this, for better or worse? -/
def Progress.isFinal : Progress → Bool
  | failed _ | broken _ | ended => true
  | pending | started .. | chunk _ => false

/-- What is left of a body. -/
structure Body where
  size : BodySize
  items : List BodyItem
  /-- Has it failed before? -/
  hasFailed : Bool
deriving DecidableEq

namespace Body

/-- The body of a reply. -/
def ofReply (r : Reply) : Body := ⟨r.size, r.items, false⟩

/-- What is still to be polled.  Failures after the first are passed over. -/
def remaining (b : Body) : List BodyItem :=
  if b.hasFailed then b.items.dropWhile BodyItem.isFailure else b.items

/-- Asks for more of a body. -/
def poll (b : Body) : Progress × Body :=
  if b.size = .none then (.ended, b)
  else
    match b.remaining with
    | [] => (.ended, { b with items := [] })
    | .chunk data :: rest => (.chunk data, { b with items := rest })
    | .pending :: rest => (.pending, { b with items := rest })
    | .failure message :: rest => (.broken message, { b with items := rest, hasFailed := true })

end Body

/-- A request on its way. -/
inductive Exchange where
  /-- Waiting for the reply, which takes so many polls more. -/
  | waiting (polls : Nat) (outcome : Except Failure Reply)
  /-- Reading the body. -/
  | reading (body : Body)

namespace Exchange

/-- A request that follows a script. -/
def ofScript (s : Script) : Exchange := waiting s.delay s.outcome

/-- Asks for more.  After a failure to reply nothing is left. -/
def poll : Exchange → Progress × Option Exchange
  | waiting (polls + 1) outcome => (.pending, some (waiting polls outcome))
  | waiting 0 (.error f) => (.failed f, none)
  | waiting 0 (.ok r) => (.started r.status r.size, some (reading (.ofReply r)))
  | reading body => (body.poll.1, some (reading body.poll.2))

end Exchange

end RequestMeter

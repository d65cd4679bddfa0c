/-
What a service does with a request, written down beforehand.

An exchange has two parts.  First the service is asked again and again for a reply, which it may
give or fail to give; then the body of the reply is asked for again and again.  A script says how
both go.
-/

namespace RequestMeter

/-- How long a body says it is. -/
inductive BodySize where
  /-- There is no body. -/
  | none
  /-- So many bytes. -/
  | bytes (n : Nat)
  /-- It does not say. -/
  | stream
deriving DecidableEq

/-- What asking once for more of a body gives. -/
inductive BodyItem where
  | chunk (data : String)
  | pending
  | failure (message : String)
deriving DecidableEq

namespace BodyItem

/-- Is an item a failure? -/
def isFailure : BodyItem → Bool
  | failure _ => true
  | _ => false

end BodyItem

/-- A reply: its status and its body. -/
structure Reply where
  status : Nat
  size : BodySize
  items : List BodyItem
deriving DecidableEq

/-- What a service says that does not reply. -/
structure Failure where
  status : Nat
  message : String
deriving DecidableEq

/-- How often a service keeps its client waiting, and what it says then. -/
structure Script where
  delay : Nat
  outcome : Except Failure Reply

/-- Whether a service takes requests. -/
inductive Readiness where
  | ready
  | pending
  | failed (f : Failure)
deriving DecidableEq

end RequestMeter

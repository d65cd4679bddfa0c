/-
Requests and responses.
-/
import RequestMeter.Http.Target

namespace RequestMeter.Http

/-- A request. -/
structure Request where
  method : String
  target : Target
deriving DecidableEq

/-- The types of bodies. -/
inductive MediaType where
  | plainText
  | json
  | html
deriving DecidableEq

/-- How a type is written. -/
def MediaType.text : MediaType → String
  | plainText => "text/plain; charset=utf-8"
  | json => "application/json"
  | html => "text/html"

/-- A response. -/
structure Response where
  status : Nat
  /-- The type of the body, if it says one. -/
  type : Option MediaType
  body : String
  /-- How many milliseconds pass before it is given. -/
  pause : Nat
deriving DecidableEq

namespace Response

/-- A good answer, given at once. -/
def ok (type : Option MediaType) (body : String) : Response := ⟨200, type, body, 0⟩

/-- The request makes no sense. -/
def badRequest (reason : String) : Response := ⟨400, some .plainText, reason, 0⟩

/-- There is nothing of the sort, for a reason. -/
def notFoundBecause (reason : String) : Response := ⟨404, some .plainText, reason, 0⟩

/-- There is nothing of the sort. -/
def notFound : Response := ⟨404, none, "", 0⟩

end Response

end RequestMeter.Http

/-
The app: a greeting, a pause, and the two reports on a meter.

Routes match exactly and only for `GET`.  The app reads the meter and never changes it.
-/
import RequestMeter.Http.Query
import RequestMeter.Http.Response
import RequestMeter.Report.Json
import RequestMeter.Report.StatusPage
import RequestMeter.Text.Quoted

namespace RequestMeter.Http

/-- Where a request leads. -/
inductive Route where
  | home
  /-- The segment says how long to pause. -/
  | sleep (segment : List Char)
  | report
  | statusPage
  | unknown
deriving DecidableEq

namespace Route

/-- What stands before the segment of a pause. -/
def sleepStem : List Char := "/sleep/".toList

/-- The segment of a path that asks for a pause: one, and not empty. -/
def sleepSegment? (path : List Char) : Option (List Char) :=
  let segment := path.drop sleepStem.length
  if sleepStem.isPrefixOf path && !segment.isEmpty && !segment.contains '/' then some segment
  else none

/-- The route of a decoded path. -/
def ofPath (path : List Char) : Route :=
  if path = "/".toList then .home
  else if path = "/benchmarks".toList then .report
  else if path = "/benchmarks/status".toList then .statusPage
  else
    match sleepSegment? path with
    | some segment => .sleep segment
    | none => .unknown

/-- The route of a request. -/
def ofRequest (r : Request) : Route :=
  if r.method = "GET" then ofPath r.target.decodedPath else .unknown

end Route

namespace App

/-- What the home page says. -/
def greeting : String := "Hello! Request statistics are at /benchmarks/status."

/-- The longest pause, in milliseconds. -/
def longestPause : Nat := 10000

/--
A pause of as many milliseconds as the segment says.  What is escaped in the segment after the
path has been decoded is decoded now.  The answer to a segment that is no number shows it as it
was before.
-/
def sleep (segment : List Char) : Response :=
  match Numeral.readUnsigned (Text.Percent.decodeAll segment) with
  | .ok n =>
    let pause := min n longestPause
    ⟨200, none, "Slept for " ++ toString pause ++ " ms", pause⟩
  | .error _ =>
    .notFoundBecause ("can not parse " ++ String.ofList (Text.quoted segment) ++ " to a u64")

/-- The report on the window that the query asks for. -/
def report (m : Meter) (now : Instant) (query : List Char) : Response :=
  match Query.window query with
  | .ok window => .ok (some .json) (m.snapshot now window).json
  | .error reason => .badRequest reason.message

/-- Answers a request from a meter at an instant. -/
def handle (m : Meter) (now : Instant) (r : Request) : Response :=
  match Route.ofRequest r with
  | .home => .ok none greeting
  | .sleep segment => sleep segment
  | .report => report m now r.target.query
  | .statusPage => .ok (some .html) (StatusPage.ofMeter m now).html
  | .unknown => .notFound

end App

end RequestMeter.Http

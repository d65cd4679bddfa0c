/-
The report for programs: a snapshot as one JSON object.

The members come in a fixed order and nothing is written between them.  Times are whole
microseconds, at most what 64 bits can hold.  The rate is the shortest decimal that reads
back as the same double, positional from 10⁻⁵ up to 10¹⁶ and scientific elsewhere; JSON has no
number for an infinity, so there it is `null`.
-/
import RequestMeter.Meter.Snapshot
import RequestMeter.Number.Shortest

namespace RequestMeter

namespace Report

/-- Rates from 10⁻⁵ up to 10¹⁶ are written positionally. -/
def rateLayout : DecimalLayout := ⟨-4, 16⟩

/-- A double as a JSON number, or `null` if it is not finite. -/
def number (x : Binary64) : String :=
  if !x.isFinite then "null"
  else
    let sign := if x.isNegative then "-" else ""
    let decimal := if x.pattern = 0 then ⟨0, 0⟩ else x.abs.shortest
    sign ++ String.ofList (decimal.written rateLayout)

example : number (.ofNat 3 / .ofNat 10) = "0.3" := by decide +kernel

example : number (.ofNat 1 / .ofNat 100000) = "0.00001" := by decide +kernel

example : number (.ofNat 10000000000000000) = "1e+16" := by decide +kernel

/-- Microseconds, as far as 64 bits can count them. -/
def micros (d : Duration) : Nat := min d.micros 18446744073709551615

/-- A JSON object of names and the texts of their values. -/
def object (members : List (String × String)) : String :=
  "\x7b" ++ ",".intercalate (members.map fun (name, value) => "\"" ++ name ++ "\":" ++ value)
    ++ "\x7d"

end Report

namespace Snapshot

/-- The members of the report, in their order. -/
def members (s : Snapshot) : List (String × String) :=
  [("total_requests", toString s.requests),
   ("total_requests_sec", Report.number s.rate),
   ("average_resp_time", toString (Report.micros s.average)),
   ("min_resp_time", toString (Report.micros s.least)),
   ("max_resp_time", toString (Report.micros s.greatest))]

/-- The report on a snapshot. -/
def json (s : Snapshot) : String := Report.object s.members

end Snapshot

end RequestMeter

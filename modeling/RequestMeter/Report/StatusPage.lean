/-
The report for people: a page with one row for each standard window.

The standard windows are one, five and fifteen minutes.  One that is longer than the retention
has no row, because the meter could not answer it.
-/
import RequestMeter.Meter.Snapshot
import RequestMeter.Report.Latency

namespace RequestMeter

/-- The statistics of one window. -/
structure StatusRow where
  window : Duration
  snapshot : Snapshot
deriving DecidableEq

namespace StatusRow

/-- What the cells of a row say. -/
def cells (r : StatusRow) : List String :=
  [r.window.inWords,
   toString r.snapshot.requests,
   twoPlaces r.snapshot.rate.hundredths,
   (Latency.ofDuration r.snapshot.average).text,
   (Latency.ofDuration r.snapshot.least).text,
   (Latency.ofDuration r.snapshot.greatest).text]

/-- The lines of a row.  A line of blanks sets it off from the one before. -/
def lines (r : StatusRow) : List String :=
  ["        ", "        <tr>"]
    ++ r.cells.map (fun cell => "          <td>" ++ cell ++ "</td>")
    ++ ["        </tr>"]

end StatusRow

/-- The page: how long the meter remembers, and a row for each window. -/
structure StatusPage where
  retention : Duration
  rows : List StatusRow
deriving DecidableEq

namespace StatusPage

/-- The windows the page shows, in this order. -/
def windows : List Duration := [.ofSeconds 60, .ofSeconds 300, .ofSeconds 900]

/-- The page of a meter at an instant. -/
def ofMeter (m : Meter) (now : Instant) : StatusPage where
  retention := m.retention
  rows := (windows.filter (· ≤ m.retention)).map fun w => ⟨w, m.snapshot now w⟩

/-- The lines of the page. -/
def lines (p : StatusPage) : List String :=
  ["<!DOCTYPE html>",
   "<html lang=\"en\">",
   "  <head>",
   "    <meta charset=\"utf-8\" />",
   "    <title>Request benchmarks</title>",
   "  </head>",
   "  <body>",
   "    <h1>Request benchmarks</h1>",
   "    <p>Keeping data for the last " ++ p.retention.inWords ++ ".</p>",
   "    <table>",
   "      <thead>",
   "        <tr>",
   "          <th>Window</th>",
   "          <th>Requests</th>",
   "          <th>Requests/sec</th>",
   "          <th>Average</th>",
   "          <th>Min</th>",
   "          <th>Max</th>",
   "        </tr>",
   "      </thead>",
   "      <tbody>"]
    ++ p.rows.flatMap StatusRow.lines
    ++ ["        ",
        "      </tbody>",
        "    </table>",
        "  </body>",
        "</html>"]

/-- The page as text, without a line break at its end. -/
def html (p : StatusPage) : String := "\n".intercalate p.lines

end StatusPage

end RequestMeter

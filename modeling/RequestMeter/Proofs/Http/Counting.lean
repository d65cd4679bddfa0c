/-
The app counts every request once, and no report counts the request that asked for it.

Reading a response to its end stops the stopwatch of the request once, whatever the response
is, so to the meter a request is a recording after the answer has been given (`serve_eq`).  A
run of the app is then a run of its meter in which the requests are recordings (`run_meter`),
each answered from the meter that the events before it have left (`run_answers`).
-/
import RequestMeter.Http.Measured
import RequestMeter.Proofs.Meter.Census
import RequestMeter.Proofs.Report.Reading

namespace RequestMeter.Http

namespace AppEvent

/-- What an event should be to the meter: a request is a recording. -/
def toMeter : AppEvent → MeterEvent
  | request _ elapsed => .record elapsed
  | event e => e

/-- What is left of an event without its request and without durations. -/
def outline (e : AppEvent) : MeterEvent := e.toMeter.untimed

end AppEvent

/-! ### One request

The stopwatch of a request stops while its response is read, so here a response is polled
to its end.  What comes out is the response piece by piece and one stop; to the meter that
is one recording (`serve_eq`).
-/

namespace Response

/-- What reading a response to its end gives. -/
def progress (r : Response) : List Progress :=
  .started r.status (.bytes r.body.utf8ByteSize) ::
    if r.body.isEmpty then [.ended] else [.chunk r.body, .ended]

/-- Reading a response to its end gives its body and stops the stopwatch once. -/
theorem pollTimes_script (r : Response) :
    (TimedExchange.start r.script).pollTimes r.polls = (r.progress, 1) := by
  unfold script polls items progress
  by_cases h : r.body.isEmpty = true
  · rw [if_pos h, if_pos h]
    rfl
  · rw [if_neg h, if_neg h]
    rfl

end Response

namespace App

/-- A request is answered from the meter as it is, and recorded once after that. -/
theorem serve_eq (c : ClockedMeter) (elapsed : Duration) (r : Request) :
    serve c elapsed r = (handle c.meter c.now r, c.record elapsed) := by
  have hstops := (handle c.meter c.now r).pollTimes_script
  simp only [serve, hstops]
  rfl

/-- A report is a good answer only if its query asks for a window, and then it tells the number
of requests within the window. -/
theorem totalRequests?_report {c : ClockedMeter} {query : List Char}
    (h : (report c.meter c.now query).status = 200) :
    ∃ window, Query.window query = .ok window ∧
      Report.totalRequests? (report c.meter c.now query).body =
        some (c.snapshot window).requests := by
  unfold report at h ⊢
  cases hwindow : Query.window query with
  | ok window => exact ⟨window, rfl, Report.totalRequests?_json _⟩
  | error reason =>
      rw [hwindow] at h
      exact absurd h (by decide : ¬ 400 = 200)

private theorem handle_of_report {r : Request} (h : Route.ofRequest r = .report)
    (c : ClockedMeter) :
    handle c.meter c.now r = report c.meter c.now r.target.query := by
  unfold handle
  rw [h]

/-! ### Whole runs -/

theorem act_meter (c : ClockedMeter) (e : AppEvent) : (act c e).2 = c.apply e.toMeter := by
  cases e with
  | request r elapsed => simp only [act, serve_eq]; rfl
  | event e => rfl

theorem act_answer (c : ClockedMeter) (e : AppEvent) :
    (act c e).1 = match e with
      | .request r _ => some (handle c.meter c.now r)
      | .event _ => none := by
  cases e with
  | request r elapsed => simp only [act, serve_eq]
  | event e => rfl

private theorem run_cons (c : ClockedMeter) (e : AppEvent) (rest : List AppEvent) :
    run c (e :: rest) = ((act c e).1 :: (run (act c e).2 rest).1, (run (act c e).2 rest).2) := rfl

/-- To the meter, a run of the app is a run in which the requests are recordings. -/
theorem run_meter (c : ClockedMeter) (events : List AppEvent) :
    (run c events).2 = c.run (events.map AppEvent.toMeter) := by
  induction events generalizing c with
  | nil => rfl
  | cons e rest ih =>
      rw [run_cons, ih, act_meter]
      rfl

/-- Each event is answered from the meter that the events before it have left. -/
theorem run_answers (c : ClockedMeter) {events : List AppEvent} {i : Nat} {e : AppEvent}
    (h : events[i]? = some e) :
    (run c events).1[i]? = some (act (run c (events.take i)).2 e).1 := by
  induction events generalizing c i with
  | nil => simp at h
  | cons first rest ih =>
      rw [run_cons]
      cases i with
      | zero =>
          obtain rfl : first = e := by simpa using h
          rfl
      | succ i =>
          -- the rest is a run from the meter that the first event leaves
          rw [List.take_succ_cons, run_cons]
          exact ih _ (by simpa using h)

/--
**Every request is counted once, and no report counts the request that asked for it.**  The
meter ends up as if it had been updated by hand in place of every request; every request is
answered from the meter as it was before it, so a good report tells the count of its window
before it was asked for; the client hears the answer as it was given, and the stopwatch stops once
on the way; and the seconds and counts in the end do not depend on what was requested.
-/
theorem run_counts_once (c : ClockedMeter) (events : List AppEvent) :
    (run c events).2 = c.run (events.map AppEvent.toMeter) ∧
    (∀ (i : Nat) (r : Request) (elapsed : Duration), events[i]? = some (.request r elapsed) →
      let before := (run c (events.take i)).2
      ∃ response, (run c events).1[i]? = some (some response) ∧
        response = handle before.meter before.now r ∧
        (TimedExchange.start response.script).pollTimes response.polls = (response.progress, 1) ∧
        (Route.ofRequest r = .report → response.status = 200 →
          ∃ window, Query.window r.target.query = .ok window ∧
            Report.totalRequests? response.body = some (before.snapshot window).requests)) ∧
    ∀ others : List AppEvent, others.map AppEvent.outline = events.map AppEvent.outline →
      (run c others).2.meter.census = (run c events).2.meter.census := by
  refine ⟨run_meter c events, ?_, ?_⟩
  · intro i r elapsed hi before
    refine ⟨handle before.meter before.now r, ?_, rfl, Response.pollTimes_script _, ?_⟩
    · rw [run_answers c hi, act_answer]
    · intro hroute hstatus
      rw [handle_of_report hroute] at hstatus ⊢
      exact totalRequests?_report hstatus
  · intro others hothers
    rw [run_meter, run_meter]
    apply ClockedMeter.run_census_congr
    rw [List.map_map, List.map_map]
    exact hothers

/-- The request for the report on the last minute. -/
def lastMinute : Request := ⟨"GET", ⟨"/benchmarks".toList, "window=60".toList⟩⟩

/-- Answers of all kinds and an update, and a report after the clock has been set back. -/
def mixedRun : List AppEvent :=
  [.request ⟨"GET", ⟨"/".toList, []⟩⟩ .second,
   .request ⟨"POST", ⟨"/benchmarks".toList, []⟩⟩ .zero,
   .event (.advance .second),
   .request ⟨"GET", ⟨"/sleep/soon".toList, []⟩⟩ .zero,
   .request ⟨"GET", ⟨"/benchmarks".toList, "window=1&window=2".toList⟩⟩ .second,
   .event (.record .second),
   .event (.set .epoch),
   .request lastMinute .second]

/-- The same with updates in place of the requests. -/
def updatesOnly : List AppEvent :=
  [.event (.record .zero), .event (.record .zero), .event (.advance .second),
   .event (.record .zero), .event (.record .zero), .event (.record .zero),
   .event (.set .epoch), .event (.record .zero)]

/-- The report tells the five before it. -/
theorem run_counts_once_mixedRun :
    let c : ClockedMeter := ⟨.standard, .epoch⟩
    mixedRun[7]? = some (.request lastMinute .second) ∧
    Route.ofRequest lastMinute = .report ∧
    updatesOnly.map AppEvent.outline = mixedRun.map AppEvent.outline ∧
    (∃ response, (run c mixedRun).1[7]? = some (some response) ∧ response.status = 200 ∧
      (TimedExchange.start response.script).pollTimes response.polls = (response.progress, 1) ∧
      Report.totalRequests? response.body = some 5) ∧
    (run c updatesOnly).2.meter.census = (run c mixedRun).2.meter.census := by
  intro c
  have hlast : mixedRun[7]? = some (.request lastMinute .second) := rfl
  have hroute : Route.ofRequest lastMinute = .report := by decide +kernel
  have houtline : updatesOnly.map AppEvent.outline = mixedRun.map AppEvent.outline := rfl
  obtain ⟨-, hanswers, hcensus⟩ := run_counts_once c mixedRun
  obtain ⟨response, hgiven, hhandled, hheard, hreport⟩ := hanswers 7 lastMinute .second hlast
  have hstatus : response.status = 200 := by
    rw [hhandled]
    decide +kernel
  obtain ⟨window, hwindow, htold⟩ := hreport hroute hstatus
  have hminute : Query.window lastMinute.target.query = .ok (.ofSeconds 60) := by decide +kernel
  have hsame : window = .ofSeconds 60 := Except.ok.inj (hwindow.symm.trans hminute)
  have hfive : ((run c (mixedRun.take 7)).2.snapshot (.ofSeconds 60)).requests = 5 := by
    decide +kernel
  rw [hsame, hfive] at htold
  exact ⟨hlast, hroute, houtline, ⟨response, hgiven, hstatus, hheard, htold⟩,
    hcensus updatesOnly houtline⟩

end App

end RequestMeter.Http

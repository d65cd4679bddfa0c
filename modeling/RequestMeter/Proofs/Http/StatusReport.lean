/-
The page and the reports tell the same.

A row of the page is made from the snapshot of a standard window, and the query for that window is
answered from the same one (`Query.window_seconds`), so what can be read back from the one and from
the other is equal (`rowAgrees_cells`).  The windows of the rows grow from row to row, and all of
them end at the same reading, so each row shows the requests of the rows above it
(`Meter.snapshot_isWithin`).
-/
import RequestMeter.Proofs.Http.WindowQuery
import RequestMeter.Proofs.Meter.Widening
import RequestMeter.Proofs.Report.Reading
import RequestMeter.Proofs.Report.StatusTable
import Mathlib.Data.List.Forall2

namespace RequestMeter

/-! ### Windows that end at the same reading

The rows of a page are snapshots of one meter at one reading, so they differ in the window alone.  A
snapshot without a request has a zero for its least time, which is no time of any request; that is
why least times are compared only where there is one.
-/

/-- What holds of the snapshots of some requests and of more. -/
structure Snapshot.IsWithin (part whole : Snapshot) : Prop where
  requests_le : part.requests ≤ whole.requests
  greatest_le : part.greatest ≤ whole.greatest
  /-- Without a request there is no least time. -/
  least_le : 0 < part.requests → whole.least ≤ part.least

private theorem Snapshot.empty_isWithin (s : Snapshot) : Snapshot.empty.IsWithin s where
  requests_le := Nat.zero_le _
  greatest_le := Nat.zero_le _
  least_le := fun hpos => absurd hpos (Nat.lt_irrefl 0)

theorem Meter.snapshot_isWithin {m : Meter} (hm : m.buckets = []) (obs : List Observation)
    (now : Instant) {narrow wide : Duration} (hwide : wide ≠ .zero) (hle : narrow ≤ wide) :
    ((m.recordAll obs).snapshot now narrow).IsWithin ((m.recordAll obs).snapshot now wide) := by
  have hopens : now.nanos - wide.nanos ≤ now.nanos - narrow.nanos := by
    rw [Duration.le_iff] at hle
    omega
  cases htally : (m.recordAll obs).tally? now narrow with
  | none =>
      rw [snapshot_of_tally?_eq_none htally]
      exact Snapshot.empty_isWithin _
  | some part =>
      obtain ⟨whole, hwhole, hpart, -⟩ := exists_isPartOf_recordAll hm hwide hopens htally
      rw [snapshot_of_tally?_eq_some htally, snapshot_of_tally?_eq_some hwhole]
      exact ⟨hpart.requests_le, hpart.le_greatest, fun _ => hpart.least_le⟩

namespace Http

open Numeral

/-! ### A window in digits is read as it is written -/

private theorem Query.windowValues_seconds (n : Nat) :
    Query.windowValues ("window=" ++ toString n).toList = [Nat.toDigits 10 n] := by
  have hquery : ("window=" ++ toString n).toList =
      Query.windowName ++ '=' :: Nat.toDigits 10 n := by
    change ("window=" ++ n.repr).toList = _
    rw [String.toList_append, Nat.toList_repr]
    rfl
  have hamp : '&' ∉ Query.windowName ++ '=' :: Nat.toDigits 10 n := by
    rw [List.mem_append, List.mem_cons, not_or, not_or]
    exact ⟨by decide, by decide, notMem_toDigits (by decide) n⟩
  have hname : Query.decode Query.windowName = Query.windowName :=
    Query.decode_plain (by decide) (by decide)
  have hvalue : Query.decode (Nat.toDigits 10 n) = Nat.toDigits 10 n :=
    Query.decode_plain (notMem_toDigits (by decide) n) (notMem_toDigits (by decide) n)
  rw [hquery, Query.windowValues, Query.fields_piece hamp (by simp),
    Query.field_eq (by decide), hname, hvalue]
  rfl

/-- A query with the window in digits asks for that many seconds. -/
theorem Query.window_seconds {n : Nat} (hpos : 0 < n) (hle : n ≤ 9223372036854775807) :
    Query.window ("window=" ++ toString n).toList = .ok (.ofSeconds n) := by
  have hread : readSigned (Nat.toDigits 10 n) = .ok (n : Int) :=
    readSigned_eq_ok_iff.mpr ⟨.natural (spellsNat_toDigits n), by omega, by omega⟩
  rw [Query.window_of_single (Query.windowValues_seconds n) hread rfl, Query.windowOfSeconds,
    if_pos (by omega), Int.toNat_natCast]

/-! ### Rows and reports

A row and a report are texts of different kinds.  The number of requests is written alike in both
and is read back from both.  The other cells are rounded for a reader, so they are tied to the
snapshot that the report was made from.
-/

/-- A row of the page and an answer tell of one snapshot: the same number of requests can be read
back from both, and the cells show what the snapshot has. -/
structure RowAgrees (window : Duration) (s : Snapshot) (row : List String) (answer : Response) :
    Prop where
  answer_eq : answer = .ok (some .json) s.json
  requests_answer : Report.totalRequests? answer.body = some s.requests
  requests_row : row[1]?.bind String.toNat? = some s.requests
  row_eq : row =
    [window.inWords, toString s.requests, twoPlaces s.rate.hundredths,
      (Latency.ofDuration s.average).text, (Latency.ofDuration s.least).text,
      (Latency.ofDuration s.greatest).text]

theorem rowAgrees_cells (r : StatusRow) :
    RowAgrees r.window r.snapshot r.cells (.ok (some .json) r.snapshot.json) where
  answer_eq := rfl
  requests_answer := Report.totalRequests?_json r.snapshot
  requests_row := Nat.toNat?_repr r.snapshot.requests
  row_eq := rfl

/-! ### The windows of the page

The page has its windows as durations, and a query has them in seconds.  `shownSeconds` lists the
windows by their seconds, so that a row and the query for its window go by the same number.
-/

/-- The standard windows, in seconds. -/
def standardSeconds : List Nat := [60, 300, 900]

/-- The standard windows that are at most the retention. -/
def shownSeconds (retention : Duration) : List Nat :=
  standardSeconds.filter fun w => w * 1000000000 ≤ retention.nanos

private theorem inWords_standardSeconds :
    standardSeconds.map (fun w => (Duration.ofSeconds w).inWords) =
      ["1 minute", "5 minutes", "15 minutes"] := by decide +kernel

private theorem standardSeconds_range : ∀ w ∈ standardSeconds, 0 < w ∧ w ≤ 900 := by decide

private theorem shownSeconds_range {retention : Duration} {w : Nat}
    (h : w ∈ shownSeconds retention) :
    0 < w ∧ w ≤ 900 := standardSeconds_range w (List.mem_of_mem_filter h)

private theorem windows_filter (retention : Duration) :
    StatusPage.windows.filter (· ≤ retention) =
      (shownSeconds retention).map Duration.ofSeconds := by
  have hwindows : StatusPage.windows = standardSeconds.map Duration.ofSeconds := rfl
  rw [hwindows, List.filter_map]
  refine congrArg _ (List.filter_congr fun w hw => ?_)
  have hle := (standardSeconds_range w hw).2
  rw [Function.comp_apply, decide_eq_decide, Duration.le_iff, Duration.ofSeconds_nanos (by omega)]

/-- The rows of a page, told by the windows that it shows. -/
theorem rows_ofMeter (m : Meter) (now : Instant) :
    (StatusPage.ofMeter m now).rows =
      (shownSeconds m.retention).map fun w =>
        ⟨.ofSeconds w, m.snapshot now (.ofSeconds w)⟩ := by
  unfold StatusPage.ofMeter
  rw [windows_filter, List.map_map]
  rfl

namespace App

section

variable (m : Meter) (now : Instant)

theorem handle_statusPage (query : List Char) :
    handle m now ⟨"GET", ⟨"/benchmarks/status".toList, query⟩⟩ =
      .ok (some .html) (StatusPage.ofMeter m now).html := by
  have hpath : Route.ofPath (Target.decodedPath ⟨"/benchmarks/status".toList, []⟩) =
      .statusPage := by decide +kernel
  have hroute : Route.ofRequest ⟨"GET", ⟨"/benchmarks/status".toList, query⟩⟩ = .statusPage :=
    hpath
  unfold handle
  rw [hroute]

/-- What the table of the page is read as. -/
theorem tableRows_handle_statusPage (query : List Char) :
    tableRows (handle m now ⟨"GET", ⟨"/benchmarks/status".toList, query⟩⟩).body =
      StatusPage.headings :: (shownSeconds m.retention).map fun w =>
        StatusRow.cells ⟨.ofSeconds w, m.snapshot now (.ofSeconds w)⟩ := by
  have hbody := congrArg Response.body (handle_statusPage m now query)
  rw [hbody, Response.ok, StatusPage.rows_html, rows_ofMeter, List.map_map]
  rfl

theorem handle_seconds {w : Nat} (hpos : 0 < w) (hle : w ≤ 900) :
    handle m now ⟨"GET", ⟨"/benchmarks".toList, ("window=" ++ toString w).toList⟩⟩ =
      .ok (some .json) (m.snapshot now (.ofSeconds w)).json := by
  have hroute : Route.ofPath (Target.decodedPath ⟨"/benchmarks".toList, []⟩) = .report := by
    decide +kernel
  exact handle_of_window hroute m now (Query.window_seconds hpos (by omega))

end

/--
**The page agrees with the reports.**  It has one row for each standard window that is at most the
retention, in ascending order, and no other.  The number of requests that is read back from a row is
that of the report on its window at the same reading, and the other cells show what the snapshot of
this report has.  Down the rows no number of requests and no greatest time gets smaller, and
no least time of a row with requests gets greater.
-/
theorem statusPage_agrees {retention : Duration} {m : Meter}
    (hm : Meter.new? retention = some m) (start now : Instant) (events : List MeterEvent)
    (query : List Char) :
    let held := (ClockedMeter.run ⟨m, start⟩ events).meter
    let page := handle held now ⟨"GET", ⟨"/benchmarks/status".toList, query⟩⟩
    let report := fun w : Nat =>
      handle held now ⟨"GET", ⟨"/benchmarks".toList, ("window=" ++ toString w).toList⟩⟩
    let shown := [60, 300, 900].filter fun w => w * 1000000000 ≤ retention.nanos
    let seen := fun w => held.snapshot now (.ofSeconds w)
    page.status = 200 ∧
    (∃ rows, tableRows page.body =
        ["Window", "Requests", "Requests/sec", "Average", "Min", "Max"] :: rows ∧
      List.Forall₂ (fun w row => RowAgrees (.ofSeconds w) (seen w) row (report w)) shown rows ∧
      ∀ row ∈ rows, ∀ cell ∈ row, IsPlainText cell) ∧
    shown.Pairwise (fun w w' => w < w' ∧ (seen w).IsWithin (seen w')) ∧
    [60, 300, 900].map (fun w => (Duration.ofSeconds w).inWords) =
      ["1 minute", "5 minutes", "15 minutes"] := by
  intro held page report shown seen
  have hempty : m.buckets = [] := (Meter.new?_wellKept hm).2.2
  have hheld : held = m.recordAll (History.ofEvents start events) :=
    ClockedMeter.run_meter events ⟨m, start⟩
  have hrows := tableRows_handle_statusPage held now query
  rw [ClockedMeter.run_retention_of_new? hm] at hrows
  refine ⟨congrArg Response.status (handle_statusPage held now query), ⟨_, hrows, ?_, ?_⟩, ?_,
    inWords_standardSeconds⟩
  · rw [List.forall₂_map_right_iff]
    refine List.forall₂_same.mpr fun w hw => ?_
    obtain ⟨hpos, hle⟩ := shownSeconds_range hw
    have hanswer := handle_seconds held now hpos hle
    have hagrees := rowAgrees_cells ⟨.ofSeconds w, seen w⟩
    rwa [← hanswer] at hagrees
  · rw [List.forall_mem_map]
    intro w _
    exact IsPlainText.of_mem_cells
  · have hascending : shown.Pairwise (· < ·) := List.Pairwise.filter _ (by decide)
    refine hascending.imp_of_mem fun {w w'} hw hw' hlt => ⟨hlt, ?_⟩
    obtain ⟨hpos, hle⟩ := shownSeconds_range hw
    obtain ⟨hpos', hle'⟩ := shownSeconds_range hw'
    have hnanos : (Duration.ofSeconds w).nanos = _ := Duration.ofSeconds_nanos (by omega)
    have hnanos' : (Duration.ofSeconds w').nanos = _ := Duration.ofSeconds_nanos (by omega)
    have hwide : Duration.ofSeconds w' ≠ .zero := by
      intro hzero
      rw [hzero, Duration.zero_nanos] at hnanos'
      omega
    have hnested : Duration.ofSeconds w ≤ .ofSeconds w' := by
      rw [Duration.le_iff]
      omega
    have hwithin := Meter.snapshot_isWithin hempty (History.ofEvents start events) now hwide hnested
    rwa [← hheld] at hwithin

/-- A request of two seconds, and one of a second more than three minutes later. -/
def sparseRun : List MeterEvent :=
  [.record (.ofSeconds 2), .advance (.ofSeconds 200), .record .second]

/-- A meter that remembers ten minutes shows two windows, the second with a request more. -/
theorem statusPage_agrees_sparseRun :
    let retention : Duration := .ofSeconds 600
    let m : Meter := ⟨retention, [], by decide⟩
    let later : Instant := ⟨230000000000, by decide, by decide⟩
    let held := (ClockedMeter.run ⟨m, .epoch⟩ sparseRun).meter
    let page := handle held later ⟨"GET", ⟨"/benchmarks/status".toList, []⟩⟩
    let minute := held.snapshot later (.ofSeconds 60)
    let five := held.snapshot later (.ofSeconds 300)
    Meter.new? retention = some m ∧ page.status = 200 ∧
    (∃ above below, tableRows page.body =
        [["Window", "Requests", "Requests/sec", "Average", "Min", "Max"], above, below] ∧
      above[1]?.bind String.toNat? = some 1 ∧ below[1]?.bind String.toNat? = some 2) ∧
    0 < minute.requests ∧ five.least ≤ minute.least ∧ minute.greatest ≤ five.greatest := by
  intro retention m later held page minute five
  have hnew : Meter.new? retention = some m := by decide
  have hminute : minute.requests = 1 := by decide
  have hfive : five.requests = 2 := by decide
  obtain ⟨hstatus, ⟨rows, htable, hrows, -⟩, hpairs, -⟩ :=
    statusPage_agrees hnew .epoch later sparseRun []
  have hshown : ([60, 300, 900].filter fun w => w * 1000000000 ≤ retention.nanos) = [60, 300] := by
    decide
  rw [hshown] at hrows hpairs
  obtain ⟨above, _, habove, hrest, rfl⟩ := List.forall₂_cons_left_iff.mp hrows
  obtain ⟨below, _, hbelow, hnone, rfl⟩ := List.forall₂_cons_left_iff.mp hrest
  obtain rfl := List.forall₂_nil_left_iff.mp hnone
  have hwithin : minute.IsWithin five := (List.pairwise_pair.mp hpairs).2
  have hpos : 0 < minute.requests := by omega
  exact ⟨hnew, hstatus, ⟨above, below, htable,
    habove.requests_row.trans (congrArg some hminute),
    hbelow.requests_row.trans (congrArg some hfive)⟩,
    hpos, hwithin.least_le hpos, hwithin.greatest_le⟩

end App

end Http

end RequestMeter

/-
Which window a report covers, told by its query as a whole.

Only the values under the name `window` matter, in their order (`readFields_eq`): the first of them
is read before it is asked whether there is a second, and the second is refused unread.  The other
fields and the pieces without a character are passed over wherever they stand, because a query that
is put together from pieces has the fields of its pieces, one after another (`fields_join`).  Any
names and values whatsoever can stand in a query, if they are escaped (`fields_join_escaped`).
-/
import RequestMeter.Http.App
import RequestMeter.Proofs.Number.Spelling
import RequestMeter.Proofs.Text.Escapes
import Mathlib.Data.List.Basic

namespace RequestMeter.Http

namespace Query

/-- The values of the fields of one name, in order. -/
def valuesOf (name : List Char) (fs : List Field) : List (List Char) :=
  (fs.filter fun f => f.name = name).map Field.value

/-- The values that a query gives for the window, in order. -/
def windowValues (query : List Char) : List (List Char) := valuesOf windowName (fields query)

/-- The query of some pieces, with ampersands between them. -/
def join (pieces : List (List Char)) : List Char := ['&'].intercalate pieces

/-! ### The fields of a query

Ampersands part a query and the first equals sign parts a field, both before anything is decoded.
So the fields are told by the pieces alone, whatever their escapes stand for.
-/

theorem fields_append (a b : List Char) : fields (a ++ '&' :: b) = fields a ++ fields b := by
  unfold fields
  rw [List.splitOn_append_cons_self, List.filter_append, List.map_append]

/-- A query has the fields of its pieces, and a piece without a character has none. -/
theorem fields_join (pieces : List (List Char)) :
    fields (join pieces) = pieces.flatMap fields := by
  induction pieces with
  | nil => rfl
  | cons piece rest ih =>
      cases rest with
      | nil => simp [join]
      | cons next later =>
          have hjoin : join (piece :: next :: later) = piece ++ '&' :: join (next :: later) := by
            simp [join]
          rw [hjoin, fields_append, ih]
          rfl

/-- A piece without an ampersand is one field, if it has a character. -/
theorem fields_piece {piece : List Char} (hamp : '&' ∉ piece) (hne : piece ≠ []) :
    fields piece = [field piece] := by
  unfold fields
  rw [List.splitOn_eq_singleton hamp]
  simp [hne]

/-- The name of a field ends at the first equals sign. -/
theorem field_eq {name : List Char} (h : '=' ∉ name) (value : List Char) :
    field (name ++ '=' :: value) = ⟨decode name, decode value⟩ := by
  have hname : ∀ c ∈ name, (c != '=') = true := by
    intro c hc
    rw [bne_iff_ne]
    rintro rfl
    exact h hc
  unfold field
  rw [List.takeWhile_append_of_pos hname, List.dropWhile_append_of_pos hname]
  simp

/-! ### What can be written in a field

Since the parting comes first, an ampersand in a value has to be escaped.  Whether
every name and value can be sent that way is a question about escapes: they are made
of characters that part nothing.
-/

theorem decode_of_notMem {s : List Char} (h : '+' ∉ s) :
    decode s = Text.Percent.decodeAll s := by
  have hmap : s.map (fun c => if c = '+' then ' ' else c) = s.map id := by
    apply List.map_congr_left
    intro c hc
    refine if_neg ?_
    rintro rfl
    exact h hc
  rw [decode, hmap, List.map_id]

/-- A text without a plus or a percent sign stands for itself. -/
theorem decode_plain {s : List Char} (hplus : '+' ∉ s) (hpercent : '%' ∉ s) : decode s = s := by
  rw [decode_of_notMem hplus]
  exact Text.Percent.decode_of_notMem _ hpercent

/-- A field with every byte of its name and its value escaped. -/
def escaped (f : Field) : List Char :=
  Text.Percent.escapeAll f.name ++ '=' :: Text.Percent.escapeAll f.value

theorem notMem_escapeAll {c : Char} (hpercent : c ≠ '%') (hdigit : ∀ n < 16, c ≠ Nat.digitChar n)
    (s : List Char) : c ∉ Text.Percent.escapeAll s := by
  intro h
  rcases Text.Percent.mem_escapeAll h with rfl | ⟨n, hn, rfl⟩
  · exact hpercent rfl
  · exact hdigit n hn rfl

theorem decode_escapeAll (s : List Char) : decode (Text.Percent.escapeAll s) = s := by
  rw [decode_of_notMem (notMem_escapeAll (by decide) (by decide) s),
    Text.Percent.decodeAll_escapeAll]

/-- A query can have any fields whatsoever: what is escaped in them parts nothing. -/
theorem fields_join_escaped (fs : List Field) : fields (join (fs.map escaped)) = fs := by
  have hone : ∀ f, fields (escaped f) = [f] := by
    intro f
    have hamp : '&' ∉ escaped f := by
      unfold escaped
      rw [List.mem_append, List.mem_cons, not_or, not_or]
      exact ⟨notMem_escapeAll (by decide) (by decide) _, by decide,
        notMem_escapeAll (by decide) (by decide) _⟩
    have hne : escaped f ≠ [] := by simp [escaped]
    rw [fields_piece hamp hne, escaped, field_eq (notMem_escapeAll (by decide) (by decide) _),
      decode_escapeAll, decode_escapeAll]
  rw [fields_join]
  induction fs with
  | nil => rfl
  | cons f rest ih => rw [List.map_cons, List.flatMap_cons, hone, ih]; rfl

/-! ### The values of one name -/

theorem valuesOf_append (name : List Char) (fs gs : List Field) :
    valuesOf name (fs ++ gs) = valuesOf name fs ++ valuesOf name gs := by
  unfold valuesOf
  rw [List.filter_append, List.map_append]

private theorem valuesOf_eq_nil {name : List Char} {fs : List Field} (h : ∀ f ∈ fs, f.name ≠ name) :
    valuesOf name fs = [] := by
  unfold valuesOf
  rw [List.map_eq_nil_iff, List.filter_eq_nil_iff]
  intro f hf
  simpa using h f hf

/-- What has no window among its fields can be put anywhere into a query, or taken out of it. -/
theorem windowValues_join_insert (before after : List (List Char)) {piece : List Char}
    (h : ∀ f ∈ fields piece, f.name ≠ windowName) :
    windowValues (join (before ++ piece :: after)) = windowValues (join (before ++ after)) := by
  unfold windowValues
  rw [fields_join, fields_join, List.flatMap_append, List.flatMap_append, List.flatMap_cons,
    valuesOf_append, valuesOf_append, valuesOf_append, valuesOf_eq_nil h, List.nil_append]

/-! ### Reading the values

The reader passes through all fields with what it has read so far.  `readValues` says the same of
the values alone, with the order in which their faults are found in plain view.
-/

/-- What the values of the window amount to. -/
def readValues : List (List Char) → Except QueryError (Option Int)
  | [] => .ok none
  | first :: later =>
    match Numeral.readSigned first with
    | .error reason => .error (.invalidWindow reason)
    | .ok n => if later = [] then .ok (some n) else .error .duplicateWindow

private theorem readFields_some (n : Int) (fs : List Field) :
    readFields (some n) fs =
      if valuesOf windowName fs = [] then .ok (some n) else .error .duplicateWindow := by
  induction fs with
  | nil => rfl
  | cons f rest ih =>
      by_cases hname : f.name = windowName
      · simp [readFields, valuesOf, hname]
      · rw [readFields, if_neg hname, ih]
        simp [valuesOf, hname]

/-- Only the fields of the name `window` matter, and of them only the values. -/
theorem readFields_eq (fs : List Field) :
    readFields none fs = readValues (valuesOf windowName fs) := by
  induction fs with
  | nil => rfl
  | cons f rest ih =>
      by_cases hname : f.name = windowName
      · have hvalues : valuesOf windowName (f :: rest) = f.value :: valuesOf windowName rest := by
          simp [valuesOf, hname]
        rw [readFields, if_pos hname, hvalues, readValues]
        cases Numeral.readSigned f.value with
        | error reason => rfl
        | ok n => exact readFields_some n rest
      · have hvalues : valuesOf windowName (f :: rest) = valuesOf windowName rest := by
          simp [valuesOf, hname]
        rw [readFields, if_neg hname, ih, hvalues]

theorem window_eq_of_readValues {query : List Char} {r : Except QueryError (Option Int)}
    (h : readValues (windowValues query) = r) :
    window query = r.map fun
      | some n => windowOfSeconds n
      | none => defaultWindow := by
  rw [← h]
  unfold window windowValues
  exact congrArg (Except.map _) (readFields_eq (fields query))

/-- Without a window in it, a query asks for the default one. -/
theorem window_of_none {query : List Char} (h : windowValues query = []) :
    window query = .ok defaultWindow :=
  window_eq_of_readValues (congrArg readValues h)

section

variable {query first : List Char} {later : List (List Char)}
  (h : windowValues query = first :: later)

include h

/-- A first value that is no number decides, whatever follows. -/
theorem window_of_fault {reason : NumeralError}
    (hfirst : Numeral.readSigned first = .error reason) :
    window query = .error (.invalidWindow reason) := by
  apply window_eq_of_readValues (r := .error (.invalidWindow reason))
  rw [h, readValues, hfirst]

/-- After a first value that is a number a second one is not even read. -/
theorem window_of_duplicate {n : Int} (hfirst : Numeral.readSigned first = .ok n)
    (hlater : later ≠ []) : window query = .error .duplicateWindow := by
  apply window_eq_of_readValues (r := .error .duplicateWindow)
  rw [h, readValues, hfirst]
  exact if_neg hlater

theorem window_of_single {n : Int} (hfirst : Numeral.readSigned first = .ok n)
    (hlater : later = []) : window query = .ok (windowOfSeconds n) := by
  subst hlater
  apply window_eq_of_readValues (r := .ok (some n))
  rw [h, readValues, hfirst]
  rfl

end

/-! ### The window of a number of seconds -/

private theorem windowOfSeconds_of_nonpos {n : Int} (h : n ≤ 0) : windowOfSeconds n = .zero :=
  if_neg (Int.not_lt.mpr h)

/-- As many seconds as a signed 64-bit number says fit a duration. -/
theorem windowOfSeconds_nanos {n : Int} (hpos : 0 < n) (hle : n ≤ 9223372036854775807) :
    ((windowOfSeconds n).nanos : Int) = n * 1000000000 := by
  rw [windowOfSeconds, if_pos hpos, Duration.ofSeconds_nanos (by omega)]
  omega

end Query

namespace App

section

variable {path : List Char} (hpath : Route.ofPath (Target.decodedPath ⟨path, []⟩) = .report)
  (m : Meter) (now : Instant) {query : List Char}

include hpath

theorem handle_of_window {window : Duration} (h : Query.window query = .ok window) :
    handle m now ⟨"GET", ⟨path, query⟩⟩ = .ok (some .json) (m.snapshot now window).json := by
  have hroute : Route.ofRequest ⟨"GET", ⟨path, query⟩⟩ = .report := hpath
  unfold handle
  rw [hroute]
  simp only [report, h]

theorem handle_of_refused {reason : QueryError} (h : Query.window query = .error reason) :
    handle m now ⟨"GET", ⟨path, query⟩⟩ = .badRequest reason.message := by
  have hroute : Route.ofRequest ⟨"GET", ⟨path, query⟩⟩ = .report := hpath
  unfold handle
  rw [hroute]
  simp only [report, h]

/-- The answer depends on the query through its window values only. -/
private theorem handle_congr {other : List Char}
    (h : Query.windowValues query = Query.windowValues other) :
    handle m now ⟨"GET", ⟨path, query⟩⟩ = handle m now ⟨"GET", ⟨path, other⟩⟩ := by
  have hwindow : Query.window query = Query.window other := by
    rw [Query.window_eq_of_readValues rfl, Query.window_eq_of_readValues rfl, h]
  cases hother : Query.window other with
  | ok window =>
      rw [handle_of_window hpath m now hother, handle_of_window hpath m now (hwindow.trans hother)]
  | error reason =>
      rw [handle_of_refused hpath m now hother,
        handle_of_refused hpath m now (hwindow.trans hother)]

end

/--
**A report covers the window that its query asks for, or says what is wrong with it.**  Of the
values for the window the first one decides if it is no number, whatever follows; if it is one, a
second value is one too many, whatever it is.  Without a value the report covers a minute, with
one it covers as many seconds, and nothing if they are not positive.  What has no window among its
fields changes nothing, wherever it stands; and names and values can be any texts, if they are
escaped.
-/
theorem handle_covers_window {path : List Char}
    (hpath : Route.ofPath (Target.decodedPath ⟨path, []⟩) = .report) (m : Meter) (now : Instant) :
    let answer := fun query => handle m now ⟨"GET", ⟨path, query⟩⟩
    (∀ query, Query.windowValues query = [] →
      answer query = .ok (some .json) (m.snapshot now (.ofSeconds 60)).json) ∧
    (∀ query first later, Query.windowValues query = first :: later →
      (∀ n, Numeral.SpellsInt first n →
        ¬ (-9223372036854775808 ≤ n ∧ n ≤ 9223372036854775807)) →
      answer query = .badRequest
        ("Query deserialize error: " ++ (Numeral.signedFault first).message)) ∧
    (∀ query first later n, Query.windowValues query = first :: later →
      Numeral.SpellsInt first n → -9223372036854775808 ≤ n → n ≤ 9223372036854775807 →
      (later ≠ [] → answer query = .badRequest
        "Query deserialize error: duplicate field \x60window\x60") ∧
      (later = [] → 0 < n → ∃ window : Duration, (window.nanos : Int) = n * 1000000000 ∧
        answer query = .ok (some .json) (m.snapshot now window).json) ∧
      (later = [] → n ≤ 0 → answer query = .ok (some .json) Snapshot.empty.json)) ∧
    (∀ before piece after, (∀ f ∈ Query.fields piece, f.name ≠ Query.windowName) →
      answer (Query.join (before ++ piece :: after)) = answer (Query.join (before ++ after))) ∧
    ∀ fs, Query.fields (Query.join (fs.map Query.escaped)) = fs := by
  intro answer
  refine ⟨?_, ?_, ?_, ?_, Query.fields_join_escaped⟩
  · intro query hnone
    exact handle_of_window hpath m now (Query.window_of_none hnone)
  · intro query first later hvalues hno
    have hread := Numeral.readSigned_eq_error hno
    exact handle_of_refused hpath m now (Query.window_of_fault hvalues hread)
  · intro query first later n hvalues hspells hlow hhigh
    have hread := Numeral.readSigned_eq_ok_iff.mpr ⟨hspells, hlow, hhigh⟩
    refine ⟨fun hlater => ?_, fun hlater hpos => ?_, fun hlater hnonpos => ?_⟩
    · exact handle_of_refused hpath m now (Query.window_of_duplicate hvalues hread hlater)
    · exact ⟨_, Query.windowOfSeconds_nanos hpos hhigh,
        handle_of_window hpath m now (Query.window_of_single hvalues hread hlater)⟩
    · have hwindow := Query.window_of_single hvalues hread hlater
      rw [Query.windowOfSeconds_of_nonpos hnonpos] at hwindow
      have hanswer := handle_of_window hpath m now hwindow
      rwa [Meter.snapshot_zero] at hanswer
  · intro before piece after hpiece
    exact handle_congr hpath m now (Query.windowValues_join_insert before after hpiece)

/-- A plus in a query is a space and spoils the number, and an escaped plus does not; an escaped
name is the name; the second window is refused unread. -/
theorem handle_covers_window_escapes :
    let path := "/%62enchmarks".toList
    let m : Meter := (Meter.standard.record .epoch .second)
    let answer := fun query => handle m .epoch ⟨"GET", ⟨path, query⟩⟩
    Route.ofPath (Target.decodedPath ⟨path, []⟩) = .report ∧
    answer "window=+60&window=1".toList =
      .badRequest "Query deserialize error: invalid digit found in string" ∧
    answer "%77indow=1&window=x".toList =
      .badRequest "Query deserialize error: duplicate field \x60window\x60" ∧
    answer "page=2&&window=-9223372036854775808".toList = .ok (some .json) Snapshot.empty.json ∧
    (∃ window : Duration, (window.nanos : Int) = 60 * 1000000000 ∧
      answer "window=%2B060".toList = .ok (some .json) (m.snapshot .epoch window).json) ∧
    answer "".toList = .ok (some .json) (m.snapshot .epoch (.ofSeconds 60)).json := by
  intro path m answer
  have hpath : Route.ofPath (Target.decodedPath ⟨path, []⟩) = .report := by decide +kernel
  obtain ⟨hnone, hfault, hnumber, -⟩ := handle_covers_window hpath m .epoch
  have hspace : ∀ n, Numeral.SpellsInt " 60".toList n →
      ¬ (-9223372036854775808 ≤ n ∧ n ≤ 9223372036854775807) := by
    intro n hspells hrange
    have hread := Numeral.readSigned_eq_ok_iff.mpr ⟨hspells, hrange⟩
    have herror : Numeral.readSigned " 60".toList = .error .invalidDigit := by decide
    rw [herror] at hread
    cases hread
  have hone : Numeral.SpellsInt "1".toList 1 :=
    .natural (n := 1) (.digits ⟨by decide, by decide⟩)
  have hleast : Numeral.SpellsInt "-9223372036854775808".toList (-9223372036854775808) :=
    .minus ⟨by decide, by decide⟩
  have hminute : Numeral.SpellsInt "+060".toList 60 :=
    .natural (n := 60) (.plus ⟨by decide, by decide⟩)
  refine ⟨hpath, ?_, ?_, ?_, ?_, ?_⟩
  · exact hfault _ " 60".toList ["1".toList] (by decide +kernel) hspace
  · exact (hnumber _ _ ["x".toList] 1 (by decide +kernel) hone (by decide) (by decide)).1
      (by decide)
  · exact (hnumber _ _ [] _ (by decide +kernel) hleast (by decide) (by decide)).2.2 rfl (by decide)
  · exact (hnumber _ _ [] 60 (by decide +kernel) hminute (by decide) (by decide)).2.1 rfl
      (by decide)
  · exact hnone _ (by decide +kernel)

end App

end RequestMeter.Http

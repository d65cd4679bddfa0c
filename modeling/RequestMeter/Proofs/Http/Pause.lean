/-
How long the app pauses, told by the target of the request.

What stands behind the segment of a target, a query or a fragment, is cut off (`Target.path_parse`),
and the stem in front of it has no percent sign, so the route sees the stem and the segment decoded
once (`Target.decodedPath_parse`).  Such a path leads to a pause or nowhere (`Route.ofPath_stem`).
Whether it is a pause does not depend on slashes that come out of the decoding, because there
are none: a slash in the segment would still be there when it is read as a number
(`slash_notMem_of_spellsNat`).  So the two decodings and the reader of numbers decide alone
(`App.get_of_spelled`, `App.get_of_unspelled`), and a writing of a number is decoded to this number.
-/
import RequestMeter.Http.App
import RequestMeter.Proofs.Number.Spelling
import RequestMeter.Proofs.Text.Writings
import Mathlib.Data.List.TakeWhile

namespace RequestMeter.Http

open Numeral

namespace Target

/-- What can stand behind the path of a target: a query, a fragment, or nothing. -/
def EndsPath (rest : List Char) : Prop := ∀ c ∈ rest.head?, c = '?' ∨ c = '#'

instance (rest : List Char) : Decidable (EndsPath rest) := rest.head?.decidableForallMem

theorem path_parse {path rest : List Char} (hquery : '?' ∉ path) (hfragment : '#' ∉ path)
    (hrest : EndsPath rest) : (parse (String.ofList (path ++ rest))).path = path := by
  have hpass : ∀ {d : Char}, d ∉ path → ∀ c ∈ path, (c != d) = true := by
    intro d hd c hc
    rw [bne_iff_ne]
    rintro rfl
    exact hd hc
  have hnone : (rest.takeWhile (· != '#')).takeWhile (· != '?') = [] := by
    cases rest with
    | nil => rfl
    | cons c later =>
        rcases hrest c rfl with rfl | rfl
        · rfl
        · rfl
  unfold parse
  rw [String.toList_ofList]
  dsimp only
  rw [List.takeWhile_append_of_pos (hpass hfragment), List.takeWhile_append_of_pos (hpass hquery),
    hnone, List.append_nil]

/-- The target of a pause: the segment behind the stem, and what follows the path. -/
def forPause (segment rest : List Char) : Target :=
  parse (String.ofList (Route.sleepStem ++ segment ++ rest))

theorem decodedPath_parse {segment rest : List Char} (hquery : '?' ∉ segment)
    (hfragment : '#' ∉ segment) (hrest : EndsPath rest) :
    (forPause segment rest).decodedPath =
      Route.sleepStem ++ Text.Percent.decode keepsEscape segment := by
  have hstem : '%' ∉ Route.sleepStem ∧ '?' ∉ Route.sleepStem ∧ '#' ∉ Route.sleepStem := by decide
  have hpath : (forPause segment rest).path = Route.sleepStem ++ segment := by
    refine path_parse ?_ ?_ hrest
    · rw [List.mem_append, not_or]
      exact ⟨hstem.2.1, hquery⟩
    · rw [List.mem_append, not_or]
      exact ⟨hstem.2.2, hfragment⟩
  rw [decodedPath, hpath, Text.Percent.decode_append _ hstem.1]

end Target

namespace Route

private theorem ofRequest_get (t : Target) :
    ofRequest ⟨"GET", t⟩ = ofPath t.decodedPath := if_pos rfl

/-- A path asks for a pause if its segment stands behind the stem, alone and not empty. -/
theorem sleepSegment?_eq_some_iff {path segment : List Char} :
    sleepSegment? path = some segment ↔
      path = sleepStem ++ segment ∧ segment ≠ [] ∧ '/' ∉ segment := by
  unfold sleepSegment?
  simp only [Bool.and_eq_true, List.isPrefixOf_iff_prefix, Bool.not_eq_true',
    List.isEmpty_eq_false_iff, List.contains_eq_mem, decide_eq_false_iff_not, and_assoc,
    Option.ite_none_right_eq_some, Option.some.injEq]
  constructor
  · rintro ⟨⟨rest, rfl⟩, hne, hslash, rfl⟩
    rw [List.drop_left] at hne hslash ⊢
    exact ⟨rfl, hne, hslash⟩
  · rintro ⟨rfl, hne, hslash⟩
    rw [List.drop_left]
    exact ⟨List.prefix_append _ _, hne, hslash, rfl⟩

/-- Behind the stem of a pause there is no other route. -/
theorem ofPath_stem (segment : List Char) :
    ofPath (sleepStem ++ segment) =
      if segment ≠ [] ∧ '/' ∉ segment then .sleep segment else .unknown := by
  have hother : ∀ path, ¬ sleepStem <+: path → sleepStem ++ segment ≠ path := by
    rintro path hnot rfl
    exact hnot (List.prefix_append _ _)
  have hhome := hother "/".toList (by decide)
  have hreport := hother "/benchmarks".toList (by decide)
  have hpage := hother "/benchmarks/status".toList (by decide)
  unfold ofPath
  rw [if_neg hhome, if_neg hreport, if_neg hpage]
  split
  case h_1 found hfound =>
      obtain ⟨hpath, hsegment⟩ := sleepSegment?_eq_some_iff.mp hfound
      obtain rfl := List.append_cancel_left hpath
      rw [if_pos hsegment]
  case h_2 hnone =>
      split
      case isTrue hsegment =>
          rw [sleepSegment?_eq_some_iff.mpr ⟨rfl, hsegment⟩] at hnone
          cases hnone
      case isFalse => rfl

/-- Only a path of a pause leads to one. -/
theorem eq_of_ofPath {path segment : List Char} (h : ofPath path = .sleep segment) :
    path = sleepStem ++ segment ∧ segment ≠ [] ∧ '/' ∉ segment := by
  unfold ofPath at h
  split_ifs at h
  split at h
  case h_1 found hfound =>
      obtain rfl := Route.sleep.inj h
      exact sleepSegment?_eq_some_iff.mp hfound
  case h_2 => cases h

private theorem eq_of_ofRequest {r : Request} {segment : List Char}
    (h : ofRequest r = .sleep segment) :
    r.method = "GET" ∧ ofPath r.target.decodedPath = .sleep segment := by
  unfold ofRequest at h
  split at h
  case isTrue hmethod => exact ⟨hmethod, h⟩
  case isFalse => cases h

end Route

namespace App

/-- The number a segment stands for is read after a second decoding. -/
theorem sleep_of_spelled {segment : List Char} {n : Nat}
    (h : SpellsNat (Text.Percent.decodeAll segment) n) (hle : n ≤ greatestUnsigned) :
    sleep segment =
      ⟨200, none, "Slept for " ++ toString (min n longestPause) ++ " ms", min n longestPause⟩ := by
  have hread := readUnsigned_eq_ok_iff.mpr ⟨h, hle⟩
  unfold sleep
  rw [hread]

theorem sleep_of_unspelled {segment : List Char}
    (h : ∀ n, SpellsNat (Text.Percent.decodeAll segment) n → greatestUnsigned < n) :
    (sleep segment).status = 404 ∧ (sleep segment).pause = 0 := by
  unfold sleep
  cases hread : readUnsigned (Text.Percent.decodeAll segment) with
  | ok n =>
      obtain ⟨hspells, hle⟩ := readUnsigned_eq_ok_iff.mp hread
      exact absurd (h n hspells) (Nat.not_lt.mpr hle)
  | error _ => exact ⟨rfl, rfl⟩

/-- A segment with a slash in it would still have the slash when it is read as a number. -/
theorem slash_notMem_of_spellsNat {segment : List Char} {n : Nat}
    (h : SpellsNat (Text.Percent.decodeAll segment) n) : '/' ∉ segment := by
  intro hmem
  have hdecoded : '/' ∈ Text.Percent.decodeAll segment :=
    Text.Percent.mem_decode _ (by decide) (by decide) (by decide) hmem
  rcases h.isDigit_or_eq_plus hdecoded with hdigit | hplus
  · exact absurd hdigit (by decide)
  · exact absurd hplus (by decide)

section

variable (m : Meter) (now : Instant) {segment rest : List Char} (hquery : '?' ∉ segment)
  (hfragment : '#' ∉ segment) (hrest : Target.EndsPath rest)

include hquery hfragment hrest

/-- A target with the stem of a pause leads to the pause its segment asks for, or nowhere. -/
theorem handle_forPause :
    let decoded := Text.Percent.decode Target.keepsEscape segment
    handle m now ⟨"GET", Target.forPause segment rest⟩ =
      if decoded ≠ [] ∧ '/' ∉ decoded then sleep decoded else .notFound := by
  intro decoded
  have hroute : Route.ofRequest ⟨"GET", Target.forPause segment rest⟩ =
      if decoded ≠ [] ∧ '/' ∉ decoded then .sleep decoded else .unknown := by
    rw [Route.ofRequest_get, Target.decodedPath_parse hquery hfragment hrest, Route.ofPath_stem]
  by_cases hsegment : decoded ≠ [] ∧ '/' ∉ decoded
  · rw [if_pos hsegment] at hroute ⊢
    unfold handle
    rw [hroute]
  · rw [if_neg hsegment] at hroute ⊢
    unfold handle
    rw [hroute]

theorem get_of_spelled {n : Nat}
    (h : SpellsNat (Text.Percent.decodeAll (Text.Percent.decode Target.keepsEscape segment)) n)
    (hle : n ≤ greatestUnsigned) :
    handle m now ⟨"GET", Target.forPause segment rest⟩ =
      ⟨200, none, "Slept for " ++ toString (min n longestPause) ++ " ms", min n longestPause⟩ := by
  have hne : Text.Percent.decode Target.keepsEscape segment ≠ [] := by
    intro hnil
    rw [hnil] at h
    exact h.ne_nil rfl
  rw [handle_forPause m now hquery hfragment hrest, if_pos ⟨hne, slash_notMem_of_spellsNat h⟩,
    sleep_of_spelled h hle]

theorem get_of_unspelled
    (h : ∀ n,
      SpellsNat (Text.Percent.decodeAll (Text.Percent.decode Target.keepsEscape segment)) n →
      greatestUnsigned < n) :
    (handle m now ⟨"GET", Target.forPause segment rest⟩).status = 404 ∧
      (handle m now ⟨"GET", Target.forPause segment rest⟩).pause = 0 := by
  rw [handle_forPause m now hquery hfragment hrest]
  split
  · exact sleep_of_unspelled h
  · exact ⟨rfl, rfl⟩

end

/-! ### Requests of any kind

So far the target had the stem of a pause.  The converse is that nothing else pauses: no other route
has a pause in its answer, and the route of a pause is reached by its stem alone.
-/

private theorem pause_report (m : Meter) (now : Instant) (query : List Char) :
    (report m now query).pause = 0 := by
  unfold report
  split <;> rfl

/-- Only the route of a pause pauses, and only for a number. -/
theorem exists_of_pause_ne_zero {m : Meter} {now : Instant} {r : Request}
    (h : (handle m now r).pause ≠ 0) :
    ∃ segment n, Route.ofRequest r = .sleep segment ∧
      SpellsNat (Text.Percent.decodeAll segment) n ∧ n ≤ greatestUnsigned ∧
      (handle m now r).pause = min n longestPause := by
  unfold handle at h ⊢
  cases hroute : Route.ofRequest r with
  | home => simp [hroute, Response.ok] at h
  | report => simp [hroute, pause_report] at h
  | statusPage => simp [hroute, Response.ok] at h
  | unknown => simp [hroute, Response.notFound] at h
  | sleep segment =>
      simp only [hroute] at h
      by_cases hspelled : ∃ n, SpellsNat (Text.Percent.decodeAll segment) n ∧ n ≤ greatestUnsigned
      · obtain ⟨n, hspells, hle⟩ := hspelled
        refine ⟨segment, n, rfl, hspells, hle, ?_⟩
        simp only
        rw [sleep_of_spelled hspells hle]
      · refine absurd (sleep_of_unspelled fun n hspells => ?_).2 h
        by_contra hle
        exact hspelled ⟨n, hspells, Nat.not_lt.mp hle⟩

/-- What a number is written with ends no path. -/
private theorem notMem_of_writes {segment number : List Char} {n : Nat}
    (hwrites : Text.Percent.Writes segment number) (hspells : SpellsNat number n) {c : Char}
    (hc : c = '?' ∨ c = '#') : c ∉ segment := by
  have hnumber : c ∉ number := by
    intro hmem
    rcases hspells.isDigit_or_eq_plus hmem with hdigit | rfl
    · rcases hc with rfl | rfl <;> exact absurd hdigit (by decide)
    · exact absurd hc (by decide)
  rcases hc with rfl | rfl
  · exact hwrites.notMem (by decide) (by decide) hnumber
  · exact hwrites.notMem (by decide) (by decide) hnumber

/-- What is told of a pause is read back as the pause. -/
private theorem exists_told (n : Nat) (h : n ≤ greatestUnsigned) :
    ∃ told, "Slept for " ++ toString n ++ " ms" =
        String.ofList ("Slept for ".toList ++ told ++ " ms".toList) ∧
      readUnsigned told = .ok n := by
  refine ⟨Nat.toDigits 10 n, ?_, readUnsigned_eq_ok_iff.mpr ⟨spellsNat_toDigits n, h⟩⟩
  apply String.ext
  change ("Slept for " ++ n.repr ++ " ms").toList = _
  simp only [String.toList_append, String.toList_ofList, Nat.toList_repr]

/--
**The app pauses as long as the segment says, within its limit, and tells how long.**  However the
digits of a number and the plus before them are escaped, the pause is as many milliseconds, at most
ten thousand, and the answer tells it.  Of the other segments, those that the two decodings turn
into such a number are answered alike, and the rest are not found, without a pause.  No request
whatsoever pauses for longer, or anywhere else.
-/
theorem handle_pauses_as_told (m : Meter) (now : Instant) :
    let get := fun segment rest => handle m now
      ⟨"GET", Target.parse (String.ofList ("/sleep/".toList ++ segment ++ rest))⟩
    let read := fun segment =>
      Text.Percent.decodeAll (Text.Percent.decode Target.keepsEscape segment)
    let Pauses := fun (answer : Response) (n : Nat) =>
      ∃ told, answer = ⟨200, none, String.ofList ("Slept for ".toList ++ told ++ " ms".toList),
          min n 10000⟩ ∧
        readUnsigned told = .ok (min n 10000)
    (∀ segment rest number n, Text.Percent.Writes segment number → SpellsNat number n →
      n ≤ 18446744073709551615 → Target.EndsPath rest → Pauses (get segment rest) n) ∧
    (∀ segment rest, '?' ∉ segment → '#' ∉ segment → Target.EndsPath rest →
      (∀ n, SpellsNat (read segment) n → n ≤ 18446744073709551615 →
        Pauses (get segment rest) n) ∧
      ((∀ n, SpellsNat (read segment) n → 18446744073709551615 < n) →
        (get segment rest).status = 404 ∧ (get segment rest).pause = 0)) ∧
    ∀ r, (handle m now r).pause ≤ 10000 ∧
      ((handle m now r).pause ≠ 0 → r.method = "GET" ∧
        ∃ segment n, r.target.decodedPath = "/sleep/".toList ++ segment ∧ '/' ∉ segment ∧
          SpellsNat (Text.Percent.decodeAll segment) n ∧ n ≤ 18446744073709551615 ∧
          (handle m now r).pause = min n 10000) := by
  intro get read Pauses
  have hpauses : ∀ segment rest n, '?' ∉ segment → '#' ∉ segment → Target.EndsPath rest →
      SpellsNat (read segment) n → n ≤ 18446744073709551615 → Pauses (get segment rest) n := by
    intro segment rest n hquery hfragment hrest hspells hle
    have hlimit : min n 10000 ≤ greatestUnsigned := Nat.le_trans (Nat.min_le_left _ _) hle
    obtain ⟨told, htext, hread⟩ := exists_told _ hlimit
    refine ⟨told, ?_, hread⟩
    rw [← htext]
    exact get_of_spelled m now hquery hfragment hrest hspells hle
  refine ⟨?_, ?_, ?_⟩
  · intro segment rest number n hwrites hspells hle hrest
    have hread : read segment = number := (hwrites.decode (by decide)).decodeAll_eq
    exact hpauses segment rest n (notMem_of_writes hwrites hspells (Or.inl rfl))
      (notMem_of_writes hwrites hspells (Or.inr rfl)) hrest (hread ▸ hspells) hle
  · intro segment rest hquery hfragment hrest
    refine ⟨fun n => hpauses segment rest n hquery hfragment hrest, fun hno => ?_⟩
    exact get_of_unspelled m now hquery hfragment hrest hno
  · intro r
    by_cases hpause : (handle m now r).pause = 0
    · exact ⟨by omega, fun hne => absurd hpause hne⟩
    · obtain ⟨segment, n, hroute, hspells, hle, heq⟩ := exists_of_pause_ne_zero hpause
      obtain ⟨hmethod, hpath⟩ := Route.eq_of_ofRequest hroute
      obtain ⟨hpath, -, hslash⟩ := Route.eq_of_ofPath hpath
      refine ⟨?_, fun _ => ⟨hmethod, segment, n, hpath, hslash, hspells, hle, heq⟩⟩
      rw [heq]
      exact Nat.min_le_right _ _

/-- Escaped digits and an escaped plus are read, also where an escape comes out of the first
decoding; an escape of an escape, a number too large and a minus are not. -/
theorem handle_pauses_as_told_escapes :
    let get := fun segment rest => handle .standard .epoch
      ⟨"GET", Target.parse (String.ofList ("/sleep/".toList ++ segment ++ rest))⟩
    Text.Percent.Writes "%2b0%31%322".toList "+0122".toList ∧ SpellsNat "+0122".toList 122 ∧
    (∃ told, get "%2b0%31%322".toList "?page=2".toList =
        ⟨200, none, String.ofList ("Slept for ".toList ++ told ++ " ms".toList), 122⟩ ∧
      readUnsigned told = .ok 122) ∧
    (∃ told, get "%%331".toList "#now".toList =
        ⟨200, none, String.ofList ("Slept for ".toList ++ told ++ " ms".toList), 1⟩ ∧
      readUnsigned told = .ok 1) ∧
    (get "%2531".toList []).status = 404 ∧
    (get "18446744073709551616".toList []).status = 404 ∧
    (get "-5".toList []).status = 404 ∧
    ∃ segment n, (get "%2b0%31%322".toList []).pause = min n 10000 ∧
      SpellsNat (Text.Percent.decodeAll segment) n := by
  intro get
  obtain ⟨hwritten, hread, hany⟩ := handle_pauses_as_told .standard .epoch
  have hwrites : Text.Percent.Writes "%2b0%31%322".toList "+0122".toList :=
    .escape (by decide) ⟨by decide, by decide⟩ ⟨by decide, by decide⟩ <|
      .plain (by decide) <| .escape (by decide) ⟨by decide, by decide⟩ ⟨by decide, by decide⟩ <|
      .escape (by decide) ⟨by decide, by decide⟩ ⟨by decide, by decide⟩ <|
      .plain (by decide) .nil
  have hspells : SpellsNat "+0122".toList 122 := .plus ⟨by decide, by decide⟩
  have hone : SpellsNat (Text.Percent.decodeAll
      (Text.Percent.decode Target.keepsEscape "%%331".toList)) 1 := by
    have hdecoded : Text.Percent.decodeAll
        (Text.Percent.decode Target.keepsEscape "%%331".toList) = ['1'] := by decide +kernel
    rw [hdecoded]
    exact spellsNat_toDigits 1
  have hrefused : ∀ segment reason, '?' ∉ segment → '#' ∉ segment →
      readUnsigned (Text.Percent.decodeAll
        (Text.Percent.decode Target.keepsEscape segment)) = .error reason →
      (get segment []).status = 404 := by
    intro segment reason hquery hfragment herror
    exact ((hread segment [] hquery hfragment (by decide)).2
      (lt_of_readUnsigned_eq_error herror)).1
  refine ⟨hwrites, hspells, hwritten _ _ _ 122 hwrites hspells (by decide) (by decide),
    (hread _ _ (by decide) (by decide) (by decide)).1 1 hone (by decide),
    hrefused _ .invalidDigit (by decide) (by decide) (by decide +kernel),
    hrefused _ .tooLarge (by decide) (by decide) (by decide +kernel),
    hrefused _ .invalidDigit (by decide) (by decide) (by decide +kernel), ?_⟩
  obtain ⟨told, hanswer, -⟩ := hwritten _ [] _ 122 hwrites hspells (by decide) (by decide)
  have hpause : (get "%2b0%31%322".toList []).pause = 122 := congrArg Response.pause hanswer
  obtain ⟨-, segment, n, -, -, hsegment, -, hn⟩ := (hany _).2 (hpause.trans_ne (by decide))
  exact ⟨segment, n, hn, hsegment⟩

end App

end RequestMeter.Http

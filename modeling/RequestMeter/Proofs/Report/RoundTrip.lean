/-
Reading a whole report back.

The reader knows objects whose members are numbers or `null`.  It gives the names of the members in
their order, so nothing is hidden by a name that comes twice.  Neither a name nor the text of a
value has a comma in it, so the text of an object splits into those of its members
(`readObject?_object`), and the numbers are read back by what is known of literals and of doubles
(`read?_number`).  What the reader gives of a report determines it, because two doubles that read
back alike are one (`json_eq_iff`).
-/
import RequestMeter.Report.Json
import RequestMeter.Proofs.Meter.Widening
import RequestMeter.Proofs.Number.Literal
import RequestMeter.Proofs.Number.Nearest

namespace RequestMeter

/-- What a member of an object says: nothing, or a number. -/
inductive JsonValue where
  | null
  /-- A number, as its sign and the decimal behind the sign. -/
  | number (negative : Bool) (size : Decimal)
deriving DecidableEq

namespace JsonValue

/-- A natural number, written without a point or a power of ten. -/
def natural (n : Nat) : JsonValue := number false ⟨n, 0⟩

/-- The double that a number is nearest to; the sign of a zero counts. -/
def double? : JsonValue → Option Binary64
  | null => none
  | number negative size => some (.withSign negative (.nearest size.toRat))

/-- Reads `null` or a number literal. -/
def read? (s : List Char) : Option JsonValue :=
  if s = "null".toList then some null
  else
    match s with
    | '-' :: size => (Decimal.read? size).map (number true)
    | size => (Decimal.read? size).map (number false)

end JsonValue

namespace Report

/-- Does a character stand for itself in a name? -/
def isPlain (c : Char) : Bool := c != '"' && c != '\\' && ' ' ≤ c

/-- Reads a name between quotes, a colon and a value. -/
def readMember? : List Char → Option (String × JsonValue)
  | '"' :: s =>
    match s.dropWhile isPlain with
    | '"' :: ':' :: value =>
      (JsonValue.read? value).map fun v => (String.ofList (s.takeWhile isPlain), v)
    | _ => none
  | _ => none

/-- Reads the members of an object, with commas between them. -/
def readObject? (text : String) : Option (List (String × JsonValue)) :=
  match text.toList with
  | '\x7b' :: s =>
    if s.getLast? ≠ some '\x7d' then none
    else if s.dropLast = [] then some []
    else (s.dropLast.splitOn ',').mapM readMember?
  | _ => none

example : readObject? "\x7b\"a\":-1.5,\"b\":null\x7d" =
    some [("a", .number true ⟨15, -1⟩), ("b", .null)] := by decide +kernel

end Report

/-! ### Values -/

namespace JsonValue

theorem read?_null : read? "null".toList = some null := rfl

section

variable {s : List Char} {d : Decimal} (h : Decimal.read? s = some d)

include h

/-- A literal begins with a digit. -/
private theorem exists_cons_of_read? : ∃ c rest, s = c :: rest ∧ c.isDigit = true := by
  have hdigits := (Decimal.chars_of_read? h).1
  cases s with
  | nil => exact absurd rfl hdigits
  | cons c rest =>
      refine ⟨c, rest, rfl, ?_⟩
      by_contra hc
      exact hdigits (Numeral.leadingDigits_cons_of_not_isDigit hc rest)

private theorem read?_of_literal : read? s = some (number false d) := by
  obtain ⟨c, rest, rfl, hc⟩ := exists_cons_of_read? h
  have hnull : c :: rest ≠ "null".toList := by
    intro heq
    rw [(List.cons.inj heq).1] at hc
    exact absurd hc (by decide)
  have hminus : c ≠ '-' := by
    rintro rfl
    exact absurd hc (by decide)
  unfold read?
  rw [if_neg hnull]
  split
  case h_1 heq => exact absurd (List.cons.inj heq).1 hminus
  case h_2 => rw [h, Option.map_some]

private theorem read?_of_minus : read? ('-' :: s) = some (number true d) := by
  have hnull : '-' :: s ≠ "null".toList := fun heq => absurd (List.cons.inj heq).1 (by decide)
  unfold read?
  rw [if_neg hnull]
  simp only [h, Option.map_some]

end

theorem read?_toDigits (n : Nat) : read? (Nat.toDigits 10 n) = some (natural n) :=
  read?_of_literal (Decimal.read?_toDigits n)

/-- The text of a value is over where a comma stands. -/
theorem comma_notMem_of_read? {s : List Char} {v : JsonValue} (h : read? s = some v) :
    ',' ∉ s := by
  have hliteral : ∀ {t : List Char} {d : Decimal}, Decimal.read? t = some d → ',' ∉ t :=
    fun ht hcomma => absurd (List.all_eq_true.mp (Decimal.chars_of_read? ht).2 _ hcomma) (by decide)
  unfold read? at h
  split at h
  case isTrue hnull =>
      rw [hnull]
      decide
  case isFalse =>
      split at h
      case h_1 size =>
          obtain ⟨d, hread, -⟩ := Option.map_eq_some_iff.mp h
          rw [List.mem_cons, not_or]
          exact ⟨by decide, hliteral hread⟩
      case h_2 =>
          obtain ⟨d, hread, -⟩ := Option.map_eq_some_iff.mp h
          exact hliteral hread

end JsonValue

namespace Report

/-! ### Objects

The reader splits an object at its commas and does not ask what is between quotes.  For the objects
of reports that is right, and `Tells` has what a member must satisfy for it.
-/

/-- A name that stands for itself, without a comma. -/
def IsName (name : String) : Prop := ∀ c ∈ name.toList, isPlain c = true ∧ c ≠ ','

instance (name : String) : Decidable (IsName name) :=
  List.decidableBAll (fun c => isPlain c = true ∧ c ≠ ',') name.toList

/-- A member and what it is read as. -/
structure Tells (member : String × String) (told : String × JsonValue) : Prop where
  name_eq : told.1 = member.1
  isName : IsName member.1
  read_value : JsonValue.read? member.2.toList = some told.2

/-- The text of a member. -/
def memberText (member : String × String) : List Char :=
  '"' :: (member.1.toList ++ '"' :: ':' :: member.2.toList)

theorem toList_object (members : List (String × String)) :
    (object members).toList =
      '\x7b' :: ([','].intercalate (members.map memberText) ++ ['\x7d']) := by
  unfold object
  rw [String.toList_append, String.toList_append, String.toList_intercalate, List.map_map,
    List.map_congr_left (g := memberText)]
  · rfl
  · intro member _
    simp [memberText]

section

variable {member : String × String} {told : String × JsonValue} (h : Tells member told)

include h

theorem readMember?_memberText : readMember? (memberText member) = some told := by
  have hplain : ∀ c ∈ member.1.toList, isPlain c = true := fun c hc => (h.isName c hc).1
  have hname : (member.1.toList ++ '"' :: ':' :: member.2.toList).takeWhile isPlain =
      member.1.toList := by
    rw [List.takeWhile_append_of_pos hplain, List.takeWhile_cons_of_neg (by decide),
      List.append_nil]
  have hvalue : (member.1.toList ++ '"' :: ':' :: member.2.toList).dropWhile isPlain =
      '"' :: ':' :: member.2.toList := by
    rw [List.dropWhile_append_of_pos hplain, List.dropWhile_cons_of_neg (by decide)]
  unfold memberText
  simp only [readMember?, hname, hvalue, h.read_value, Option.map_some, String.ofList_toList]
  rw [← h.name_eq]

private theorem comma_notMem_memberText : ',' ∉ memberText member := by
  unfold memberText
  simp only [List.mem_cons, List.mem_append, not_or]
  exact ⟨by decide, fun hc => (h.isName _ hc).2 rfl, by decide, by decide,
    JsonValue.comma_notMem_of_read? h.read_value⟩

end

section

variable {members : List (String × String)} {told : List (String × JsonValue)}
  (h : List.Forall₂ Tells members told)

include h

private theorem comma_notMem_memberTexts : ∀ t ∈ members.map memberText, ',' ∉ t := by
  induction h with
  | nil => simp
  | cons hmember _ ih =>
      rw [List.map_cons, List.forall_mem_cons]
      exact ⟨comma_notMem_memberText hmember, ih⟩

private theorem mapM_readMember? : (members.map memberText).mapM readMember? = some told := by
  induction h with
  | nil => rfl
  | cons hmember _ ih =>
      rw [List.map_cons, List.mapM_cons, readMember?_memberText hmember, ih]
      rfl

/-- An object is read back member by member, in the order of its members. -/
theorem readObject?_object : readObject? (object members) = some told := by
  have hcomma := comma_notMem_memberTexts h
  have hread := mapM_readMember? h
  unfold readObject?
  rw [toList_object]
  simp only [List.getLast?_concat, List.dropLast_concat]
  rw [if_neg (by simp)]
  cases h with
  | nil => rfl
  | cons _ _ =>
      have hsplit := List.splitOn_intercalate ',' hcomma (by simp)
      rw [if_neg, hsplit, hread]
      -- the text of a member is not empty
      intro hnil
      rw [hnil] at hsplit
      cases hsplit

end

/-! ### The rate

The rate is the one member that is not a natural number.  Its sign is written and read apart from
its size, so a zero keeps its sign, and it has no text of its own where it is not finite.
-/

/-- The decimal that is written for the size of a finite double. -/
def size (x : Binary64) : Decimal := if x.pattern = 0 then ⟨0, 0⟩ else x.abs.shortest

section

variable {x : Binary64} (h : x.isFinite = true)

include h

private theorem nearest_size : Binary64.nearest (size x).toRat = x.abs := by
  unfold size
  split
  case isTrue hzero =>
      rw [Binary64.abs, hzero]
      decide +kernel
  case isFalse => exact Binary64.nearest_shortest x.isNegative_abs (x.isFinite_abs.trans h)

private theorem size_readable : (size x).coefficient ≠ 0 ∨ (size x).exponent = 0 := by
  unfold size
  split
  case isTrue => exact Or.inr rfl
  case isFalse hpattern =>
      left
      refine Binary64.shortest_coefficient_ne_zero x.isNegative_abs (x.isFinite_abs.trans h) ?_
      rwa [x.pattern_abs]

theorem toList_number :
    (number x).toList =
      (if x.isNegative then ['-'] else []) ++ (size x).written rateLayout := by
  unfold number
  rw [h]
  simp only [Bool.not_true, Bool.false_eq_true, if_false, String.toList_append,
    String.toList_ofList]
  cases x.isNegative <;> rfl

/-- A finite double is read back from its text, bit for bit. -/
theorem read?_number_of_finite :
    ∃ v, JsonValue.read? (number x).toList = some v ∧ v.double? = some x := by
  obtain ⟨d, hread, hvalue⟩ := Decimal.read?_written rateLayout (size_readable h)
  refine ⟨.number x.isNegative d, ?_, ?_⟩
  · rw [toList_number h]
    cases x.isNegative with
    | false => exact JsonValue.read?_of_literal hread
    | true => exact JsonValue.read?_of_minus hread
  · rw [JsonValue.double?, hvalue, nearest_size h, x.withSign_abs]

end

theorem number_of_not_finite {x : Binary64} (h : x.isFinite = false) : number x = "null" := by
  unfold number
  rw [h]
  rfl

/-- What the text of a double is read as: the same double, or nothing if it is not finite. -/
theorem read?_number (x : Binary64) :
    ∃ v, JsonValue.read? (number x).toList = some v ∧
      (x.isFinite = true → v.double? = some x) ∧ (x.isFinite = false → v = .null) := by
  cases hfinite : x.isFinite with
  | true =>
      obtain ⟨v, hread, hdouble⟩ := read?_number_of_finite hfinite
      exact ⟨v, hread, fun _ => hdouble, fun h => absurd h (by decide)⟩
  | false =>
      rw [number_of_not_finite hfinite]
      exact ⟨.null, JsonValue.read?_null, fun h => absurd h (by decide), fun _ => rfl⟩

/-! ### Reports

What has been read determines what was written, up to what a report leaves out: it tells times in
whole microseconds, so two times within the same microsecond look alike in it.
-/

/-- The members of a report and what they say. -/
def reported (requests : Nat) (rate : JsonValue) (average least greatest : Nat) :
    List (String × JsonValue) :=
  [("total_requests", .natural requests),
   ("total_requests_sec", rate),
   ("average_resp_time", .natural average),
   ("min_resp_time", .natural least),
   ("max_resp_time", .natural greatest)]

theorem reported_inj {requests requests' average average' least least' greatest greatest' : Nat}
    {rate rate' : JsonValue} (h : reported requests rate average least greatest =
      reported requests' rate' average' least' greatest') :
    requests = requests' ∧ rate = rate' ∧ average = average' ∧ least = least' ∧
      greatest = greatest' := by
  simpa [reported, JsonValue.natural] using h

/-- A natural number in a report. -/
theorem tells_natural {name : String} (h : IsName name) (n : Nat) :
    Tells (name, toString n) (name, .natural n) := by
  refine ⟨rfl, h, ?_⟩
  change JsonValue.read? n.repr.toList = _
  rw [Nat.toList_repr, JsonValue.read?_toDigits]

end Report

open Report

namespace Snapshot

/-- A report is read back as what it was made from, times in whole microseconds. -/
theorem readObject?_json (s : Snapshot) {v : JsonValue}
    (h : JsonValue.read? (number s.rate).toList = some v) :
    readObject? s.json =
      some (reported s.requests v (micros s.average) (micros s.least) (micros s.greatest)) := by
  have hrate : Tells ("total_requests_sec", number s.rate) ("total_requests_sec", v) :=
    ⟨rfl, (by decide : IsName "total_requests_sec"), h⟩
  refine readObject?_object ?_
  exact .cons (tells_natural (by decide) _) (.cons hrate
    (.cons (tells_natural (by decide) _) (.cons (tells_natural (by decide) _)
      (.cons (tells_natural (by decide) _) .nil))))

/-- Reports with finite rates are alike only if what they tell is alike. -/
theorem json_eq_iff {s t : Snapshot} (hs : s.rate.isFinite = true) (ht : t.rate.isFinite = true) :
    s.json = t.json ↔
      s.requests = t.requests ∧ s.rate = t.rate ∧ micros s.average = micros t.average ∧
        micros s.least = micros t.least ∧ micros s.greatest = micros t.greatest := by
  obtain ⟨v, hv, hrate⟩ := read?_number_of_finite hs
  obtain ⟨w, hw, hrate'⟩ := read?_number_of_finite ht
  constructor
  · intro heq
    have htold := t.readObject?_json hw
    rw [← heq, s.readObject?_json hv] at htold
    obtain ⟨hrequests, rfl, htimes⟩ := reported_inj (Option.some.inj htold)
    exact ⟨hrequests, Option.some.inj (hrate.symm.trans hrate'), htimes⟩
  · rintro ⟨hrequests, hrate, haverage, hleast, hgreatest⟩
    unfold json members
    rw [hrequests, hrate, haverage, hleast, hgreatest]

end Snapshot

namespace ClockedMeter

/-- A snapshot of a meter, even one that shows nothing, has its extremes in order. -/
theorem run_extremes {retention : Duration} {m : Meter} (hm : Meter.new? retention = some m)
    (start now : Instant) (events : List MeterEvent) (window : Duration) :
    let s := ((ClockedMeter.run ⟨m, start⟩ events).set now).snapshot window
    s.least ≤ s.greatest ∧ s.average ≤ s.greatest := by
  intro s
  have hempty : m.buckets = [] := (Meter.new?_wellKept hm).2.2
  cases htally : (ClockedMeter.run ⟨m, start⟩ events).meter.tally? now window with
  | none =>
      have hs : s = .empty := Meter.snapshot_of_tally?_eq_none htally
      rw [hs]
      exact ⟨Nat.le_refl _, Nat.le_refl _⟩
  | some t =>
      have hs : s = .ofTally t := Meter.snapshot_of_tally?_eq_some htally
      rw [run_meter] at htally
      have hdescribes := (Meter.describes_of_tally?_recordAll hempty htally).snapshot
        (History.epoch_le_counted m.retention window now (History.ofEvents start events))
      rw [hs]
      exact ⟨hdescribes.least_le_greatest, hdescribes.average_le_greatest⟩

end ClockedMeter

theorem Report.micros_le {a b : Duration} (h : a ≤ b) : micros a ≤ micros b := by
  have hquotient : a.micros ≤ b.micros := Nat.div_le_div_right (Duration.le_iff.mp h)
  unfold micros
  omega

namespace Snapshot

/--
**A report can be read back.**  It has its five members in their order.  The number of requests is
exact, a finite rate is the same double and another is `null`, and each time is that of the snapshot
in whole microseconds, up to what 64 bits can hold.  So two reports with finite rates are alike
exactly if they tell the same; and whatever a meter has recorded, its report has the least
time and the average no greater than the greatest time.
-/
theorem json_readsBack :
    (∀ s : Snapshot, ∃ rate,
      readObject? s.json = some (reported s.requests rate
        (min (s.average.nanos / 1000) 18446744073709551615)
        (min (s.least.nanos / 1000) 18446744073709551615)
        (min (s.greatest.nanos / 1000) 18446744073709551615)) ∧
      (s.rate.isFinite = true → rate.double? = some s.rate) ∧
      (s.rate.isFinite = false → rate = .null)) ∧
    (∀ s t : Snapshot, s.rate.isFinite = true → t.rate.isFinite = true →
      (s.json = t.json ↔ s.requests = t.requests ∧ s.rate.bits = t.rate.bits ∧
        micros s.average = micros t.average ∧ micros s.least = micros t.least ∧
        micros s.greatest = micros t.greatest)) ∧
    ∀ retention m, Meter.new? retention = some m →
      ∀ (start now : Instant) (events : List MeterEvent) (window : Duration),
        let s := ((ClockedMeter.run ⟨m, start⟩ events).set now).snapshot window
        ∃ rate average least greatest,
          readObject? s.json = some (reported s.requests rate average least greatest) ∧
          least ≤ greatest ∧ average ≤ greatest := by
  refine ⟨?_, ?_, ?_⟩
  · intro s
    obtain ⟨v, hread, hfinite, hnot⟩ := read?_number s.rate
    exact ⟨v, s.readObject?_json hread, hfinite, hnot⟩
  · intro s t hs ht
    rw [json_eq_iff hs ht, Binary64.ext_iff]
  · intro retention m hm start now events window s
    obtain ⟨v, hread, -⟩ := read?_number s.rate
    obtain ⟨hleast, haverage⟩ := ClockedMeter.run_extremes hm start now events window
    exact ⟨v, _, _, _, s.readObject?_json hread, micros_le hleast, micros_le haverage⟩

/-- A zero with a minus is told from one without, and the longest duration is cut to what 64 bits
can hold. -/
theorem json_readsBack_signedZeros :
    let s : Snapshot := ⟨1, ⟨0⟩, .longest, .zero, .longest⟩
    let t : Snapshot := { s with rate := ⟨0x8000000000000000⟩ }
    let shown := ((ClockedMeter.run ⟨.standard, .epoch⟩ [.record .longest]).set .epoch).snapshot
      .second
    s.rate.isFinite = true ∧ t.rate.isFinite = true ∧ s.json ≠ t.json ∧
    (∃ rate, readObject? t.json =
        some (reported 1 rate 18446744073709551615 0 18446744073709551615) ∧
      rate.double? = some t.rate) ∧
    Meter.new? Meter.defaultRetention = some .standard ∧ shown.requests = 1 ∧
    ∃ rate average least greatest,
      readObject? shown.json = some (reported 1 rate average least greatest) ∧
      least ≤ greatest ∧ average ≤ greatest := by
  intro s t shown
  have hs : s.rate.isFinite = true := by decide
  have ht : t.rate.isFinite = true := by decide
  have hnew : Meter.new? Meter.defaultRetention = some .standard := by decide
  obtain ⟨hread, halike, hreachable⟩ := json_readsBack
  obtain ⟨rate, htold, hrate, -⟩ := hread t
  have hlongest : min (t.average.nanos / 1000) 18446744073709551615 = 18446744073709551615 := by
    decide
  have hzero : min (t.least.nanos / 1000) 18446744073709551615 = 0 := by decide
  rw [hlongest, hzero] at htold
  refine ⟨hs, ht, ?_, ⟨rate, htold, hrate ht⟩, hnew, by decide,
    hreachable _ _ hnew .epoch .epoch [.record .longest] .second⟩
  intro heq
  obtain ⟨-, hbits, -⟩ := (halike s t hs ht).mp heq
  exact absurd hbits (by decide)

end Snapshot

end RequestMeter

/-
Which settings a server starts with.

A retention is spelled by an unsigned number with blank characters around it.  A number has no blank
character in it, so trimming such a text leaves the number whatever the blanks are, and nothing
else is trimmed to a number (`spellsNat_trim_iff`).  Reading the settings then fails on every text
but a spelling of a 64-bit number (`ServerConfig.ofVariables_of_spelled`,
`ServerConfig.ofVariables_of_unspelled`), and opening the meter fails on zero alone
(`Launch.listening_of_spelled`, `Launch.refused_of_zero`).
-/
import RequestMeter.Config.Server
import RequestMeter.Proofs.Number.Spelling
import Mathlib.Data.List.TakeWhile

namespace RequestMeter

open Numeral

namespace Text

/-! ### Blanks around a number -/

private theorem not_isBlank_of_isDigit {c : Char} (h : c.isDigit = true) : isBlank c = false := by
  rw [Char.isDigit_iff_toNat] at h
  obtain ⟨hlow, hhigh⟩ := h
  change 48 ≤ c.toNat at hlow
  change c.toNat ≤ 57 at hhigh
  rw [isBlank, List.any_eq_false]
  intro r hr
  rw [CodeRange.contains, Bool.and_eq_true, decide_eq_true_iff, decide_eq_true_iff]
  simp only [blankRanges, List.mem_cons, List.not_mem_nil, or_false] at hr
  -- the ranges of blanks lie below the digits or above them
  rcases hr with rfl | rfl | rfl | rfl | rfl | rfl | rfl | rfl | rfl | rfl <;> omega

theorem not_isBlank_of_spellsNat {s : List Char} {n : Nat} (h : SpellsNat s n) :
    ∀ c ∈ s, isBlank c = false := by
  intro c hc
  rcases h.isDigit_or_eq_plus hc with hdigit | rfl
  · exact not_isBlank_of_isDigit hdigit
  · decide

/-- Trimming takes the blanks around a text that has none itself. -/
theorem trim_append {before s after : List Char} (hbefore : ∀ c ∈ before, isBlank c = true)
    (hafter : ∀ c ∈ after, isBlank c = true) (hne : s ≠ [])
    (hs : ∀ c ∈ s, isBlank c = false) : trim (before ++ s ++ after) = s := by
  have hdrop : ∀ {t u : List Char}, t ≠ [] → (∀ c ∈ t, isBlank c = false) →
      (t ++ u).dropWhile isBlank = t ++ u := by
    intro t u ht hnone
    obtain ⟨c, rest, rfl⟩ := List.exists_cons_of_ne_nil ht
    exact List.dropWhile_cons_of_neg (by simp [hnone c])
  have hreverse : ∀ c ∈ after.reverse, isBlank c = true :=
    fun c hc => hafter c (List.mem_reverse.mp hc)
  unfold trim
  rw [List.append_assoc, List.dropWhile_append_of_pos hbefore, hdrop hne hs, List.reverse_append,
    List.dropWhile_append_of_pos hreverse]
  have hrest := hdrop (u := []) (List.reverse_ne_nil_iff.mpr hne)
    (fun c hc => hs c (List.mem_reverse.mp hc))
  rw [List.append_nil] at hrest
  rw [hrest, List.reverse_reverse]

theorem exists_append_trim (s : List Char) :
    ∃ before after, s = before ++ trim s ++ after ∧ (∀ c ∈ before, isBlank c = true) ∧
      ∀ c ∈ after, isBlank c = true := by
  refine ⟨s.takeWhile isBlank, ((s.dropWhile isBlank).reverse.takeWhile isBlank).reverse, ?_,
    fun c hc => List.mem_takeWhile_imp hc,
    fun c hc => List.mem_takeWhile_imp (List.mem_reverse.mp hc)⟩
  unfold trim
  rw [List.append_assoc, ← List.reverse_append, List.takeWhile_append_dropWhile,
    List.reverse_reverse, List.takeWhile_append_dropWhile]

end Text

open Text

namespace ServerConfig

/-- A text gives a retention of so many seconds: as an unsigned number, with blanks around it. -/
def SpellsRetention (value : String) (n : Nat) : Prop :=
  ∃ before number after, value.toList = before ++ number ++ after ∧
    (∀ c ∈ before, isBlank c = true) ∧ (∀ c ∈ after, isBlank c = true) ∧ SpellsNat number n

theorem spellsNat_trim_iff {value : String} {n : Nat} :
    SpellsNat (trim value.toList) n ↔ SpellsRetention value n := by
  constructor
  · intro h
    obtain ⟨before, after, hvalue, hbefore, hafter⟩ := exists_append_trim value.toList
    exact ⟨before, _, after, hvalue, hbefore, hafter, h⟩
  · rintro ⟨before, number, after, hvalue, hbefore, hafter, h⟩
    rwa [hvalue, trim_append hbefore hafter h.ne_nil (not_isBlank_of_spellsNat h)]

theorem readRetention_of_spelled {value : String} {n : Nat} (h : SpellsRetention value n)
    (hle : n ≤ greatestUnsigned) : readRetention value = .ok (.ofSeconds n) := by
  have hread := readUnsigned_eq_ok_iff.mpr ⟨spellsNat_trim_iff.mpr h, hle⟩
  rw [readRetention, hread]

theorem readRetention_of_unspelled {value : String}
    (h : ∀ n, SpellsRetention value n → greatestUnsigned < n) :
    readRetention value = .error (.invalidVariable .retention value) := by
  unfold readRetention
  cases hread : readUnsigned (trim value.toList) with
  | ok n =>
      obtain ⟨hspells, hle⟩ := readUnsigned_eq_ok_iff.mp hread
      exact absurd (h n (spellsNat_trim_iff.mp hspells)) (Nat.not_lt.mpr hle)
  | error _ => rfl

theorem ofVariables_of_unset {v : Variables} (h : v.retention.bind String.fromUTF8? = none) :
    ∃ config, ofVariables v = .ok config ∧ config.retention = Meter.defaultRetention := by
  unfold ofVariables
  rw [h]
  exact ⟨_, rfl, rfl⟩

section

variable {v : Variables} {value : String} (h : v.retention.bind String.fromUTF8? = some value)

include h

theorem ofVariables_of_spelled {n : Nat} (hspells : SpellsRetention value n)
    (hle : n ≤ greatestUnsigned) :
    ∃ config, ofVariables v = .ok config ∧ config.retention = .ofSeconds n := by
  unfold ofVariables
  rw [h, ofTexts, readRetention_of_spelled hspells hle]
  exact ⟨_, rfl, rfl⟩

theorem ofVariables_of_unspelled (hno : ∀ n, SpellsRetention value n → greatestUnsigned < n) :
    ofVariables v = .error (.invalidVariable .retention value) := by
  unfold ofVariables
  rw [h, ofTexts, readRetention_of_unspelled hno]
  rfl

end

/-! ### Opening the meter

Reading the settings takes any 64-bit number, and the bound on a retention belongs to the meter.  So
a start can be refused at two places, for different reasons and with different errors.
-/

theorem meter_of_second_le {c : ServerConfig} (h : Duration.second ≤ c.retention) :
    c.meter = .ok ⟨c.retention, [], h⟩ := by
  unfold meter Meter.configured Meter.new?
  rw [dif_pos h]

theorem meter_of_lt_second {c : ServerConfig} (h : ¬ Duration.second ≤ c.retention) :
    c.meter = .error (.retentionTooShort c.retention) := by
  unfold meter Meter.configured Meter.new?
  rw [dif_neg h]

end ServerConfig

namespace Launch

/-- What a start comes to, wherever the server listens. -/
def outcome : Launch → Except ConfigError Meter
  | listening _ m => .ok m
  | refused reason => .error reason

section

variable {v : Variables}

theorem ofVariables_of_refused {reason : ConfigError}
    (h : ServerConfig.ofVariables v = .error reason) : ofVariables v = .refused reason := by
  unfold ofVariables
  rw [h]

variable {config : ServerConfig} (h : ServerConfig.ofVariables v = .ok config)

include h

theorem ofVariables_of_second_le (hle : Duration.second ≤ config.retention) :
    ofVariables v = .listening config ⟨config.retention, [], hle⟩ := by
  unfold ofVariables
  simp only [h, ServerConfig.meter_of_second_le hle]

theorem ofVariables_of_lt_second (hlt : ¬ Duration.second ≤ config.retention) :
    ofVariables v = .refused (.retentionTooShort config.retention) := by
  unfold ofVariables
  simp only [h, ServerConfig.meter_of_lt_second hlt]

end

section

variable {v : Variables} {value : String} {n : Nat}

theorem listening_of_unset (h : v.retention.bind String.fromUTF8? = none) :
    ∃ config m, ofVariables v = .listening config m ∧ m.retention.nanos = 900 * 1000000000 ∧
      m.buckets = [] := by
  obtain ⟨config, hconfig, hretention⟩ := ServerConfig.ofVariables_of_unset h
  have hle : Duration.second ≤ config.retention := by
    rw [hretention]
    decide
  have hnanos : config.retention.nanos = 900 * 1000000000 := by
    rw [hretention]
    rfl
  exact ⟨config, _, ofVariables_of_second_le hconfig hle, hnanos, rfl⟩

variable (h : v.retention.bind String.fromUTF8? = some value)
  (hspells : ServerConfig.SpellsRetention value n) (hle : n ≤ greatestUnsigned)

include h hspells hle

theorem listening_of_spelled (hpos : 1 ≤ n) :
    ∃ config m, ofVariables v = .listening config m ∧ m.retention.nanos = n * 1000000000 ∧
      m.buckets = [] := by
  obtain ⟨config, hconfig, hretention⟩ := ServerConfig.ofVariables_of_spelled h hspells hle
  have hnanos := Duration.ofSeconds_nanos hle
  rw [← hretention] at hnanos
  have hsecond : Duration.second ≤ config.retention := by
    rw [Duration.le_iff, Duration.second_nanos, hnanos]
    omega
  exact ⟨config, _, ofVariables_of_second_le hconfig hsecond, hnanos, rfl⟩

/-- Zero is read without complaint, and only the meter refuses it. -/
theorem refused_of_zero (hzero : n = 0) :
    ∃ config, ServerConfig.ofVariables v = .ok config ∧
      config.meter = .error (.retentionTooShort .zero) ∧
      ofVariables v = .refused (.retentionTooShort .zero) := by
  obtain ⟨config, hconfig, hretention⟩ := ServerConfig.ofVariables_of_spelled h hspells hle
  subst hzero
  have hlt : ¬ Duration.second ≤ config.retention := by
    rw [hretention]
    decide
  have hmeter := ServerConfig.meter_of_lt_second hlt
  have hstart := ofVariables_of_lt_second hconfig hlt
  rw [hretention] at hmeter hstart
  exact ⟨config, hconfig, hmeter, hstart⟩

end

/-- Where the server is told to listen does not matter to how the start goes. -/
private theorem outcome_congr (v : Variables) (bind : Option ByteArray) :
    (ofVariables { v with bind := bind }).outcome = (ofVariables v).outcome := by
  simp only [ofVariables, ServerConfig.ofVariables, ServerConfig.ofTexts, ServerConfig.meter]
  cases v.retention.bind String.fromUTF8? with
  | none =>
      simp only
      cases Meter.configured Meter.defaultRetention <;> rfl
  | some value =>
      cases hread : ServerConfig.readRetention value with
      | error reason => simp only [hread, Except.map]
      | ok retention =>
          simp only [hread, Except.map]
          cases Meter.configured retention <;> rfl

/--
**A server starts exactly on a valid retention.**  The variable is unset or no text, or it spells
a number from one to the greatest of 64 bits, which is then the retention in seconds.  Zero is
refused by the meter, and every other text by the reader of the settings, with the text as it was
given.  The address plays no part.
-/
theorem ofVariables_listens_iff (v : Variables) :
    let text := v.retention.bind String.fromUTF8?
    ((∃ config m, ofVariables v = .listening config m) ↔
      text = none ∨ ∃ value n, text = some value ∧ ServerConfig.SpellsRetention value n ∧
        1 ≤ n ∧ n ≤ 18446744073709551615) ∧
    (text = none →
      ∃ config m, ofVariables v = .listening config m ∧
        m.retention.nanos = 900 * 1000000000 ∧ m.buckets = []) ∧
    (∀ value n, text = some value → ServerConfig.SpellsRetention value n →
      n ≤ 18446744073709551615 →
      (1 ≤ n → ∃ config m, ofVariables v = .listening config m ∧
        m.retention.nanos = n * 1000000000 ∧ m.buckets = []) ∧
      (n = 0 → ∃ config, ServerConfig.ofVariables v = .ok config ∧
        config.meter = .error (.retentionTooShort .zero) ∧
        ofVariables v = .refused (.retentionTooShort .zero))) ∧
    (∀ value, text = some value →
      (∀ n, ServerConfig.SpellsRetention value n → 18446744073709551615 < n) →
      ServerConfig.ofVariables v = .error (.invalidVariable .retention value) ∧
        ofVariables v = .refused (.invalidVariable .retention value)) ∧
    ∀ bind, (ofVariables { v with bind := bind }).outcome = (ofVariables v).outcome := by
  intro text
  refine ⟨⟨?_, ?_⟩, listening_of_unset, ?_, ?_, outcome_congr v⟩
  · rintro ⟨config, m, hlistens⟩
    cases htext : text with
    | none => exact Or.inl rfl
    | some value =>
        right
        by_cases hno : ∀ n, ServerConfig.SpellsRetention value n → greatestUnsigned < n
        · have hrefused := ofVariables_of_refused (ServerConfig.ofVariables_of_unspelled htext hno)
          rw [hlistens] at hrefused
          cases hrefused
        · simp only [not_forall, Nat.not_lt] at hno
          obtain ⟨n, hspells, hle⟩ := hno
          refine ⟨value, n, rfl, hspells, ?_, hle⟩
          by_contra hzero
          obtain ⟨-, -, -, hrefused⟩ := refused_of_zero htext hspells hle (by omega)
          rw [hlistens] at hrefused
          cases hrefused
  · rintro (hnone | ⟨value, n, hvalue, hspells, hpos, hle⟩)
    · obtain ⟨config, m, hlistens, -⟩ := listening_of_unset hnone
      exact ⟨config, m, hlistens⟩
    · obtain ⟨config, m, hlistens, -⟩ := listening_of_spelled hvalue hspells hle hpos
      exact ⟨config, m, hlistens⟩
  · intro value n hvalue hspells hle
    exact ⟨listening_of_spelled hvalue hspells hle, refused_of_zero hvalue hspells hle⟩
  · intro value hvalue hno
    have hconfig := ServerConfig.ofVariables_of_unspelled hvalue hno
    exact ⟨hconfig, ofVariables_of_refused hconfig⟩

/-- Seven seconds between an em space and a space that does not break, and an address that is no
text. -/
def paddedSeven : Variables :=
  ⟨some ⟨#[0xff]⟩, some "\u2003+007\u00a0".toUTF8⟩

theorem ofVariables_listens_iff_paddedSeven :
    paddedSeven.retention.bind String.fromUTF8? = some "\u2003+007\u00a0" ∧
    ServerConfig.SpellsRetention "\u2003+007\u00a0" 7 ∧
    ∃ config m, ofVariables paddedSeven = .listening config m ∧
      m.retention.nanos = 7 * 1000000000 ∧ m.buckets = [] := by
  have htext : paddedSeven.retention.bind String.fromUTF8? = some "\u2003+007\u00a0" := by
    decide +kernel
  have hspells : ServerConfig.SpellsRetention "\u2003+007\u00a0" 7 :=
    ⟨['\u2003'], "+007".toList, ['\u00a0'], by decide, List.forall_mem_singleton.mpr (by decide),
      List.forall_mem_singleton.mpr (by decide), .plus ⟨by decide, by decide⟩⟩
  obtain ⟨-, -, hspelled, -⟩ := ofVariables_listens_iff paddedSeven
  exact ⟨htext, hspells, (hspelled _ 7 htext hspells (by decide)).1 (by decide)⟩

end Launch

end RequestMeter

/-
Which numbers are shown for response times, and in which units.

A number with two places is read back as the hundredths that it was written from
(`read?_twoPlaces`), so it is enough to know how many hundredths there are.  They never get fewer
when a time gets longer, because no operation on the way to them turns the order around.  So the
milliseconds of all times of a unit lie between those of its shortest and its longest time, and
whole seconds are never lost.  The longest times below a second have a thousand milliseconds
(`Latency.millis_eq`): the number is rounded after the unit has been chosen.
-/
import RequestMeter.Report.Latency
import RequestMeter.Time.Written
import RequestMeter.Proofs.Number.Literal
import RequestMeter.Proofs.Number.Rounding

namespace RequestMeter

open Numeral

/-! ### Reading two places -/

/-- The two digits behind the point. -/
def placeDigits (places : Nat) : List Char :=
  (if places < 10 then ['0'] else []) ++ Nat.toDigits 10 places

private theorem placeDigits_spec {places : Nat} (h : places < 100) :
    IsDigits (placeDigits places) ∧ (placeDigits places).length = 2 ∧
      ofDigits (placeDigits places) = places := by
  revert places
  decide

theorem toList_twoPlaces (hundredths : Nat) :
    (twoPlaces hundredths).toList =
      Nat.toDigits 10 (hundredths / 100) ++ '.' :: placeDigits (hundredths % 100) := by
  unfold twoPlaces placeDigits
  change ((hundredths / 100).repr ++ "." ++ _ ++ (hundredths % 100).repr).toList = _
  simp only [String.toList_append, Nat.toList_repr]
  split <;> simp

/-- A number with two places is read back as it was written. -/
theorem read?_twoPlaces (hundredths : Nat) :
    Decimal.read? (twoPlaces hundredths).toList = some ⟨hundredths, -2⟩ := by
  obtain ⟨hdigits, hlength, hvalue⟩ := placeDigits_spec (Nat.mod_lt hundredths (by decide))
  have hread := Decimal.read?_of_fraction (isWhole_toDigits (hundredths / 100))
    Decimal.readPower?_nil hdigits rfl
  have hcoefficient : ofDigits (Nat.toDigits 10 (hundredths / 100) ++
      placeDigits (hundredths % 100)) = hundredths := by
    rw [ofDigits_append, Nat.ofDigitChars_eq_ofDigitChars_zero, hlength, ofDigits_toDigits]
    change 10 ^ 2 * (hundredths / 100) + ofDigits _ = hundredths
    rw [hvalue]
    exact Nat.div_add_mod hundredths 100
  rw [List.append_nil, hcoefficient, hlength, ← toList_twoPlaces] at hread
  exact hread

namespace Latency

/-- The unit in which a time is shown. -/
def unit : Latency → TimeUnit
  | microseconds _ => .microsecond
  | milliseconds _ => .millisecond
  | seconds _ => .second

/-- The number that is shown. -/
def number : Latency → Decimal
  | microseconds n => ⟨n, 0⟩
  | milliseconds h => ⟨h, -2⟩
  | seconds h => ⟨h, -2⟩

/-- The text has the number and the unit, and nothing else. -/
theorem exists_text_eq (l : Latency) :
    ∃ shown, l.text.toList = shown ++ ' ' :: l.unit.symbol ∧
      Decimal.read? shown = some l.number := by
  cases l with
  | microseconds n =>
      refine ⟨Nat.toDigits 10 n, ?_, Decimal.read?_toDigits n⟩
      change (n.repr ++ " µs").toList = _
      rw [String.toList_append, Nat.toList_repr]
      rfl
  | milliseconds h => exact ⟨_, String.toList_append, read?_twoPlaces h⟩
  | seconds h => exact ⟨_, String.toList_append, read?_twoPlaces h⟩

/-- So many hundredths. -/
private theorem toRat_hundredths (h : Nat) : (Decimal.mk h (-2)).toRat = (h : Rat) / 100 := by
  have hpower : (10 : Rat) ^ (-2 : Int) = 1 / 100 := by decide +kernel
  rw [Decimal.toRat, hpower, mul_one_div]

private theorem one_le_toRat_hundredths {h : Nat} (hle : 100 ≤ h) :
    1 ≤ (Decimal.mk h (-2)).toRat := by
  rw [toRat_hundredths, le_div_iff₀ (by decide), one_mul]
  exact_mod_cast hle

private theorem toRat_hundredths_lt {h : Nat} (hlt : h < 100000) :
    (Decimal.mk h (-2)).toRat < 1000 := by
  have hcast : (h : Rat) < 100000 := by exact_mod_cast hlt
  rw [toRat_hundredths, div_lt_iff₀ (by decide)]
  linarith

private theorem toRat_natural (n : Nat) : (Decimal.mk n 0).toRat = n := by
  rw [Decimal.toRat, Rat.zpow_zero, mul_one]

/-! ### Milliseconds

The quotient of two doubles is hard to follow for every time and easy to evaluate for one.  As the
order is kept, a few times are enough: one millisecond, both sides of the tie below a thousand of
them, and the last microsecond before a second.
-/

/-- The milliseconds of a number of microseconds, in hundredths. -/
def millis (micros : Nat) : Nat := (Binary64.ofNat micros / Binary64.ofNat 1000).hundredths

theorem millis_mono {m n : Nat} (h : m ≤ n) : millis m ≤ millis n :=
  Binary64.hundredths_mono (Binary64.toRat_div_mono (Binary64.toRat_ofNat_nonneg m)
    (Binary64.toRat_ofNat_mono h) (Binary64.toRat_ofNat_nonneg 1000))

/-- From one millisecond on the number is at least one. -/
theorem le_millis {m : Nat} (h : 1000 ≤ m) : 100 ≤ millis m := by
  have hleast : millis 1000 = 100 := by decide +kernel
  exact hleast ▸ millis_mono h

/-- The last time before the tie is shown below a thousand. -/
theorem millis_lt {m : Nat} (h : m < 999995) : millis m < 100000 := by
  have hlast : millis 999994 = 99999 := by decide +kernel
  have hle := millis_mono (Nat.le_of_lt_succ h)
  omega

/-- The last five microseconds before a second are rounded up. -/
theorem millis_eq {m : Nat} (hlow : 999995 ≤ m) (hhigh : m ≤ 999999) : millis m = 100000 := by
  have hfirst : millis 999995 = 100000 := by decide +kernel
  have hlast : millis 999999 = 100000 := by decide +kernel
  have hge := millis_mono hlow
  have hle := millis_mono hhigh
  omega

/-! ### Whole seconds are never lost -/

/-- From one second on the number is at least one. -/
theorem le_hundredths_inSeconds {d : Duration} (h : 1000000000 ≤ d.nanos) :
    100 ≤ d.inSeconds.hundredths := by
  have hwhole : 1 ≤ d.seconds := by
    unfold Duration.seconds
    omega
  have hleast : Duration.second.inSeconds.hundredths = 100 := by decide +kernel
  have hsecond : Duration.second.inSeconds.toRat ≤ d.inSeconds.toRat :=
    Binary64.toRat_add_mono (Binary64.toRat_ofNat_nonneg _)
      (Binary64.toRat_div_nonneg (Binary64.toRat_ofNat_nonneg _) (Binary64.toRat_ofNat_nonneg _))
      (Binary64.toRat_ofNat_mono hwhole)
      (Binary64.toRat_div_mono (Binary64.toRat_ofNat_nonneg _)
        (Binary64.toRat_ofNat_mono (Nat.zero_le _)) (Binary64.toRat_ofNat_nonneg _))
  exact hleast ▸ Binary64.hundredths_mono hsecond

/-! ### The unit -/

variable {d : Duration}

theorem ofDuration_of_lt (h : d.nanos < 1000000) : ofDuration d = .microseconds d.micros := by
  unfold ofDuration
  exact if_pos (by unfold Duration.micros; omega)

theorem ofDuration_of_le_of_lt (hlow : 1000000 ≤ d.nanos) (hhigh : d.nanos < 1000000000) :
    ofDuration d = .milliseconds (millis d.micros) := by
  unfold ofDuration
  dsimp only
  rw [if_neg (by unfold Duration.micros; omega), if_pos (by unfold Duration.micros; omega)]
  rfl

theorem ofDuration_of_le (h : 1000000000 ≤ d.nanos) :
    ofDuration d = .seconds d.inSeconds.hundredths := by
  unfold ofDuration
  dsimp only
  rw [if_neg (by unfold Duration.micros; omega), if_neg (by unfold Duration.micros; omega)]

/--
**The number of a time fits its unit, but for the last milliseconds.**  Below a millisecond a time
is shown in microseconds, below a thousand of them; below a second in milliseconds, at least one of
them; and from there on in seconds, at least one of them.  The milliseconds are below a thousand
up to 999.995 of them, and all times from there to the second are shown as a thousand.
-/
theorem ofDuration_fits_unit (d : Duration) :
    let l := ofDuration d
    (∃ shown, l.text.toList = shown ++ ' ' :: l.unit.symbol ∧
      Decimal.read? shown = some l.number) ∧
    (d.nanos < 1000000 → l.unit = .microsecond ∧ l.number.toRat < 1000) ∧
    (1000000 ≤ d.nanos → d.nanos < 1000000000 →
      l.unit = .millisecond ∧ 1 ≤ l.number.toRat ∧
      (d.nanos < 999995000 → l.number.toRat < 1000) ∧
      (999995000 ≤ d.nanos → l.number.toRat = 1000)) ∧
    (1000000000 ≤ d.nanos → l.unit = .second ∧ 1 ≤ l.number.toRat) := by
  intro l
  refine ⟨exists_text_eq l, fun hlt => ?_, fun hlow hhigh => ?_, fun hle => ?_⟩
  · have hl : l = .microseconds d.micros := ofDuration_of_lt hlt
    have hmicros : d.micros < 1000 := by
      unfold Duration.micros
      omega
    rw [hl]
    refine ⟨rfl, ?_⟩
    rw [number, toRat_natural]
    exact_mod_cast hmicros
  · have hl : l = .milliseconds (millis d.micros) := ofDuration_of_le_of_lt hlow hhigh
    rw [hl]
    unfold Duration.micros
    refine ⟨rfl, one_le_toRat_hundredths (le_millis (by omega)), fun hlt => ?_, fun hge => ?_⟩
    · exact toRat_hundredths_lt (millis_lt (by omega))
    · have hmillis : millis (d.nanos / 1000) = 100000 := millis_eq (by omega) (by omega)
      rw [number, hmillis, toRat_hundredths]
      norm_num
  · have hl : l = .seconds d.inSeconds.hundredths := ofDuration_of_le hle
    rw [hl]
    exact ⟨rfl, one_le_toRat_hundredths (le_hundredths_inSeconds hle)⟩

/-- One microsecond before the tie, and the second right after the last milliseconds. -/
theorem ofDuration_fits_unit_around :
    let before := ofDuration ⟨999994999, by decide⟩
    let second := ofDuration .second
    (∃ shown, before.text.toList = shown ++ " ms".toList ∧
      Decimal.read? shown = some before.number) ∧
    before.unit = .millisecond ∧ before.number.toRat < 1000 ∧
    second.unit = .second ∧ 1 ≤ second.number.toRat := by
  intro before second
  obtain ⟨htext, -, hmillis, -⟩ := ofDuration_fits_unit ⟨999994999, by decide⟩
  obtain ⟨-, -, -, hsecond⟩ := ofDuration_fits_unit .second
  obtain ⟨hunit, -, hlt, -⟩ := hmillis (by decide) (by decide)
  obtain ⟨hunit', hone⟩ := hsecond (by decide)
  rw [hunit] at htext
  exact ⟨htext, hunit, hlt (by decide), hunit', hone⟩

/-- A microsecond less than a second is shown as a thousand milliseconds. -/
theorem thousand_milliseconds :
    let l := ofDuration ⟨999999000, by decide⟩
    l.text = "1000.00 ms" ∧ l.unit = .millisecond ∧ ¬ l.number.toRat < 1000 := by
  intro l
  have hl : l = .milliseconds 100000 := by decide +kernel
  have hnumber : (Decimal.mk 100000 (-2)).toRat = 1000 := by
    rw [toRat_hundredths]
    norm_num
  rw [hl]
  exact ⟨by decide +kernel, rfl, not_lt_of_ge (le_of_eq hnumber.symm)⟩

end Latency

end RequestMeter

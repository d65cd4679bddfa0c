/-
Doubles that are read back from a decimal.

The greater a pattern, the more units it stands for, and the pattern below a number of units that
some pattern stands for is that pattern again (`patternBelow_units`).  So a value that a finite
double has exactly is nearest to this double (`nearest_toRat`).  The decimal that is written for a
double reads back as it: where the search stops on a grid it has tried just that, and where it
does not stop it writes the exact value (`nearest_shortest`).
-/
import RequestMeter.Number.Shortest
import Mathlib.Algebra.Order.Field.Rat
import Mathlib.Tactic.Linarith

namespace RequestMeter.Binary64

/-! ### Units grow with the pattern -/

theorem units_of_lt {p : Nat} (h : p < hiddenBit) : units p = p := by
  have hquotient : p / hiddenBit = 0 := Nat.div_eq_of_lt h
  simp only [units, hquotient]

/-- A pattern of a binade: its exponent counts one more than the doublings, and then comes its
fraction. -/
structure InBinade (p e f : Nat) : Prop where
  pattern_eq : p = (e + 1) * hiddenBit + f
  fraction_lt : f < hiddenBit

/-- A pattern has no hidden bit, or it is of some binade. -/
theorem lt_or_inBinade (p : Nat) : p < hiddenBit ∨ ∃ e f, InBinade p e f := by
  have hpos : 0 < hiddenBit := by decide
  cases hquotient : p / hiddenBit with
  | zero => exact Or.inl ((Nat.div_eq_zero_iff_lt hpos).mp hquotient)
  | succ e =>
      have hsplit := Nat.div_add_mod p hiddenBit
      rw [hquotient, Nat.mul_comm] at hsplit
      exact Or.inr ⟨e, p % hiddenBit, hsplit.symm, Nat.mod_lt p hpos⟩

namespace InBinade

variable {p e f : Nat} (h : InBinade p e f)

include h

/-- The hidden bit counts, and each exponent after the first doubles. -/
theorem units_eq : units p = (hiddenBit + f) * 2 ^ e := by
  have hpos : 0 < hiddenBit := by decide
  have hquotient : p / hiddenBit = e + 1 := by
    rw [h.pattern_eq, Nat.mul_comm, Nat.mul_add_div hpos, Nat.div_eq_of_lt h.fraction_lt,
      Nat.add_zero]
  have hrest : p % hiddenBit = f := by
    rw [h.pattern_eq, Nat.mul_comm, Nat.mul_add_mod, Nat.mod_eq_of_lt h.fraction_lt]
  unfold units
  rw [hquotient, hrest]
  exact Nat.shiftLeft_eq ..

/-- The next pattern is of the same binade or the first one of the next. -/
theorem succ : InBinade (p + 1) e (f + 1) ∨ f + 1 = hiddenBit ∧ InBinade (p + 1) (e + 1) 0 := by
  have hp := h.pattern_eq
  have hf := h.fraction_lt
  rcases Nat.lt_or_ge (f + 1) hiddenBit with hnext | hnext
  · exact Or.inl ⟨by omega, hnext⟩
  · refine Or.inr ⟨by omega, ?_, by decide⟩
    rw [Nat.add_mul (e + 1) 1]
    omega

/-- Within a binade and at its end the units grow by the same step. -/
theorem units_succ : units (p + 1) = (hiddenBit + f + 1) * 2 ^ e := by
  rcases h.succ with hsame | ⟨hlast, hnext⟩
  · rw [hsame.units_eq, Nat.add_assoc]
  · rw [hnext.units_eq, Nat.pow_succ', ← Nat.mul_assoc]
    congr 1
    omega

private theorem log2_units : (units p).log2 = 52 + e := by
  have hpow : 0 < 2 ^ e := Nat.two_pow_pos e
  have hf := h.fraction_lt
  have hhidden : hiddenBit = 2 ^ 52 := by decide
  have hne : (hiddenBit + f) * 2 ^ e ≠ 0 := Nat.mul_ne_zero (by omega) (by omega)
  have hnext : 52 + e + 1 = 53 + e := by omega
  rw [h.units_eq, Nat.log2_eq_iff hne, hnext, Nat.pow_add, Nat.pow_add]
  constructor
  · exact Nat.mul_le_mul_right _ (by omega)
  · exact Nat.mul_lt_mul_of_pos_right (by omega) hpow

end InBinade

theorem units_lt_units_succ (p : Nat) : units p < units (p + 1) := by
  rcases lt_or_inBinade p with hlt | ⟨e, f, h⟩
  · rw [units_of_lt hlt]
    rcases Nat.lt_or_ge (p + 1) hiddenBit with hnext | hnext
    · rw [units_of_lt hnext]
      exact Nat.lt_succ_self p
    · -- the last pattern without a hidden bit
      obtain rfl : p = hiddenBit - 1 := by omega
      decide
  · rw [h.units_eq, h.units_succ]
    exact Nat.mul_lt_mul_of_pos_right (Nat.lt_succ_self _) (Nat.two_pow_pos e)

theorem patternBelow_units (p : Nat) : patternBelow (units p) = p := by
  dsimp only [patternBelow]
  rcases lt_or_inBinade p with hlt | ⟨e, f, h⟩
  · have hsmall : p.log2 - 52 = 0 := by
      by_cases hzero : p = 0
      · rw [hzero]
        rfl
      · have hlog := (Nat.log2_lt (k := 52) hzero).mpr hlt
        omega
    rw [units_of_lt hlt, hsmall]
    simp
  · have hp := h.pattern_eq
    rw [Nat.add_mul] at hp
    rw [h.log2_units, Nat.add_sub_cancel_left, h.units_eq, Nat.shiftRight_eq_div_pow,
      Nat.mul_div_cancel _ (Nat.two_pow_pos e)]
    omega

private theorem floor_natCast (n : Nat) : (n : Rat).floor.toNat = n := by
  rw [← Rat.intCast_natCast, Rat.floor_intCast, Int.toNat_natCast]

/-- A pattern is nearest to the units it stands for. -/
theorem nearestPattern_units {p : Nat} (h : p < infinity) : nearestPattern (units p : Rat) = p := by
  have hnext : (units p : Rat) < units (p + 1) := by exact_mod_cast units_lt_units_succ p
  have hmiddle : (units p : Rat) < ((units p + units (p + 1) : Nat) : Rat) / 2 := by
    rw [lt_div_iff₀ (by decide)]
    push_cast
    linarith
  unfold nearestPattern
  simp only [floor_natCast, patternBelow_units]
  rw [if_pos hmiddle]
  exact Nat.min_eq_right (Nat.le_of_lt h)

/-! ### A double is its sign and its size -/

private theorem pattern_lt (x : Binary64) :
    x.pattern < 0x8000000000000000 := Nat.mod_lt _ (by decide)

theorem toNat_bits (x : Binary64) :
    x.bits.toNat = (if x.isNegative then 0x8000000000000000 else 0) + x.pattern := by
  have hlt := x.bits.toNat_lt
  unfold isNegative pattern
  split
  case isTrue h =>
      rw [decide_eq_true_iff] at h
      omega
  case isFalse h =>
      rw [decide_eq_true_iff] at h
      omega

theorem toNat_bits_abs (x : Binary64) : x.abs.bits.toNat = x.pattern := by
  have hsize : 0x8000000000000000 < UInt64.size := by decide
  exact UInt64.toNat_ofNat_of_lt' (Nat.lt_trans x.pattern_lt hsize)

theorem isNegative_abs (x : Binary64) : x.abs.isNegative = false := by
  have hlt := x.pattern_lt
  rw [isNegative, toNat_bits_abs, decide_eq_false_iff_not]
  omega

theorem pattern_abs (x : Binary64) : x.abs.pattern = x.pattern := by
  rw [pattern, toNat_bits_abs]
  exact Nat.mod_eq_of_lt x.pattern_lt

theorem isFinite_abs (x : Binary64) : x.abs.isFinite = x.isFinite := by
  rw [isFinite, pattern_abs, isFinite]

/-- The double of a sign and a size. -/
def withSign (negative : Bool) (size : Binary64) : Binary64 :=
  ⟨UInt64.ofNat ((if negative then 0x8000000000000000 else 0) + size.pattern)⟩

/-- A double is its sign and its size, zeros included. -/
theorem withSign_abs (x : Binary64) : withSign x.isNegative x.abs = x := by
  rw [withSign, pattern_abs, ← toNat_bits, UInt64.ofNat_toNat]

/-! ### Values that doubles have

A value that a double has is its own lower neighbour, so it is not rounded at all.  That makes
reading back a matter of exact values, without any estimate of how near something is.
-/

section

variable {x : Binary64} (hsign : x.isNegative = false)

include hsign

theorem toRat_of_nonneg : x.toRat = units x.pattern * unit := by
  unfold toRat
  rw [hsign]
  rfl

theorem ofNat_pattern : (⟨UInt64.ofNat x.pattern⟩ : Binary64) = x := by
  have hbits := x.toNat_bits
  rw [hsign, if_neg Bool.false_ne_true, Nat.zero_add] at hbits
  rw [← hbits, UInt64.ofNat_toNat]

theorem nearest_toRat (hfinite : x.isFinite = true) : nearest x.toRat = x := by
  have hunit : 0 < unit := Rat.zpow_pos (by decide)
  have hlt : x.pattern < infinity := of_decide_eq_true hfinite
  have hnonneg : 0 ≤ (units x.pattern : Rat) * unit := by positivity
  have hunits : (units x.pattern : Rat) * unit / unit = units x.pattern :=
    mul_div_cancel_right₀ _ (ne_of_gt hunit)
  rw [toRat_of_nonneg hsign, nearest, if_neg (not_lt.mpr hnonneg), hunits,
    nearestPattern_units hlt, ofNat_pattern hsign]

end

/-! ### The decimal that is written

The search for a short decimal ends in two ways, and each is right for a reason of its own: a
decimal on a grid has been tried, and the exact decimal has the value of the double.
-/

/-- A negative power of two is a multiple of the same power of ten. -/
private theorem exists_two_zpow_neg_eq (n : Nat) :
    ∃ k : Nat, (2 : Rat) ^ (-(n : Int)) = k * (10 : Rat) ^ (-(n : Int)) := by
  have hten : (10 : Rat) ^ n = 5 ^ n * 2 ^ n := by rw [← mul_pow]; norm_num
  refine ⟨5 ^ n, ?_⟩
  rw [Rat.zpow_neg, Rat.zpow_neg, Rat.zpow_natCast, Rat.zpow_natCast, hten, mul_inv]
  push_cast
  rw [← mul_assoc, mul_inv_cancel₀ (by positivity), one_mul]

theorem exactDecimal_toRat {x : Binary64} (hsign : x.isNegative = false) :
    x.exactDecimal.toRat = x.toRat := by
  obtain ⟨k, hk⟩ : ∃ k : Nat, unit = k * (10 : Rat) ^ (-1074 : Int) := exists_two_zpow_neg_eq 1074
  have hten : (10 : Rat) ^ (-1074 : Int) ≠ 0 := ne_of_gt (Rat.zpow_pos (by decide))
  have hvalue : x.toRat = ((units x.pattern * k : Nat) : Rat) * (10 : Rat) ^ (-1074 : Int) := by
    rw [toRat_of_nonneg hsign, hk, ← mul_assoc, Nat.cast_mul]
  unfold exactDecimal Decimal.toRat
  rw [hvalue, mul_div_cancel_right₀ _ hten, floor_natCast]

private theorem readsBack_of_onGrid? {x : Binary64} {exponent : Int} {d : Decimal}
    (h : x.onGrid? exponent = some d) : x.readsBack d = true := by
  dsimp only [onGrid?] at h
  split at h
  case h_1 => cases h
  case h_2 hlower hupper => exact Option.some.inj h ▸ hlower
  case h_3 hlower hupper => exact Option.some.inj h ▸ hupper
  case h_4 hlower hupper =>
      split at h
      · exact Option.some.inj h ▸ hlower
      · split at h
        · exact Option.some.inj h ▸ hupper
        · split at h
          · exact Option.some.inj h ▸ hlower
          · exact Option.some.inj h ▸ hupper

section

variable {x : Binary64} (hsign : x.isNegative = false) (hfinite : x.isFinite = true)

include hsign hfinite

theorem readsBack_shortestFrom (exponent : Int) (finer : Nat) :
    x.readsBack (x.shortestFrom exponent finer) = true := by
  induction finer generalizing exponent with
  | zero =>
      have hexact := exactDecimal_toRat hsign
      rw [shortestFrom, readsBack, hexact, nearest_toRat hsign hfinite]
      exact decide_eq_true rfl
  | succ finer ih =>
      rw [shortestFrom]
      split
      case h_1 hfound => exact readsBack_of_onGrid? hfound
      case h_2 => exact ih _

/-- What is written for a finite double that is not negative reads back as this double. -/
theorem nearest_shortest : nearest x.shortest.toRat = x :=
  of_decide_eq_true (readsBack_shortestFrom hsign hfinite _ _)

end

/-- No digit but a zero could be left of a decimal that stands for nothing. -/
theorem shortest_coefficient_ne_zero {x : Binary64} (hsign : x.isNegative = false)
    (hfinite : x.isFinite = true) (hne : x.pattern ≠ 0) : x.shortest.coefficient ≠ 0 := by
  intro hzero
  have hback := nearest_shortest hsign hfinite
  have hnone : x.shortest.toRat = 0 := by
    rw [Decimal.toRat, hzero]
    simp
  rw [hnone] at hback
  rw [← hback] at hne
  exact hne (by decide +kernel)

end RequestMeter.Binary64

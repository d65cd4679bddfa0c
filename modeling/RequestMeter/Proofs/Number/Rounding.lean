/-
Rounding keeps the order.

To round is to choose between two neighbours, and the choice depends on which of them is nearer and,
halfway, on the lower one alone (`nearer`).  A greater value between the same neighbours is never
given the lower one of them for the upper one (`nearer_mono`), and between other neighbours it is
given one of those.  So it is with the patterns of doubles, whose neighbours enclose every number of
units (`units_patternBelow_le_and_lt`), and with whole hundredths.  What is
computed by sums and quotients of rounded numbers therefore keeps the order as well
(`toRat_nearest_mono`, `hundredths_mono`), and a bound on it is told by one value at the bound.
-/
import RequestMeter.Number.Fixed
import RequestMeter.Time.InSeconds
import RequestMeter.Proofs.Number.Nearest
import Mathlib.Order.Monotone.Basic

namespace RequestMeter

/-! ### The nearer of two neighbours -/

/-- The neighbour that a position is nearer to, halfway the one that is preferred. -/
def nearer {α : Type} (below above : α) (position middle : Rat) (preferBelow : Prop)
    [Decidable preferBelow] : α :=
  if position < middle then below
  else if middle < position then above
  else if preferBelow then below
  else above

section

variable {α : Type} {below above : α} {middle : Rat} {preferBelow : Prop} [Decidable preferBelow]

private theorem nearer_of_lt {position : Rat} (h : position < middle) :
    nearer below above position middle preferBelow = below := if_pos h

private theorem nearer_of_gt {position : Rat} (h : middle < position) :
    nearer below above position middle preferBelow = above := by
  unfold nearer
  rw [if_neg (not_lt_of_gt h), if_pos h]

variable [Preorder α] (h : below ≤ above)

include h

/-- Whatever is chosen, it is one of the neighbours. -/
private theorem le_nearer_and_le (position : Rat) :
    below ≤ nearer below above position middle preferBelow ∧
      nearer below above position middle preferBelow ≤ above := by
  unfold nearer
  split_ifs
  · exact ⟨le_refl _, h⟩
  · exact ⟨h, le_refl _⟩
  · exact ⟨le_refl _, h⟩
  · exact ⟨h, le_refl _⟩

private theorem le_nearer (position : Rat) :
    below ≤ nearer below above position middle preferBelow :=
  (le_nearer_and_le h position).1

private theorem nearer_le (position : Rat) :
    nearer below above position middle preferBelow ≤ above :=
  (le_nearer_and_le h position).2

/-- Neighbours further up do not give less. -/
theorem nearer_le_nearer {below' above' : α} {middle' : Rat} {preferBelow' : Prop}
    [Decidable preferBelow'] (h' : below' ≤ above') (hle : above ≤ below')
    (position position' : Rat) :
    nearer below above position middle preferBelow ≤
      nearer below' above' position' middle' preferBelow' :=
  le_trans (nearer_le h position) (le_trans hle (le_nearer h' position'))

theorem nearer_mono {position position' : Rat} (hle : position ≤ position') :
    nearer below above position middle preferBelow ≤
      nearer below above position' middle preferBelow := by
  rcases lt_trichotomy position middle with hlt | heq | hgt
  · rw [nearer_of_lt hlt]
    exact le_nearer h position'
  · rcases lt_or_eq_of_le (heq ▸ hle) with hlt | rfl
    · rw [nearer_of_gt hlt]
      exact nearer_le h position
    · rw [heq]
  · rw [nearer_of_gt (lt_of_lt_of_le hgt hle)]
    exact nearer_le h position

end

namespace Binary64

/-! ### The patterns around a number of units -/

theorem strictMono_units : StrictMono units := strictMono_nat_of_lt_succ units_lt_units_succ

/-- Where the hidden bit is needed, the exponent takes what is more than 53 bits. -/
private theorem exists_inBinade_patternBelow {n : Nat} (h : hiddenBit ≤ n) :
    ∃ e f, InBinade (patternBelow n) e f ∧ hiddenBit + f = n / 2 ^ e := by
  have hhidden : hiddenBit = 2 ^ 52 := by decide
  have hne : n ≠ 0 := by
    rintro rfl
    exact absurd h (by decide)
  have hlog : 52 ≤ n.log2 := (Nat.le_log2 hne).mpr (hhidden ▸ h)
  obtain ⟨e, he⟩ := Nat.exists_eq_add_of_le hlog
  have hlow : 2 ^ 52 ≤ n / 2 ^ e := by
    rw [Nat.le_div_iff_mul_le (Nat.two_pow_pos e), ← Nat.pow_add, ← he]
    exact Nat.log2_self_le hne
  have hhigh : n / 2 ^ e < 2 ^ 53 := by
    have hnext : 53 + e = n.log2 + 1 := by omega
    rw [Nat.div_lt_iff_lt_mul (Nat.two_pow_pos e), ← Nat.pow_add, hnext]
    exact Nat.lt_log2_self
  have hpattern : patternBelow n = e * hiddenBit + n / 2 ^ e := by
    have hexponent : n.log2 - 52 = e := by omega
    dsimp only [patternBelow]
    rw [hexponent, Nat.shiftRight_eq_div_pow]
  refine ⟨e, n / 2 ^ e - hiddenBit, ⟨?_, by omega⟩, by omega⟩
  rw [hpattern, Nat.add_mul]
  omega

/-- The pattern below a number of units and the next one enclose the number. -/
theorem units_patternBelow_le_and_lt (n : Nat) :
    units (patternBelow n) ≤ n ∧ n < units (patternBelow n + 1) := by
  rcases Nat.lt_or_ge n hiddenBit with hlt | hge
  · have hbelow : patternBelow n = n := by
      have hback := patternBelow_units n
      rwa [units_of_lt hlt] at hback
    have hnext := units_lt_units_succ n
    rw [hbelow, units_of_lt hlt]
    rw [units_of_lt hlt] at hnext
    exact ⟨Nat.le_refl n, hnext⟩
  · obtain ⟨e, f, hbinade, hdiv⟩ := exists_inBinade_patternBelow hge
    have hrest := Nat.mod_lt n (Nat.two_pow_pos e)
    have hsplit := Nat.div_add_mod n (2 ^ e)
    rw [Nat.mul_comm] at hsplit
    rw [hbinade.units_eq, hbinade.units_succ, hdiv, Nat.add_mul, Nat.one_mul]
    omega

theorem patternBelow_mono {m n : Nat} (h : m ≤ n) : patternBelow m ≤ patternBelow n := by
  have hlow := (units_patternBelow_le_and_lt m).1
  have hhigh := (units_patternBelow_le_and_lt n).2
  have hlt : units (patternBelow m) < units (patternBelow n + 1) := by omega
  exact Nat.le_of_lt_succ (strictMono_units.lt_iff_lt.mp hlt)

/-! ### Rounding to a pattern

Infinity is where rounding stops, and there is no neighbour beyond it.  So the order is shown for
rounding without such an end, and cut off at infinity afterwards.
-/

/-- The pattern that is nearest, were there no greatest one. -/
def unboundedPattern (u : Rat) : Nat :=
  let below := patternBelow u.floor.toNat
  nearer below (below + 1) u (((units below + units (below + 1) : Nat) : Rat) / 2) (below % 2 = 0)

private theorem nearestPattern_eq (u : Rat) :
    nearestPattern u = min infinity (unboundedPattern u) := rfl

theorem nearestPattern_mono {u v : Rat} (h : u ≤ v) : nearestPattern u ≤ nearestPattern v := by
  have hbelow : patternBelow u.floor.toNat ≤ patternBelow v.floor.toNat :=
    patternBelow_mono (Int.toNat_le_toNat (Rat.floor_monotone h))
  have hle : unboundedPattern u ≤ unboundedPattern v := by
    unfold unboundedPattern
    dsimp only
    rcases Nat.lt_or_eq_of_le hbelow with hlt | heq
    · exact nearer_le_nearer (Nat.le_succ _) (Nat.le_succ _) hlt u v
    · rw [heq]
      exact nearer_mono (Nat.le_succ _) h
  rw [nearestPattern_eq, nearestPattern_eq]
  exact min_le_min_left infinity hle

/-- Rounding a number that is not negative leaves its sign alone, and no number is rounded to more
than infinity. -/
theorem sign_and_pattern_nearest {q : Rat} (h : 0 ≤ q) :
    (nearest q).isNegative = false ∧ (nearest q).pattern = nearestPattern (q / unit) := by
  have hle : nearestPattern (q / unit) ≤ infinity := Nat.min_le_left _ _
  have hinfinity : infinity < 0x8000000000000000 := by decide
  have hbits : (nearest q).bits.toNat = nearestPattern (q / unit) := by
    rw [nearest, if_neg (not_lt_of_ge h)]
    exact UInt64.toNat_ofNat_of_lt' (Nat.lt_trans (Nat.lt_of_le_of_lt hle hinfinity) (by decide))
  constructor
  · rw [isNegative, hbits, decide_eq_false_iff_not]
    omega
  · rw [pattern, hbits]
    exact Nat.mod_eq_of_lt (by omega)

theorem toRat_nearest {q : Rat} (h : 0 ≤ q) :
    (nearest q).toRat = units (nearestPattern (q / unit)) * unit := by
  obtain ⟨hsign, hpattern⟩ := sign_and_pattern_nearest h
  rw [toRat_of_nonneg hsign, hpattern]

private theorem unit_pos : 0 < unit := Rat.zpow_pos (by decide)

theorem pattern_nearest_mono {p q : Rat} (hp : 0 ≤ p) (h : p ≤ q) :
    (nearest p).pattern ≤ (nearest q).pattern := by
  rw [(sign_and_pattern_nearest hp).2, (sign_and_pattern_nearest (le_trans hp h)).2]
  exact nearestPattern_mono (div_le_div_of_nonneg_right h (le_of_lt unit_pos))

theorem toRat_nearest_nonneg {q : Rat} (h : 0 ≤ q) : 0 ≤ (nearest q).toRat := by
  rw [toRat_nearest h]
  exact mul_nonneg (Nat.cast_nonneg _) (le_of_lt unit_pos)

theorem toRat_nearest_mono {p q : Rat} (hp : 0 ≤ p) (h : p ≤ q) :
    (nearest p).toRat ≤ (nearest q).toRat := by
  have hunits : units (nearest p).pattern ≤ units (nearest q).pattern :=
    strictMono_units.monotone (pattern_nearest_mono hp h)
  rw [toRat_of_nonneg (sign_and_pattern_nearest hp).1,
    toRat_of_nonneg (sign_and_pattern_nearest (le_trans hp h)).1]
  exact mul_le_mul_of_nonneg_right (Nat.cast_le.mpr hunits) (le_of_lt unit_pos)

/-! ### What is computed -/

theorem toRat_ofNat_nonneg (n : Nat) : 0 ≤ (ofNat n).toRat :=
  toRat_nearest_nonneg (Nat.cast_nonneg n)

theorem toRat_ofNat_mono {m n : Nat} (h : m ≤ n) : (ofNat m).toRat ≤ (ofNat n).toRat :=
  toRat_nearest_mono (Nat.cast_nonneg m) (Nat.cast_le.mpr h)

/-- A 64-bit number is far below infinity. -/
theorem isFinite_ofNat {n : Nat} (h : n ≤ 18446744073709551615) : (ofNat n).isFinite = true := by
  have hgreatest : (ofNat 18446744073709551615).pattern < infinity := by decide +kernel
  have hle : (ofNat n).pattern ≤ (ofNat 18446744073709551615).pattern :=
    pattern_nearest_mono (Nat.cast_nonneg n) (Nat.cast_le.mpr h)
  exact decide_eq_true (Nat.lt_of_le_of_lt hle hgreatest)

theorem toRat_div_nonneg {x y : Binary64} (hx : 0 ≤ x.toRat) (hy : 0 ≤ y.toRat) :
    0 ≤ (x / y).toRat := by
  rw [div_def]
  exact toRat_nearest_nonneg (div_nonneg hx hy)

theorem toRat_div_mono {x x' y : Binary64} (hx : 0 ≤ x.toRat) (hle : x.toRat ≤ x'.toRat)
    (hy : 0 ≤ y.toRat) : (x / y).toRat ≤ (x' / y).toRat := by
  rw [div_def, div_def]
  exact toRat_nearest_mono (div_nonneg hx hy) (div_le_div_of_nonneg_right hle hy)

theorem toRat_add_mono {x x' y y' : Binary64} (hx : 0 ≤ x.toRat) (hy : 0 ≤ y.toRat)
    (hxx' : x.toRat ≤ x'.toRat) (hyy' : y.toRat ≤ y'.toRat) :
    (x + y).toRat ≤ (x' + y').toRat := by
  rw [add_def, add_def]
  exact toRat_nearest_mono (add_nonneg hx hy) (add_le_add hxx' hyy')

end Binary64

/-- Whole seconds are rounded once, as the number that they are. -/
theorem Duration.inSeconds_ofSeconds {n : Nat} (h : n ≤ 18446744073709551615) :
    (ofSeconds n).inSeconds = Binary64.ofNat n := by
  have hnanos := ofSeconds_nanos h
  have hseconds : (ofSeconds n).seconds = n := by
    rw [seconds, hnanos]
    exact Nat.mul_div_cancel n (by decide)
  have hrest : (ofSeconds n).subsecNanos = 0 := by
    rw [subsecNanos, hnanos]
    exact Nat.mul_mod_left n _
  have hnothing : (Binary64.ofNat 0 / Binary64.ofNat 1000000000).toRat = 0 := by decide +kernel
  have hsign : (Binary64.ofNat n).isNegative = false :=
    (Binary64.sign_and_pattern_nearest (Nat.cast_nonneg n)).1
  rw [inSeconds, hseconds, hrest, Binary64.add_def, hnothing, add_zero,
    Binary64.nearest_toRat hsign (Binary64.isFinite_ofNat h)]

/-! ### Hundredths keep the order -/

theorem roundHalfEven_mono {p q : Rat} (h : p ≤ q) : roundHalfEven p ≤ roundHalfEven q := by
  have hfloor : p.floor ≤ q.floor := Rat.floor_monotone h
  have hnext : ∀ i : Int, i ≤ i + 1 := fun i => Int.le_of_lt (Int.lt_succ i)
  have hnearer : ∀ r : Rat, roundHalfEven r =
      nearer r.floor (r.floor + 1) (r - r.floor) (1 / 2) (r.floor % 2 = 0) := fun _ => rfl
  rw [hnearer, hnearer]
  rcases lt_or_eq_of_le hfloor with hlt | heq
  · exact nearer_le_nearer (hnext _) (hnext _) hlt _ _
  · rw [heq]
    exact nearer_mono (hnext _) (sub_le_sub_right h _)

theorem Binary64.hundredths_mono {x y : Binary64} (h : x.toRat ≤ y.toRat) :
    x.hundredths ≤ y.hundredths :=
  Int.toNat_le_toNat (roundHalfEven_mono (mul_le_mul_of_nonneg_right h (by decide)))

end RequestMeter

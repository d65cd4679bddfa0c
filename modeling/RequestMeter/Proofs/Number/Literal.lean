/-
Number literals: decimals as JSON writes them, and how they are read.

A literal is a whole part without a superfluous zero in front, perhaps a point with digits behind
it, and perhaps an `e` with a power of ten.  Its digits are the coefficient, whatever the place of
the point, so a decimal that is written with a point inside its digits or before them is read as it
was; only where zeros are written behind the digits the coefficient is another one for the same
value (`read?_positional`, `read?_scientific`).
-/
import RequestMeter.Number.Decimal
import RequestMeter.Proofs.Number.Spelling
import Mathlib.Algebra.Order.Field.Rat
import Mathlib.Data.List.Basic
import Mathlib.Tactic.Ring

namespace RequestMeter

open Numeral

namespace Numeral

/-- What follows the digits that a text begins with. -/
def afterDigits (s : List Char) : List Char := s.dropWhile Char.isDigit

/-- Digits that begin with a zero only if there is nothing but this zero. -/
def IsWhole (s : List Char) : Prop := IsDigits s ∧ (s.head? = some '0' → s = ['0'])

instance (s : List Char) : Decidable (IsWhole s) :=
  inferInstanceAs (Decidable (IsDigits s ∧ (s.head? = some '0' → s = ['0'])))

/-- Reads an integer after its sign; a plus may be left out. -/
def readInteger? : List Char → Option Int
  | '-' :: s => if IsDigits s then some (-(ofDigits s : Int)) else none
  | s => if IsDigits (withoutPlus s) then some (ofDigits (withoutPlus s)) else none

/-! ### Zeros around digits -/

theorem ofDigits_append (s t : List Char) :
    ofDigits (s ++ t) = Nat.ofDigitChars 10 t (ofDigits s) := Nat.ofDigitChars_append 0

/-- Zeros in front change nothing. -/
theorem ofDigits_zeros_append (n : Nat) (s : List Char) :
    ofDigits (List.replicate n '0' ++ s) = ofDigits s := by
  have hzeros : ofDigits (List.replicate n '0') = 0 := by
    rw [ofDigits, Nat.ofDigitChars_replicate_zero, Nat.mul_zero]
  rw [ofDigits_append, hzeros]
  rfl

/-- Each zero behind the digits makes the number ten times as great. -/
theorem ofDigits_append_zeros (s : List Char) (n : Nat) :
    ofDigits (s ++ List.replicate n '0') = 10 ^ n * ofDigits s := by
  rw [ofDigits_append, Nat.ofDigitChars_replicate_zero]

theorem IsDigits.append {s t : List Char} (hs : IsDigits s) (ht : t.all Char.isDigit = true) :
    IsDigits (s ++ t) := by
  refine ⟨by simp [hs.1], ?_⟩
  rw [List.all_append, hs.2, ht, Bool.and_true]

private theorem all_zeros (n : Nat) : (List.replicate n '0').all Char.isDigit = true := by
  rw [List.all_eq_true]
  intro c hc
  rw [List.eq_of_mem_replicate hc]
  decide

theorem IsDigits.take {s : List Char} (h : IsDigits s) {n : Nat} (hn : 0 < n) :
    IsDigits (s.take n) :=
  ⟨by simp [h.1, Nat.ne_of_gt hn],
    List.all_eq_true.mpr fun c hc => List.all_eq_true.mp h.2 c (List.mem_of_mem_take hc)⟩

theorem IsDigits.drop {s : List Char} (h : IsDigits s) {n : Nat} (hn : n < s.length) :
    IsDigits (s.drop n) :=
  ⟨by simpa using hn,
    List.all_eq_true.mpr fun c hc => List.all_eq_true.mp h.2 c (List.mem_of_mem_drop hc)⟩

theorem IsDigits.zeros_append {s : List Char} (h : IsDigits s) (n : Nat) :
    IsDigits (List.replicate n '0' ++ s) := by
  refine ⟨by simp [h.1], ?_⟩
  rw [List.all_append, all_zeros, h.2, Bool.and_true]

theorem head?_toDigits_ne {n : Nat} (h : n ≠ 0) : (Nat.toDigits 10 n).head? ≠ some '0' := by
  induction n using Nat.strongRecOn with
  | ind n ih =>
      rcases Nat.lt_or_ge n 10 with hlt | hge
      · rw [Nat.toDigits_of_lt_base hlt, List.head?_cons]
        have hdigit : ∀ k < 10, k ≠ 0 → some k.digitChar ≠ some '0' := by decide
        exact hdigit n hlt h
      · rw [Nat.toDigits_of_base_le (by decide) hge,
          List.head?_append_of_ne_nil _ Nat.toDigits_ne_nil]
        exact ih (n / 10) (by omega) (by omega)

/-- Digits that start like those of a number other than zero need no zero in front. -/
private theorem isWhole_of_head? {s : List Char} {n : Nat} (hn : n ≠ 0) (hs : IsDigits s)
    (h : s.head? = (Nat.toDigits 10 n).head?) : IsWhole s :=
  ⟨hs, fun hzero => absurd (h.symm.trans hzero) (head?_toDigits_ne hn)⟩

theorem isWhole_toDigits (n : Nat) : IsWhole (Nat.toDigits 10 n) := by
  by_cases hn : n = 0
  · rw [hn]
    decide
  · exact isWhole_of_head? hn (isDigits_toDigits n) rfl

/-- The digits end where the rest begins with none. -/
theorem leadingDigits_append {s t : List Char} (hs : s.all Char.isDigit = true)
    (ht : leadingDigits t = []) : leadingDigits (s ++ t) = s := by
  unfold leadingDigits at *
  rw [List.takeWhile_append_of_pos (List.all_eq_true.mp hs), ht, List.append_nil]

private theorem afterDigits_append {s t : List Char} (hs : s.all Char.isDigit = true)
    (ht : leadingDigits t = []) : afterDigits (s ++ t) = t := by
  have hsplit := List.takeWhile_append_dropWhile (p := Char.isDigit) (l := t)
  unfold leadingDigits at ht
  unfold afterDigits
  rw [List.dropWhile_append_of_pos (List.all_eq_true.mp hs)]
  rwa [ht, List.nil_append] at hsplit

end Numeral

namespace Decimal

/-! ### Reading a literal

The reader takes a literal apart from the left: a whole part, places, a power of ten.  It accepts
every literal there is, so it knows nothing of the layouts that numbers are written in here.
-/

/-- Reads the digits behind a point and tells what follows them. -/
def readFraction? : List Char → Option (List Char × List Char)
  | '.' :: s => if leadingDigits s = [] then none else some (leadingDigits s, afterDigits s)
  | s => some ([], s)

/-- Reads the power of ten at the end of a literal. -/
def readPower? : List Char → Option Int
  | [] => some 0
  | c :: s => if c = 'e' ∨ c = 'E' then readInteger? s else none

/-- Reads a literal without a sign. -/
def read? (s : List Char) : Option Decimal :=
  let whole := leadingDigits s
  if IsWhole whole then
    (readFraction? (afterDigits s)).bind fun (fraction, rest) =>
      (readPower? rest).map fun power => ⟨ofDigits (whole ++ fraction), power - fraction.length⟩
  else none

example : read? "12.50E+3".toList = some ⟨1250, 1⟩ := by decide

example : read? "012".toList = none := by decide

example : read? "1.".toList = none := by decide

theorem read?_append {whole rest : List Char} (hwhole : IsWhole whole)
    (hrest : leadingDigits rest = []) :
    read? (whole ++ rest) =
      (readFraction? rest).bind fun (fraction, rest) =>
        (readPower? rest).map fun power =>
          ⟨ofDigits (whole ++ fraction), power - fraction.length⟩ := by
  unfold read?
  simp only [leadingDigits_append hwhole.1.2 hrest, afterDigits_append hwhole.1.2 hrest]
  exact if_pos hwhole

section

variable {whole fraction rest : List Char} {power : Int} (hwhole : IsWhole whole)
  (hpower : readPower? rest = some power)

include hwhole hpower

/-- A literal without a point. -/
theorem read?_of_whole (hrest : leadingDigits rest = []) (hpoint : rest.head? ≠ some '.') :
    read? (whole ++ rest) = some ⟨ofDigits whole, power⟩ := by
  have hnone : readFraction? rest = some ([], rest) := by
    unfold readFraction?
    split
    case h_1 => exact absurd rfl hpoint
    case h_2 => rfl
  rw [read?_append hwhole hrest, hnone]
  simp [hpower]

/-- A literal with a point. -/
theorem read?_of_fraction (hfraction : IsDigits fraction) (hrest : leadingDigits rest = []) :
    read? (whole ++ '.' :: (fraction ++ rest)) =
      some ⟨ofDigits (whole ++ fraction), power - fraction.length⟩ := by
  have hpoint : readFraction? ('.' :: (fraction ++ rest)) = some (fraction, rest) := by
    rw [readFraction?, leadingDigits_append hfraction.2 hrest,
      afterDigits_append hfraction.2 hrest, if_neg hfraction.1]
  rw [read?_append hwhole rfl, hpoint]
  simp [hpower]

end

/-! ### The characters of a literal

A literal stands in a longer text, and it must be clear where it ends.  Whatever the reader accepts
is made of a few characters, and a comma is not among them.
-/

/-- Can a character stand in a literal? -/
def isLiteralChar (c : Char) : Bool := c.isDigit || ['+', '-', '.', 'e', 'E'].contains c

private theorem all_isLiteralChar_of_isDigit {s : List Char} (h : s.all Char.isDigit = true) :
    s.all isLiteralChar = true := by
  rw [List.all_eq_true] at h ⊢
  intro c hc
  rw [isLiteralChar, h c hc, Bool.true_or]

/-- Whether a text is a literal is told by what comes after the digits it begins with. -/
theorem all_isLiteralChar_iff (s : List Char) :
    s.all isLiteralChar = true ↔ (afterDigits s).all isLiteralChar = true := by
  have hsplit : leadingDigits s ++ afterDigits s = s := List.takeWhile_append_dropWhile
  have hdigits : (leadingDigits s).all Char.isDigit = true :=
    List.all_eq_true.mpr fun c hc => List.mem_takeWhile_imp hc
  rw [← hsplit, List.all_append, all_isLiteralChar_of_isDigit hdigits, Bool.true_and, hsplit]

private theorem all_of_readInteger? {s : List Char} {n : Int} (h : readInteger? s = some n) :
    s.all isLiteralChar = true := by
  unfold readInteger? at h
  split at h
  case h_1 digits =>
      split at h
      case isTrue hdigits =>
          rw [List.all_cons, all_isLiteralChar_of_isDigit hdigits.2]
          rfl
      case isFalse => cases h
  case h_2 =>
      split at h
      case isTrue hdigits =>
          have hall := all_isLiteralChar_of_isDigit hdigits.2
          unfold withoutPlus at hall
          split at hall
          case h_1 => exact hall
          case h_2 => exact hall
      case isFalse => cases h

private theorem all_of_readPower? {s : List Char} {n : Int} (h : readPower? s = some n) :
    s.all isLiteralChar = true := by
  unfold readPower? at h
  split at h
  case h_1 => rfl
  case h_2 c power =>
      split at h
      case isTrue hc =>
          rw [List.all_cons, all_of_readInteger? h, Bool.and_true]
          rcases hc with rfl | rfl <;> decide
      case isFalse => cases h

private theorem all_of_readFraction? {s fraction rest : List Char}
    (h : readFraction? s = some (fraction, rest)) (hrest : rest.all isLiteralChar = true) :
    s.all isLiteralChar = true := by
  unfold readFraction? at h
  split at h
  case h_1 digits =>
      split at h
      case isTrue => cases h
      case isFalse =>
          obtain ⟨-, rfl⟩ := Prod.mk.inj (Option.some.inj h)
          exact (all_isLiteralChar_iff digits).mpr hrest
  case h_2 =>
      obtain ⟨-, rfl⟩ := Prod.mk.inj (Option.some.inj h)
      exact hrest

/-- What is read as a literal has a digit first and only characters of a literal. -/
theorem chars_of_read? {s : List Char} {d : Decimal} (h : read? s = some d) :
    leadingDigits s ≠ [] ∧ s.all isLiteralChar = true := by
  dsimp only [read?] at h
  split at h
  case isFalse => cases h
  case isTrue hwhole =>
      obtain ⟨⟨fraction, rest⟩, hfraction, hpower⟩ := Option.bind_eq_some_iff.mp h
      obtain ⟨power, hpower, -⟩ := Option.map_eq_some_iff.mp hpower
      have hrest := all_of_readFraction? hfraction (all_of_readPower? hpower)
      exact ⟨hwhole.1.1, (all_isLiteralChar_iff s).mpr hrest⟩

/-! ### Reading what is written -/

theorem readPower?_nil : readPower? [] = some 0 := rfl

/-- The digits of a natural number are a literal. -/
theorem read?_toDigits (n : Nat) : read? (Nat.toDigits 10 n) = some ⟨n, 0⟩ := by
  have hread := read?_of_whole (isWhole_toDigits n) readPower?_nil rfl (by decide)
  rwa [List.append_nil, ofDigits_toDigits] at hread

theorem readInteger?_digits {s : List Char} (h : IsDigits s) :
    readInteger? ('+' :: s) = some (ofDigits s) := if_pos h

theorem readInteger?_minus {s : List Char} (h : IsDigits s) :
    readInteger? ('-' :: s) = some (-(ofDigits s : Int)) := if_pos h

/-- Zeros behind the digits, one of them behind the point. -/
private theorem toRat_zeros (c n : Nat) :
    (Decimal.mk (10 ^ (n + 1) * c) (-1)).toRat = (Decimal.mk c n).toRat := by
  unfold toRat
  rw [Rat.zpow_neg, Rat.zpow_one, Rat.zpow_natCast]
  push_cast
  ring

variable {d : Decimal}

theorem isDigits_digits (d : Decimal) : IsDigits d.digits := isDigits_toDigits d.coefficient

theorem ofDigits_digits (d : Decimal) : ofDigits d.digits = d.coefficient :=
  ofDigits_toDigits d.coefficient

theorem length_digits (d : Decimal) : (d.digits.length : Int) = d.point - d.exponent := by
  unfold point
  omega

/-- The point stands behind the digits. -/
private theorem read?_positional_of_nonneg (h : d.coefficient ≠ 0 ∨ d.exponent = 0)
    (hexponent : 0 ≤ d.exponent) :
    ∃ d', read? d.positional = some d' ∧ d'.toRat = d.toRat := by
  obtain ⟨c, e⟩ := d
  obtain ⟨n, rfl⟩ := Int.eq_ofNat_of_zero_le hexponent
  have hwhole : IsWhole (Nat.toDigits 10 c ++ List.replicate n '0') := by
    rcases h with hc | hn
    · exact isWhole_of_head? hc ((isDigits_toDigits c).append (all_zeros n))
        (List.head?_append_of_ne_nil _ Nat.toDigits_ne_nil)
    · obtain rfl : n = 0 := by simpa using hn
      rw [List.replicate_zero, List.append_nil]
      exact isWhole_toDigits c
  have hfraction : IsDigits ['0'] := by decide
  have hread := read?_of_fraction hwhole readPower?_nil hfraction rfl
  have hzeros : List.replicate n '0' ++ ['0'] = List.replicate (n + 1) '0' :=
    List.replicate_succ'.symm
  rw [List.append_assoc _ _ ['0'], hzeros, ofDigits_append_zeros, ofDigits_toDigits] at hread
  refine ⟨_, ?_, toRat_zeros c n⟩
  rw [positional, if_pos hexponent]
  exact hread

/-- The point stands between two digits. -/
private theorem read?_positional_of_point_pos (h : d.coefficient ≠ 0) (hexponent : d.exponent < 0)
    (hpoint : 0 < d.point) : read? d.positional = some d := by
  have hlength := length_digits d
  have htake : IsDigits (d.digits.take d.point.toNat) := d.isDigits_digits.take (by omega)
  have hdrop : IsDigits (d.digits.drop d.point.toNat) := d.isDigits_digits.drop (by omega)
  have hsplit := List.take_append_drop d.point.toNat d.digits
  have hhead : (d.digits.take d.point.toNat).head? = d.digits.head? := by
    rw [← List.head?_append_of_ne_nil _ htake.1, hsplit]
  have hread := read?_of_fraction (isWhole_of_head? h htake hhead) readPower?_nil hdrop rfl
  have hshift : 0 - ((d.digits.drop d.point.toNat).length : Int) = d.exponent := by
    rw [List.length_drop]
    omega
  rw [List.append_nil, hsplit, hshift, ofDigits_digits] at hread
  rw [positional, if_neg (by omega), if_pos hpoint, hread]

/-- The point stands before the digits, with a zero in front of it. -/
private theorem read?_positional_of_point_nonpos (hexponent : d.exponent < 0)
    (hpoint : ¬ 0 < d.point) :
    read? d.positional = some d := by
  have hlength := length_digits d
  have hfraction := d.isDigits_digits.zeros_append (-d.point).toNat
  have hwhole : IsWhole ['0'] := by decide
  have hread := read?_of_fraction hwhole readPower?_nil hfraction rfl
  have hzeros : ofDigits (['0'] ++ (List.replicate (-d.point).toNat '0' ++ d.digits)) =
      d.coefficient := by
    change ofDigits (List.replicate ((-d.point).toNat + 1) '0' ++ d.digits) = _
    rw [ofDigits_zeros_append, ofDigits_digits]
  have hshift : 0 - ((List.replicate (-d.point).toNat '0' ++ d.digits).length : Int) =
      d.exponent := by
    rw [List.length_append, List.length_replicate]
    omega
  rw [List.append_nil, hzeros, hshift] at hread
  rw [positional, if_neg (by omega), if_neg hpoint]
  exact hread

theorem read?_positional (h : d.coefficient ≠ 0 ∨ d.exponent = 0) :
    ∃ d', read? d.positional = some d' ∧ d'.toRat = d.toRat := by
  rcases Int.lt_or_le d.exponent 0 with hneg | hnonneg
  · have hc : d.coefficient ≠ 0 := h.resolve_right (by omega)
    by_cases hpoint : 0 < d.point
    · exact ⟨d, read?_positional_of_point_pos hc hneg hpoint, rfl⟩
    · exact ⟨d, read?_positional_of_point_nonpos hneg hpoint, rfl⟩
  · exact read?_positional_of_nonneg h hnonneg

/-- The end of a decimal in scientific notation. -/
def powerText (power : Int) : List Char :=
  'e' :: (if 0 ≤ power then '+' else '-') :: Nat.toDigits 10 power.natAbs

theorem readPower?_powerText (power : Int) : readPower? (powerText power) = some power := by
  have hdigits := isDigits_toDigits power.natAbs
  change readInteger? _ = _
  split
  case isTrue hpower =>
      rw [readInteger?_digits hdigits, ofDigits_toDigits]
      exact congrArg some (by omega)
  case isFalse hpower =>
      rw [readInteger?_minus hdigits, ofDigits_toDigits]
      exact congrArg some (by omega)

section

variable {c : Char} {rest : List Char}

private theorem scientific_of_single (h : d.digits = [c]) :
    d.scientific = [c] ++ powerText (d.point - 1) := by
  simp [scientific, h, powerText]

private theorem scientific_of_cons (h : d.digits = c :: rest) (hrest : rest ≠ []) :
    d.scientific = [c] ++ '.' :: (rest ++ powerText (d.point - 1)) := by
  obtain ⟨next, later, rfl⟩ := List.exists_cons_of_ne_nil hrest
  simp [scientific, h, powerText]

end

theorem read?_scientific (d : Decimal) : read? d.scientific = some d := by
  have hpower := readPower?_powerText (d.point - 1)
  have hlength := length_digits d
  have hvalue := ofDigits_digits d
  obtain ⟨c, rest, hdigits⟩ := List.exists_cons_of_ne_nil d.isDigits_digits.1
  rw [hdigits, List.length_cons] at hlength
  rw [hdigits] at hvalue
  have hwhole : IsWhole [c] := by
    have htake := d.isDigits_digits.take Nat.one_pos
    rw [hdigits] at htake
    exact ⟨htake, fun hzero => by rw [Option.some.inj hzero]⟩
  by_cases hrest : rest = []
  · subst hrest
    have hread := read?_of_whole hwhole hpower rfl (by simp [powerText])
    have hshift : d.point - 1 = d.exponent := by
      rw [List.length_nil] at hlength
      omega
    rw [scientific_of_single hdigits, hread, hvalue, hshift]
  · have hfraction : IsDigits rest := by
      have hdrop := d.isDigits_digits.drop (n := 1) (by
        rw [hdigits, List.length_cons]
        exact Nat.succ_lt_succ (List.length_pos_iff.mpr hrest))
      rwa [hdigits] at hdrop
    have hread := read?_of_fraction hwhole hpower hfraction rfl
    have hshift : d.point - 1 - (rest.length : Int) = d.exponent := by omega
    rw [scientific_of_cons hdigits hrest, hread, List.singleton_append, hvalue, hshift]

/-- Whatever layout a decimal is written in, its value can be read back. -/
theorem read?_written (layout : DecimalLayout) (h : d.coefficient ≠ 0 ∨ d.exponent = 0) :
    ∃ d', read? (d.written layout) = some d' ∧ d'.toRat = d.toRat := by
  unfold written
  split
  case isTrue => exact read?_positional h
  case isFalse => exact ⟨d, read?_scientific d, rfl⟩

end Decimal

end RequestMeter

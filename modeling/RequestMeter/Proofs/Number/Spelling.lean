/-
Which texts spell a number, and what is wrong with those that do not.

A spelling is at least one ASCII digit, leading zeros included, perhaps after a sign.  Reading goes
from left to right and stops at the first character that is no digit or takes the number out of
range.  A digit more never makes a number smaller, so reading leaves the range somewhere exactly
if the digits that the text begins with are together out of range (`readDigits_eq`).  What is read
can then be told without following the reader: a spelling within the range gives its number
(`readUnsigned_eq_ok_iff`, `readSigned_eq_ok_iff`), and every other text has the one fault that
`signedFault` names (`readSigned_eq_error`).
-/
import RequestMeter.Number.Numeral
import Mathlib.Data.List.TakeWhile

namespace RequestMeter.Numeral

/-- The digits that a text begins with. -/
def leadingDigits (s : List Char) : List Char := s.takeWhile Char.isDigit

/-- The number that digits stand for. -/
def ofDigits (digits : List Char) : Nat := Nat.ofDigitChars 10 digits 0

/-- At least one digit and nothing else. -/
def IsDigits (s : List Char) : Prop := s ≠ [] ∧ s.all Char.isDigit = true

instance (s : List Char) : Decidable (IsDigits s) :=
  inferInstanceAs (Decidable (s ≠ [] ∧ s.all Char.isDigit = true))

/-- A text spells a natural number: in digits, perhaps after a plus. -/
inductive SpellsNat : List Char → Nat → Prop
  | digits {s : List Char} (h : IsDigits s) : SpellsNat s (ofDigits s)
  | plus {s : List Char} (h : IsDigits s) : SpellsNat ('+' :: s) (ofDigits s)

/-- A text spells an integer: a natural number, or digits after a minus. -/
inductive SpellsInt : List Char → Int → Prop
  | natural {s : List Char} {n : Nat} (h : SpellsNat s n) : SpellsInt s n
  | minus {s : List Char} (h : IsDigits s) : SpellsInt ('-' :: s) (-(ofDigits s : Int))

/-- A text without the plus it may begin with. -/
def withoutPlus : List Char → List Char
  | '+' :: s => s
  | s => s

/-- What is wrong with digits that are not read: too many, or something among them. -/
def fault (limit : Nat) (beyond : NumeralError) (s : List Char) : NumeralError :=
  if limit < ofDigits (leadingDigits s) then beyond else .invalidDigit

/-- What is wrong with a text that spells no signed 64-bit number. -/
def signedFault : List Char → NumeralError
  | [] => .empty
  | '-' :: s => fault (greatestSigned + 1) .tooSmall s
  | s => fault greatestSigned .tooLarge (withoutPlus s)

/-! ### The digits that a text begins with -/

theorem digit?_of_isDigit {c : Char} (h : c.isDigit = true) :
    digit? c = some (c.toNat - '0'.toNat) := by
  rw [Char.isDigit_iff_toNat] at h
  exact if_pos h

theorem digit?_of_not_isDigit {c : Char} (h : ¬ c.isDigit = true) : digit? c = none := by
  rw [Char.isDigit_iff_toNat] at h
  exact if_neg h

private theorem leadingDigits_cons_of_isDigit {c : Char} (h : c.isDigit = true) (s : List Char) :
    leadingDigits (c :: s) = c :: leadingDigits s := List.takeWhile_cons_of_pos h

theorem leadingDigits_cons_of_not_isDigit {c : Char} (h : ¬ c.isDigit = true) (s : List Char) :
    leadingDigits (c :: s) = [] := List.takeWhile_cons_of_neg h

theorem leadingDigits_of_all {s : List Char} (h : s.all Char.isDigit = true) :
    leadingDigits s = s := List.takeWhile_eq_self_iff.mpr (List.all_eq_true.mp h)

/-- Digits more do not make a number smaller. -/
private theorem le_ofDigitChars (n : Nat) (digits : List Char) :
    n ≤ Nat.ofDigitChars 10 digits n := by
  rw [Nat.ofDigitChars_eq_ofDigitChars_zero]
  have hpow : 0 < 10 ^ digits.length := Nat.pow_pos (by decide)
  have hle : 1 * n ≤ 10 ^ digits.length * n := Nat.mul_le_mul_right n hpow
  omega

/-- Whether reading leaves the range is told by the leading digits as a whole. -/
theorem readDigits_eq {limit n : Nat} (hn : n ≤ limit) (beyond : NumeralError) (s : List Char) :
    readDigits limit beyond n s =
      if limit < Nat.ofDigitChars 10 (leadingDigits s) n then .error beyond
      else if s.all Char.isDigit then .ok (Nat.ofDigitChars 10 s n)
      else .error .invalidDigit := by
  induction s generalizing n with
  | nil => simpa [leadingDigits] using hn
  | cons c rest ih =>
      by_cases hc : c.isDigit = true
      · have hdigit := digit?_of_isDigit hc
        rw [leadingDigits_cons_of_isDigit hc, List.all_cons, hc, Bool.true_and,
          Nat.ofDigitChars_cons, Nat.ofDigitChars_cons]
        by_cases hle : 10 * n + (c.toNat - '0'.toNat) ≤ limit
        · rw [readDigits_cons_of_le hdigit hle, ih hle]
        · rw [Nat.not_le] at hle
          rw [readDigits_cons_of_lt hdigit hle,
            if_pos (Nat.lt_of_lt_of_le hle (le_ofDigitChars _ _))]
      · rw [readDigits_cons_of_digit?_eq_none (digit?_of_not_isDigit hc),
          leadingDigits_cons_of_not_isDigit hc, Nat.ofDigitChars_nil,
          if_neg (Nat.not_lt.mpr hn), List.all_cons, if_neg (by simp [hc])]

/-- What reading gives of the digits of a number: the number, if it is within the limit. -/
def magnitude (limit : Nat) (beyond : NumeralError) (s : List Char) : Except NumeralError Nat :=
  if IsDigits s ∧ ofDigits s ≤ limit then .ok (ofDigits s) else .error (fault limit beyond s)

theorem readDigits_zero (limit : Nat) (beyond : NumeralError) {s : List Char} (hs : s ≠ []) :
    readDigits limit beyond 0 s = magnitude limit beyond s := by
  rw [readDigits_eq (Nat.zero_le limit)]
  change (if limit < ofDigits (leadingDigits s) then _ else _) = _
  unfold magnitude fault
  by_cases hall : s.all Char.isDigit = true
  · rw [leadingDigits_of_all hall, if_pos hall]
    by_cases hle : ofDigits s ≤ limit
    · rw [if_neg (Nat.not_lt.mpr hle), if_pos ⟨⟨hs, hall⟩, hle⟩]
      rfl
    · have hnot : ¬ (IsDigits s ∧ ofDigits s ≤ limit) := fun h => hle h.2
      rw [if_pos (Nat.not_le.mp hle), if_neg hnot, if_pos (Nat.not_le.mp hle)]
  · have hnot : ¬ (IsDigits s ∧ ofDigits s ≤ limit) := fun h => hall h.1.2
    rw [if_neg hall, if_neg hnot]
    by_cases hlt : limit < ofDigits (leadingDigits s)
    · rw [if_pos hlt, if_pos hlt]
    · rw [if_neg hlt, if_neg hlt]

theorem magnitude_nil (limit : Nat) (beyond : NumeralError) :
    magnitude limit beyond [] = .error .invalidDigit := by
  simp [magnitude, IsDigits, fault, leadingDigits, ofDigits]

theorem magnitude_eq_ok_iff {limit : Nat} {beyond : NumeralError} {s : List Char} {n : Nat} :
    magnitude limit beyond s = .ok n ↔ IsDigits s ∧ n = ofDigits s ∧ n ≤ limit := by
  unfold magnitude
  split
  case isTrue h =>
    rw [Except.ok.injEq]
    constructor
    · rintro rfl
      exact ⟨h.1, rfl, h.2⟩
    · rintro ⟨-, rfl, -⟩
      rfl
  case isFalse h =>
    constructor
    · rintro ⟨⟩
    · rintro ⟨hdigits, rfl, hle⟩
      exact absurd ⟨hdigits, hle⟩ h

/-! ### The digits of a number -/

theorem isDigits_toDigits (n : Nat) : IsDigits (Nat.toDigits 10 n) := by
  refine ⟨Nat.toDigits_ne_nil, List.all_eq_true.mpr fun c hc => ?_⟩
  exact Nat.isDigit_of_mem_toDigits (by decide) (by decide) hc

theorem ofDigits_toDigits (n : Nat) : ofDigits (Nat.toDigits 10 n) = n :=
  Nat.ofDigitChars_ten_toDigits

theorem notMem_toDigits {c : Char} (h : c.isDigit = false) (n : Nat) :
    c ∉ Nat.toDigits 10 n := by
  intro hmem
  rw [List.all_eq_true.mp (isDigits_toDigits n).2 c hmem] at h
  cases h

/-- Its own digits spell a number. -/
theorem spellsNat_toDigits (n : Nat) : SpellsNat (Nat.toDigits 10 n) n := by
  have hdigits := SpellsNat.digits (isDigits_toDigits n)
  rwa [ofDigits_toDigits] at hdigits

/-! ### Signs

A minus has a limit and a fault of its own, and a plus may be left out.  What stands behind the sign
is read alike, so both readers come down to a magnitude.
-/

theorem withoutPlus_of_ne {s : List Char} (h : ∀ rest, s ≠ '+' :: rest) : withoutPlus s = s := by
  unfold withoutPlus
  split
  case h_1 => exact absurd rfl (h _)
  case h_2 => rfl

/-- Digits begin with no sign. -/
theorem IsDigits.exists_cons {s : List Char} (h : IsDigits s) :
    ∃ c rest, s = c :: rest ∧ c ≠ '+' ∧ c ≠ '-' := by
  obtain ⟨c, rest, rfl⟩ := List.exists_cons_of_ne_nil h.1
  have hc : c.isDigit = true := List.all_eq_true.mp h.2 c (by simp)
  refine ⟨c, rest, rfl, ?_, ?_⟩
  · rintro rfl
    exact absurd hc (by decide)
  · rintro rfl
    exact absurd hc (by decide)

theorem IsDigits.withoutPlus {s : List Char} (h : IsDigits s) : withoutPlus s = s := by
  obtain ⟨c, rest, rfl, hplus, -⟩ := h.exists_cons
  exact withoutPlus_of_ne fun _ heq => hplus (List.cons.inj heq).1

theorem spellsNat_iff {s : List Char} {n : Nat} :
    SpellsNat s n ↔ IsDigits (withoutPlus s) ∧ n = ofDigits (withoutPlus s) := by
  constructor
  · intro h
    cases h with
    | digits h => rw [h.withoutPlus]; exact ⟨h, rfl⟩
    | plus h => exact ⟨h, rfl⟩
  · rintro ⟨h, rfl⟩
    unfold withoutPlus at h ⊢
    split at h
    case h_1 => exact .plus h
    case h_2 => exact .digits h

theorem SpellsNat.ne_nil {s : List Char} {n : Nat} (h : SpellsNat s n) : s ≠ [] := by
  cases h with
  | digits h => exact h.1
  | plus h => exact List.cons_ne_nil _ _

/-- A natural number is spelled in digits, but for the sign. -/
theorem SpellsNat.isDigit_or_eq_plus {s : List Char} {n : Nat} (h : SpellsNat s n) {c : Char}
    (hc : c ∈ s) : c.isDigit = true ∨ c = '+' := by
  cases h with
  | digits h => exact Or.inl (List.all_eq_true.mp h.2 c hc)
  | plus h =>
      rcases List.mem_cons.mp hc with rfl | hc
      · exact Or.inr rfl
      · exact Or.inl (List.all_eq_true.mp h.2 c hc)

theorem spellsInt_minus_iff {s : List Char} {n : Int} :
    SpellsInt ('-' :: s) n ↔ IsDigits s ∧ n = -(ofDigits s : Int) := by
  constructor
  · intro h
    cases h with
    | natural h =>
        obtain ⟨c, rest, hs, -, hminus⟩ := (spellsNat_iff.mp h).1.exists_cons
        exact absurd (List.cons.inj hs).1.symm hminus
    | minus h => exact ⟨h, rfl⟩
  · rintro ⟨h, rfl⟩
    exact .minus h

private theorem spellsInt_iff_of_head {s : List Char} (hs : ∀ rest, s ≠ '-' :: rest) {n : Int} :
    SpellsInt s n ↔ ∃ k : Nat, SpellsNat s k ∧ n = k := by
  constructor
  · intro h
    cases h with
    | natural h => exact ⟨_, h, rfl⟩
    | minus h => exact absurd rfl (hs _)
  · rintro ⟨k, h, rfl⟩
    exact .natural h

/-- An unsigned number is the magnitude of its digits. -/
theorem readUnsigned_eq {s : List Char} (hs : s ≠ []) :
    readUnsigned s = magnitude greatestUnsigned .tooLarge (withoutPlus s) := by
  unfold readUnsigned
  split
  case h_1 => exact absurd rfl hs
  case h_2 => rw [withoutPlus, magnitude_nil]
  case h_3 digits hne => rw [withoutPlus, readDigits_zero _ _ (fun h => hne (by rw [h]))]
  case h_4 hplus => rw [readDigits_zero _ _ hs, withoutPlus_of_ne hplus]

/-- A number that is read as a natural one and then taken as an integer. -/
private theorem map_natCast (r : Except NumeralError Nat) (f : Int → Int) :
    Except.map f (do let n ← r; pure (n : Int)) = r.map fun n : Nat => f n := by
  cases r <;> rfl

theorem readSigned_minus (s : List Char) :
    readSigned ('-' :: s) =
      (magnitude (greatestSigned + 1) .tooSmall s).map fun n : Nat => -(n : Int) := by
  by_cases hs : s = []
  · rw [hs, magnitude_nil]
    rfl
  · rw [readSigned, map_natCast, readDigits_zero _ _ hs]
    exact hs

theorem readSigned_of_ne {s : List Char} (hs : s ≠ []) (hminus : ∀ rest, s ≠ '-' :: rest) :
    readSigned s =
      (magnitude greatestSigned .tooLarge (withoutPlus s)).map fun n : Nat => (n : Int) := by
  unfold readSigned
  split
  case h_1 => exact absurd rfl hs
  case h_2 => rw [withoutPlus, magnitude_nil]; rfl
  case h_3 => exact absurd rfl (hminus _)
  case h_4 => exact absurd rfl (hminus _)
  case h_5 digits hne =>
      rw [withoutPlus, map_natCast, readDigits_zero _ _ (fun h => hne (by rw [h]))]
  case h_6 hplus => rw [map_natCast, readDigits_zero _ _ hs, withoutPlus_of_ne hplus]

/-! ### What is read -/

/-- An unsigned number is read if and only if it is spelled and 64 bits can hold it. -/
theorem readUnsigned_eq_ok_iff {s : List Char} {n : Nat} :
    readUnsigned s = .ok n ↔ SpellsNat s n ∧ n ≤ greatestUnsigned := by
  by_cases hs : s = []
  · subst hs
    simp [readUnsigned, spellsNat_iff, withoutPlus, IsDigits]
  · rw [readUnsigned_eq hs, magnitude_eq_ok_iff, spellsNat_iff, and_assoc]

/-- What is not read spells nothing, or a number that is too large. -/
theorem lt_of_readUnsigned_eq_error {s : List Char} {reason : NumeralError}
    (h : readUnsigned s = .error reason) : ∀ n, SpellsNat s n → greatestUnsigned < n := by
  intro n hspells
  by_contra hle
  have hread := readUnsigned_eq_ok_iff.mpr ⟨hspells, Nat.not_lt.mp hle⟩
  rw [h] at hread
  cases hread

/-- A text begins with a minus or it does not. -/
private theorem minus_or_ne (s : List Char) :
    (∃ rest, s = '-' :: rest) ∨ ∀ rest, s ≠ '-' :: rest := by
  by_cases h : ∃ rest, s = '-' :: rest
  · exact Or.inl h
  · exact Or.inr fun rest heq => h ⟨rest, heq⟩

private theorem map_eq_ok_iff {r : Except NumeralError Nat} {f : Nat → Int} {n : Int} :
    r.map f = .ok n ↔ ∃ k, r = .ok k ∧ f k = n := by
  cases r <;> simp [Except.map]

/-- A signed number is read if and only if it is spelled and 64 bits can hold it. -/
theorem readSigned_eq_ok_iff {s : List Char} {n : Int} :
    readSigned s = .ok n ↔
      SpellsInt s n ∧ -9223372036854775808 ≤ n ∧ n ≤ 9223372036854775807 := by
  rcases minus_or_ne s with ⟨rest, rfl⟩ | hminus
  · rw [readSigned_minus, map_eq_ok_iff, spellsInt_minus_iff]
    simp only [magnitude_eq_ok_iff]
    constructor
    · rintro ⟨k, ⟨hdigits, rfl, hle⟩, rfl⟩
      refine ⟨⟨hdigits, rfl⟩, ?_, ?_⟩ <;> rw [greatestSigned] at hle <;> omega
    · rintro ⟨⟨hdigits, rfl⟩, hle, -⟩
      exact ⟨_, ⟨hdigits, rfl, by rw [greatestSigned]; omega⟩, rfl⟩
  · by_cases hs : s = []
    · subst hs
      simp [readSigned, spellsInt_iff_of_head, spellsNat_iff, withoutPlus, IsDigits]
    · rw [readSigned_of_ne hs hminus, map_eq_ok_iff, spellsInt_iff_of_head hminus]
      simp only [magnitude_eq_ok_iff, spellsNat_iff]
      constructor
      · rintro ⟨k, ⟨hdigits, hk, hle⟩, rfl⟩
        refine ⟨⟨k, ⟨hdigits, hk⟩, rfl⟩, ?_, ?_⟩ <;> rw [greatestSigned] at hle <;> omega
      · rintro ⟨⟨k, ⟨hdigits, hk⟩, rfl⟩, -, hle⟩
        exact ⟨k, ⟨hdigits, hk, by rw [greatestSigned]; omega⟩, rfl⟩

private theorem signedFault_of_ne {s : List Char} (hs : s ≠ []) (hminus : ∀ rest, s ≠ '-' :: rest) :
    signedFault s = fault greatestSigned .tooLarge (withoutPlus s) := by
  unfold signedFault
  split
  case h_1 => exact absurd rfl hs
  case h_2 => exact absurd rfl (hminus _)
  case h_3 => rfl

/-- Reading never fails with anything but the fault of the text. -/
theorem readSigned_eq_ok_or_error (s : List Char) :
    (∃ n, readSigned s = .ok n) ∨ readSigned s = .error (signedFault s) := by
  rcases minus_or_ne s with ⟨rest, rfl⟩ | hminus
  · rw [readSigned_minus]
    unfold magnitude
    split
    case isTrue => exact Or.inl ⟨_, rfl⟩
    case isFalse => exact Or.inr rfl
  · by_cases hs : s = []
    · subst hs
      exact Or.inr rfl
    · rw [readSigned_of_ne hs hminus, signedFault_of_ne hs hminus]
      unfold magnitude
      split
      case isTrue => exact Or.inl ⟨_, rfl⟩
      case isFalse => exact Or.inr rfl

/-- A text that spells no signed 64-bit number has the fault that its leading digits tell. -/
theorem readSigned_eq_error {s : List Char}
    (h : ∀ n, SpellsInt s n → ¬ (-9223372036854775808 ≤ n ∧ n ≤ 9223372036854775807)) :
    readSigned s = .error (signedFault s) := by
  rcases readSigned_eq_ok_or_error s with ⟨n, hn⟩ | herror
  · obtain ⟨hspells, hrange⟩ := readSigned_eq_ok_iff.mp hn
    exact absurd hrange (h n hspells)
  · exact herror

example : signedFault "99999999999999999999x".toList = .tooLarge := by decide

example : signedFault "-1 ".toList = .invalidDigit := by decide

end RequestMeter.Numeral

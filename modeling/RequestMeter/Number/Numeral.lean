/-
Reading whole numbers.

A numeral is an optional sign and at least one ASCII digit.  It is read from left to right,
and reading stops at the first character that is no digit or takes the number out of range,
so that character decides what is reported.
-/

namespace RequestMeter

/-- Why a text is no numeral of the wanted range. -/
inductive NumeralError where
  /-- There is no text. -/
  | empty
  /-- A character is no digit, or there is nothing but a sign. -/
  | invalidDigit
  /-- The number lies above the range. -/
  | tooLarge
  /-- The number lies below the range. -/
  | tooSmall
deriving DecidableEq

namespace NumeralError

/-- What the error says. -/
def message : NumeralError → String
  | empty => "cannot parse integer from empty string"
  | invalidDigit => "invalid digit found in string"
  | tooLarge => "number too large to fit in target type"
  | tooSmall => "number too small to fit in target type"

end NumeralError

namespace Numeral

/-- What a decimal digit stands for. -/
def digit? (c : Char) : Option Nat :=
  if '0' ≤ c ∧ c ≤ '9' then some (c.toNat - '0'.toNat) else none

/-- Appends digits to a number, as long as it stays within a limit. -/
def readDigits (limit : Nat) (beyond : NumeralError) (n : Nat) : List Char → Except NumeralError Nat
  | [] => .ok n
  | c :: rest =>
    match digit? c with
    | none => .error .invalidDigit
    | some d =>
      if 10 * n + d ≤ limit then readDigits limit beyond (10 * n + d) rest
      else .error beyond

/-- The greatest unsigned 64-bit number. -/
def greatestUnsigned : Nat := 18446744073709551615

/-- The greatest signed 64-bit number. -/
def greatestSigned : Nat := 9223372036854775807

/-- Reads an unsigned 64-bit number, with or without a plus. -/
def readUnsigned : List Char → Except NumeralError Nat
  | [] => .error .empty
  | ['+'] => .error .invalidDigit
  | '+' :: digits => readDigits greatestUnsigned .tooLarge 0 digits
  | digits => readDigits greatestUnsigned .tooLarge 0 digits

/-- Reads a signed 64-bit number, with or without a sign. -/
def readSigned : List Char → Except NumeralError Int
  | [] => .error .empty
  | ['+'] => .error .invalidDigit
  | ['-'] => .error .invalidDigit
  | '-' :: digits => (readDigits (greatestSigned + 1) .tooSmall 0 digits).map fun n => -(n : Int)
  | '+' :: digits => (readDigits greatestSigned .tooLarge 0 digits).map fun n => (n : Int)
  | digits => (readDigits greatestSigned .tooLarge 0 digits).map fun n => (n : Int)

/-! ### What decides which error is reported -/

@[simp] theorem readDigits_nil (limit : Nat) (beyond : NumeralError) (n : Nat) :
    readDigits limit beyond n [] = .ok n := rfl

/-- A character that is no digit ends the reading, whatever comes after it. -/
theorem readDigits_cons_of_digit?_eq_none {c : Char} (h : digit? c = none) (limit : Nat)
    (beyond : NumeralError) (n : Nat) (rest : List Char) :
    readDigits limit beyond n (c :: rest) = .error .invalidDigit := by
  simp [readDigits, h]

/-- A digit within the range is taken. -/
theorem readDigits_cons_of_le {c : Char} {d n limit : Nat} (h : digit? c = some d)
    (hle : 10 * n + d ≤ limit) (beyond : NumeralError) (rest : List Char) :
    readDigits limit beyond n (c :: rest) = readDigits limit beyond (10 * n + d) rest := by
  simp [readDigits, h, hle]

/-- A digit beyond the range ends the reading, whatever comes after it. -/
theorem readDigits_cons_of_lt {c : Char} {d n limit : Nat} (h : digit? c = some d)
    (hlt : limit < 10 * n + d) (beyond : NumeralError) (rest : List Char) :
    readDigits limit beyond n (c :: rest) = .error beyond := by
  simp [readDigits, h, Nat.not_le.mpr hlt]

end Numeral

end RequestMeter

/-
Percent escapes.

A percent sign and two hexadecimal digits stand for a byte.  A percent sign without them stands
for itself.  Some escapes can be kept as they are, for a reader that comes later.
-/
import RequestMeter.Text.Utf8

namespace RequestMeter.Text.Percent

/-- What a hexadecimal digit stands for, in either case. -/
def hexDigit? (b : UInt8) : Option Nat :=
  let n := b.toNat
  if 0x30 ≤ n ∧ n ≤ 0x39 then some (n - 0x30)
  else if 0x41 ≤ n ∧ n ≤ 0x46 then some (n - 0x41 + 10)
  else if 0x61 ≤ n ∧ n ≤ 0x66 then some (n - 0x61 + 10)
  else none

/-- The byte that a percent sign before these bytes stands for, if they complete an escape. -/
def escaped? : List UInt8 → Option UInt8
  | high :: low :: _ =>
    match hexDigit? high, hexDigit? low with
    | some h, some l => some (UInt8.ofNat (16 * h + l))
    | _, _ => none
  | _ => none

/-- Decodes the escapes except the kept ones, after leaving out a number of bytes. -/
def decodeAfter (keep : UInt8 → Bool) : Nat → List UInt8 → List UInt8
  | _, [] => []
  | skip + 1, _ :: rest => decodeAfter keep skip rest
  | 0, b :: rest =>
    if b = 0x25 then
      match escaped? rest with
      | some byte =>
        if keep byte then b :: decodeAfter keep 0 rest else byte :: decodeAfter keep 2 rest
      | none => b :: decodeAfter keep 0 rest
    else b :: decodeAfter keep 0 rest

/-- Decodes the escapes of a text, except those of the bytes to keep, and reads the result as
UTF-8. -/
def decode (keep : UInt8 → Bool) (s : List Char) : List Char :=
  Utf8.decode (decodeAfter keep 0 (Utf8.encode s))

/-- Decodes every escape. -/
def decodeAll (s : List Char) : List Char := decode (fun _ => false) s

example : decodeAll "%C3%a9%2F%".toList = "é/%".toList := by decide +kernel

example : decode (· == 0x2f) "%C3%a9%2F%".toList = "é%2F%".toList := by decide +kernel

end RequestMeter.Text.Percent

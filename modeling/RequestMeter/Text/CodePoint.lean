/-
Characters written as their code points, in hexadecimal.
-/

namespace RequestMeter.Text

/-- A code point between braces, with as many digits as it needs: `\u{301}`. -/
def bracedCode (c : Char) : List Char :=
  '\\' :: 'u' :: '\x7b' :: (Nat.toDigits 16 c.toNat ++ ['\x7d'])

/-- A code point below 256 in two digits: `\x1b`. -/
def twoDigitCode (c : Char) : List Char :=
  ['\\', 'x', Nat.digitChar (c.toNat / 16), Nat.digitChar (c.toNat % 16)]

example : bracedCode '\u0301' = "\\u\x7b301\x7d".toList := by decide

example : twoDigitCode '\x07' = "\\x07".toList := by decide

end RequestMeter.Text

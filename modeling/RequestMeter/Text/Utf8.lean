/-
Reading bytes as UTF-8, whatever they are.

A lead byte says how many bytes follow, and which ones may follow first.  Where a byte does not
fit, what was read of the broken character gives one replacement character, and the byte is
looked at afresh.  The restricted first followers keep out overlong forms, surrogates and code
points beyond the last.
-/

namespace RequestMeter.Text

/-- A character that has begun. -/
structure PartialChar where
  /-- The payload bits read so far. -/
  value : Nat
  /-- How many bytes are still to come, at least one. -/
  missing : Nat
  /-- The least byte that may come next. -/
  least : Nat
  /-- The greatest byte that may come next. -/
  greatest : Nat
deriving DecidableEq

/-- What a byte begins that does not continue a character. -/
inductive Utf8Start where
  | ascii (c : Char)
  | lead (p : PartialChar)
  | stray
deriving DecidableEq

namespace Utf8

/-- What stands for bytes that are no character. -/
def replacement : Char := '\ufffd'

/-- Looks at the first byte of a character. -/
def start (b : Nat) : Utf8Start :=
  if b < 0x80 then .ascii (Char.ofNat b)
  else if b < 0xc2 then .stray
  else if b < 0xe0 then .lead ⟨b - 0xc0, 1, 0x80, 0xbf⟩
  else if b = 0xe0 then .lead ⟨0, 2, 0xa0, 0xbf⟩
  else if b = 0xed then .lead ⟨0xd, 2, 0x80, 0x9f⟩
  else if b < 0xf0 then .lead ⟨b - 0xe0, 2, 0x80, 0xbf⟩
  else if b = 0xf0 then .lead ⟨0, 3, 0x90, 0xbf⟩
  else if b < 0xf4 then .lead ⟨b - 0xf0, 3, 0x80, 0xbf⟩
  else if b = 0xf4 then .lead ⟨4, 3, 0x80, 0x8f⟩
  else .stray

/-- The characters of some bytes, given the character that has begun before them. -/
def decodeFrom : Option PartialChar → List UInt8 → List Char
  | none, [] => []
  | some _, [] => [replacement]
  | none, b :: rest =>
    match start b.toNat with
    | .ascii c => c :: decodeFrom none rest
    | .lead p => decodeFrom (some p) rest
    | .stray => replacement :: decodeFrom none rest
  | some p, b :: rest =>
    if p.least ≤ b.toNat ∧ b.toNat ≤ p.greatest then
      let value := p.value * 64 + b.toNat % 64
      if p.missing ≤ 1 then Char.ofNat value :: decodeFrom none rest
      else decodeFrom (some ⟨value, p.missing - 1, 0x80, 0xbf⟩) rest
    else
      replacement ::
        match start b.toNat with
        | .ascii c => c :: decodeFrom none rest
        | .lead q => decodeFrom (some q) rest
        | .stray => replacement :: decodeFrom none rest

/-- The characters of some bytes, with replacements where they are no UTF-8. -/
def decode (bytes : List UInt8) : List Char := decodeFrom none bytes

/-- The bytes of some characters. -/
def encode (s : List Char) : List UInt8 := s.flatMap String.utf8EncodeChar

end Utf8

end RequestMeter.Text

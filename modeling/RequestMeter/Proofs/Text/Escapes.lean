/-
Every text can be sent through bytes and through percent escapes and is read back unharmed.

The bytes of a character are taken one after another.  The first of them begins a character that
lets through just the followers which it can have (`start_of_three`, `start_of_four`), so nothing
is replaced and the payload bits add up to the code point again (`decodeFrom_encodeChar`).  A byte
that is no percent sign passes the decoder of escapes as it is, and an escape gives its byte or, if
it is kept, stays whole (`decodeAfter_escape`); so a text comes back whether all of it is escaped
(`decodeAll_escapeAll`) or, if it has no percent sign, none of it (`decode_of_notMem`).
-/
import RequestMeter.Text.Percent
import Mathlib.Data.List.Basic

namespace RequestMeter.Text

namespace Utf8

/-! ### One byte after another -/

theorem decodeFrom_ascii {b : UInt8} {c : Char} (h : start b.toNat = .ascii c)
    (rest : List UInt8) : decodeFrom none (b :: rest) = c :: decodeFrom none rest := by
  simp only [decodeFrom, h]

theorem decodeFrom_lead {b : UInt8} {p : PartialChar} (h : start b.toNat = .lead p)
    (rest : List UInt8) : decodeFrom none (b :: rest) = decodeFrom (some p) rest := by
  simp only [decodeFrom, h]

section

variable {b : UInt8} {p : PartialChar} (h : p.least ≤ b.toNat ∧ b.toNat ≤ p.greatest)
  (rest : List UInt8)

include h

private theorem decodeFrom_last (hmissing : p.missing ≤ 1) :
    decodeFrom (some p) (b :: rest) =
      Char.ofNat (p.value * 64 + b.toNat % 64) :: decodeFrom none rest := by
  rw [decodeFrom, if_pos h, if_pos hmissing]

private theorem decodeFrom_more (hmissing : 1 < p.missing) :
    decodeFrom (some p) (b :: rest) =
      decodeFrom (some ⟨p.value * 64 + b.toNat % 64, p.missing - 1, 0x80, 0xbf⟩) rest := by
  rw [decodeFrom, if_pos h, if_neg (Nat.not_le.mpr hmissing)]

end

/-! ### What a first byte lets through

After some first bytes not every follower will do, which keeps out overlong forms, surrogates and
numbers beyond the last code point.  The bytes of a character are never among those kept out.
-/

private theorem start_of_two {b : Nat} (hlow : 0xc2 ≤ b) (hhigh : b < 0xe0) :
    start b = .lead ⟨b - 0xc0, 1, 0x80, 0xbf⟩ := by
  unfold start
  rw [if_neg (by omega), if_neg (by omega), if_pos hhigh]

private theorem start_of_three {b : Nat} (hlow : 0xe0 ≤ b) (hhigh : b < 0xf0) :
    start b = .lead ⟨b - 0xe0, 2, if b = 0xe0 then 0xa0 else 0x80,
      if b = 0xed then 0x9f else 0xbf⟩ := by
  unfold start
  rw [if_neg (by omega), if_neg (by omega), if_neg (by omega)]
  by_cases he0 : b = 0xe0
  · subst he0
    rfl
  · by_cases hed : b = 0xed
    · subst hed
      rfl
    · simp only [if_neg he0, if_neg hed, if_pos hhigh]

private theorem start_of_four {b : Nat} (hlow : 0xf0 ≤ b) (hhigh : b ≤ 0xf4) :
    start b = .lead ⟨b - 0xf0, 3, if b = 0xf0 then 0x90 else 0x80,
      if b = 0xf4 then 0x8f else 0xbf⟩ := by
  have hcases : b = 0xf0 ∨ b = 0xf1 ∨ b = 0xf2 ∨ b = 0xf3 ∨ b = 0xf4 := by omega
  rcases hcases with rfl | rfl | rfl | rfl | rfl <;> rfl

/-! ### A character is read back from its bytes -/

section

variable {v : Nat} (rest : List UInt8)

private theorem decodeFrom_one_byte (h : v ≤ 0x7f) :
    decodeFrom none (UInt8.ofNat v :: rest) = Char.ofNat v :: decodeFrom none rest := by
  have hstart : start v = .ascii (Char.ofNat v) := if_pos (by omega)
  have hbyte : (UInt8.ofNat v).toNat = v :=
    UInt8.toNat_ofNat_of_lt' (Nat.lt_of_le_of_lt h (by decide))
  rw [decodeFrom_ascii]
  rw [hbyte, hstart]

private theorem decodeFrom_two_bytes (hlow : 0x7f < v) (hhigh : v ≤ 0x7ff) :
    decodeFrom none (UInt8.ofNat (v / 64 % 0x20 + 0xc0) :: UInt8.ofNat (v % 0x40 + 0x80) :: rest) =
      Char.ofNat v :: decodeFrom none rest := by
  have h0 : (UInt8.ofNat (v / 64 % 0x20 + 0xc0)).toNat = v / 64 + 0xc0 := by
    rw [UInt8.toNat_ofNat']
    omega
  have h1 : (UInt8.ofNat (v % 0x40 + 0x80)).toNat = v % 64 + 0x80 := by
    rw [UInt8.toNat_ofNat']
    omega
  have hstart := start_of_two (b := v / 64 + 0xc0) (by omega) (by omega)
  rw [← h0] at hstart
  rw [decodeFrom_lead hstart, decodeFrom_last (by dsimp only; omega) rest (by dsimp only; omega)]
  congr 2
  dsimp only
  omega

private theorem decodeFrom_three_bytes (hlow : 0x7ff < v) (hhigh : v ≤ 0xffff)
    (hvalid : v < 0xd800 ∨ 0xdfff < v) :
    decodeFrom none (UInt8.ofNat (v / 4096 % 0x10 + 0xe0) ::
        UInt8.ofNat (v / 64 % 0x40 + 0x80) :: UInt8.ofNat (v % 0x40 + 0x80) :: rest) =
      Char.ofNat v :: decodeFrom none rest := by
  have h0 : (UInt8.ofNat (v / 4096 % 0x10 + 0xe0)).toNat = v / 4096 + 0xe0 := by
    rw [UInt8.toNat_ofNat']
    omega
  have h1 : (UInt8.ofNat (v / 64 % 0x40 + 0x80)).toNat = v / 64 % 64 + 0x80 := by
    rw [UInt8.toNat_ofNat']
    omega
  have h2 : (UInt8.ofNat (v % 0x40 + 0x80)).toNat = v % 64 + 0x80 := by
    rw [UInt8.toNat_ofNat']
    omega
  have hstart := start_of_three (b := v / 4096 + 0xe0) (by omega) (by omega)
  rw [← h0] at hstart
  -- the least follower keeps out overlong forms, the greatest one keeps out surrogates
  rw [decodeFrom_lead hstart, decodeFrom_more (by dsimp only; split <;> split <;> omega) _
    (by dsimp only; omega), decodeFrom_last (by dsimp only; omega) rest (by dsimp only; omega)]
  congr 2
  dsimp only
  omega

private theorem decodeFrom_four_bytes (hlow : 0xffff < v) (hhigh : v < 0x110000) :
    decodeFrom none (UInt8.ofNat (v / 262144 % 0x08 + 0xf0) ::
        UInt8.ofNat (v / 4096 % 0x40 + 0x80) :: UInt8.ofNat (v / 64 % 0x40 + 0x80) ::
        UInt8.ofNat (v % 0x40 + 0x80) :: rest) =
      Char.ofNat v :: decodeFrom none rest := by
  have h0 : (UInt8.ofNat (v / 262144 % 0x08 + 0xf0)).toNat = v / 262144 + 0xf0 := by
    rw [UInt8.toNat_ofNat']
    omega
  have h1 : (UInt8.ofNat (v / 4096 % 0x40 + 0x80)).toNat = v / 4096 % 64 + 0x80 := by
    rw [UInt8.toNat_ofNat']
    omega
  have h2 : (UInt8.ofNat (v / 64 % 0x40 + 0x80)).toNat = v / 64 % 64 + 0x80 := by
    rw [UInt8.toNat_ofNat']
    omega
  have h3 : (UInt8.ofNat (v % 0x40 + 0x80)).toNat = v % 64 + 0x80 := by
    rw [UInt8.toNat_ofNat']
    omega
  have hstart := start_of_four (b := v / 262144 + 0xf0) (by omega) (by omega)
  rw [← h0] at hstart
  rw [decodeFrom_lead hstart, decodeFrom_more (by dsimp only; split <;> split <;> omega) _
    (by dsimp only; omega), decodeFrom_more (by dsimp only; omega) _ (by dsimp only; omega),
    decodeFrom_last (by dsimp only; omega) rest (by dsimp only; omega)]
  congr 2
  dsimp only
  omega

end

/-- A character is read back from its bytes, and reading goes on behind them. -/
theorem decodeFrom_encodeChar (c : Char) (rest : List UInt8) :
    decodeFrom none (String.utf8EncodeChar c ++ rest) = c :: decodeFrom none rest := by
  have hvalid : c.toNat < 0xd800 ∨ 0xdfff < c.toNat ∧ c.toNat < 0x110000 := c.valid
  have hback : Char.ofNat c.toNat = c := Char.ofNat_toNat c
  have hval : c.val.toNat = c.toNat := rfl
  unfold String.utf8EncodeChar
  rw [hval]
  generalize c.toNat = v at hvalid hback
  subst hback
  dsimp only
  by_cases h1 : v ≤ 0x7f
  · rw [if_pos h1]
    exact decodeFrom_one_byte rest h1
  rw [if_neg h1]
  by_cases h2 : v ≤ 0x7ff
  · rw [if_pos h2]
    exact decodeFrom_two_bytes rest (by omega) h2
  rw [if_neg h2]
  by_cases h3 : v ≤ 0xffff
  · rw [if_pos h3]
    exact decodeFrom_three_bytes rest (by omega) h3 (by omega)
  · rw [if_neg h3]
    exact decodeFrom_four_bytes rest (by omega) (by omega)

/-- A text is read back from its bytes, and reading goes on behind them. -/
theorem decodeFrom_encode_append (s : List Char) (rest : List UInt8) :
    decodeFrom none (encode s ++ rest) = s ++ decodeFrom none rest := by
  unfold encode
  induction s with
  | nil => rfl
  | cons c later ih =>
      rw [List.flatMap_cons, List.append_assoc, decodeFrom_encodeChar, ih]
      rfl

/-- A text is read back from its bytes. -/
theorem decode_encode (s : List Char) : decode (encode s) = s := by
  have happend := decodeFrom_encode_append s []
  rw [List.append_nil, decodeFrom, List.append_nil] at happend
  exact happend

theorem encode_append (s t : List Char) : encode (s ++ t) = encode s ++ encode t :=
  List.flatMap_append

theorem encodeChar_of_ascii {c : Char} (h : c.toNat < 128) :
    String.utf8EncodeChar c = [UInt8.ofNat c.toNat] := by
  have hval : c.val.toNat ≤ 0x7f := Nat.le_of_lt_succ h
  unfold String.utf8EncodeChar
  exact if_pos hval

end Utf8

namespace Percent

open Utf8

/-- A byte as an escape. -/
def escapeByte (b : UInt8) : List Char :=
  ['%', Nat.digitChar (b.toNat / 16), Nat.digitChar (b.toNat % 16)]

/-- A text of which every byte is escaped. -/
def escapeAll (s : List Char) : List Char := (encode s).flatMap escapeByte

/-! ### Bytes that stand for themselves

Escapes are decoded in bytes, and a text is made of characters.  What brings the two together is
that the byte of the percent sign occurs in no other character, so those are passed over whole.
-/

theorem decodeAfter_cons_of_ne (keep : UInt8 → Bool) {b : UInt8} (h : b ≠ 0x25)
    (rest : List UInt8) : decodeAfter keep 0 (b :: rest) = b :: decodeAfter keep 0 rest := by
  rw [decodeAfter, if_neg h]

theorem decodeAfter_append_of_notMem (keep : UInt8 → Bool) {bytes : List UInt8}
    (h : 0x25 ∉ bytes) (rest : List UInt8) :
    decodeAfter keep 0 (bytes ++ rest) = bytes ++ decodeAfter keep 0 rest := by
  induction bytes with
  | nil => rfl
  | cons b later ih =>
      rw [List.mem_cons, not_or] at h
      rw [List.cons_append, decodeAfter_cons_of_ne keep (Ne.symm h.1), ih h.2]
      rfl

/-- Only the percent sign has its byte. -/
private theorem percent_notMem_encodeChar {c : Char} (h : c ≠ '%') :
    0x25 ∉ String.utf8EncodeChar c := by
  have hval : c.toNat ≠ 0x25 := fun heq => h (Char.toNat_inj.mp heq)
  have hlt : ∀ {n : Nat}, n < 256 → n ≠ 0x25 → ¬ (0x25 : UInt8) = UInt8.ofNat n := by
    intro n hn hne heq
    have hnat := congrArg UInt8.toNat heq
    rw [UInt8.toNat_ofNat_of_lt' hn] at hnat
    exact hne hnat.symm
  change c.val.toNat ≠ 0x25 at hval
  unfold String.utf8EncodeChar
  dsimp only
  split
  · simpa using hlt (by omega) hval
  · split
    · simp only [List.mem_cons, List.not_mem_nil, or_false, not_or]
      exact ⟨hlt (by omega) (by omega), hlt (by omega) (by omega)⟩
    · split
      · simp only [List.mem_cons, List.not_mem_nil, or_false, not_or]
        exact ⟨hlt (by omega) (by omega), hlt (by omega) (by omega), hlt (by omega) (by omega)⟩
      · simp only [List.mem_cons, List.not_mem_nil, or_false, not_or]
        exact ⟨hlt (by omega) (by omega), hlt (by omega) (by omega), hlt (by omega) (by omega),
          hlt (by omega) (by omega)⟩

theorem decode_cons_of_ne (keep : UInt8 → Bool) {c : Char} (h : c ≠ '%') (s : List Char) :
    decode keep (c :: s) = c :: decode keep s := by
  have hbytes : encode (c :: s) = String.utf8EncodeChar c ++ encode s := List.flatMap_cons
  unfold decode
  rw [hbytes, decodeAfter_append_of_notMem keep (percent_notMem_encodeChar h)]
  exact decodeFrom_encodeChar c _

/-- Decoding begins at the first percent sign. -/
theorem decode_append (keep : UInt8 → Bool) {s : List Char} (h : '%' ∉ s) (t : List Char) :
    decode keep (s ++ t) = s ++ decode keep t := by
  induction s with
  | nil => rfl
  | cons c rest ih =>
      rw [List.mem_cons, not_or] at h
      rw [List.cons_append, decode_cons_of_ne keep (Ne.symm h.1), ih h.2]
      rfl

/-- A text without a percent sign is left as it is. -/
theorem decode_of_notMem (keep : UInt8 → Bool) {s : List Char} (h : '%' ∉ s) :
    decode keep s = s := by
  have happend := decode_append keep h []
  rw [List.append_nil] at happend
  rw [happend]
  exact List.append_nil s

/-! ### An escape is kept whole or gives its byte -/

/-- A hexadecimal digit stands for a number, in either case. -/
def IsHexDigit (c : Char) (n : Nat) : Prop :=
  n < 16 ∧ (c = Nat.digitChar n ∨ c = (Nat.digitChar n).toUpper)

theorem isHexDigit_digitChar {n : Nat} (h : n < 16) : IsHexDigit (Nat.digitChar n) n :=
  ⟨h, Or.inl rfl⟩

/-- What is told of both cases of every digit holds of a hexadecimal digit. -/
theorem IsHexDigit.elim {p : Char → Nat → Prop}
    (hall : ∀ n < 16, p (Nat.digitChar n) n ∧ p (Nat.digitChar n).toUpper n) {c : Char} {n : Nat}
    (h : IsHexDigit c n) : p c n := by
  obtain ⟨hn, rfl | rfl⟩ := h
  · exact (hall n hn).1
  · exact (hall n hn).2

theorem IsHexDigit.encode_eq {c : Char} {n : Nat} (h : IsHexDigit c n) :
    String.utf8EncodeChar c = [UInt8.ofNat c.toNat] ∧
      hexDigit? (UInt8.ofNat c.toNat) = some n ∧ UInt8.ofNat c.toNat ≠ 0x25 :=
  h.elim (p := fun c n => String.utf8EncodeChar c = [UInt8.ofNat c.toNat] ∧
    hexDigit? (UInt8.ofNat c.toNat) = some n ∧ UInt8.ofNat c.toNat ≠ 0x25) (by decide)

/-- An escape that is kept stays whole, and any other gives its byte; decoding goes on behind it. -/
theorem decodeAfter_escape (keep : UInt8 → Bool) {b : UInt8} {high low : Char}
    (hhigh : IsHexDigit high (b.toNat / 16)) (hlow : IsHexDigit low (b.toNat % 16))
    (rest : List UInt8) :
    decodeAfter keep 0 (encode ['%', high, low] ++ rest) =
      if keep b then encode ['%', high, low] ++ decodeAfter keep 0 rest
      else b :: decodeAfter keep 0 rest := by
  obtain ⟨hhigh, hhigh', hhighNe⟩ := hhigh.encode_eq
  obtain ⟨hlow, hlow', hlowNe⟩ := hlow.encode_eq
  have hbytes : encode ['%', high, low] =
      [0x25, UInt8.ofNat high.toNat, UInt8.ofNat low.toNat] := by
    unfold encode
    rw [List.flatMap_cons, List.flatMap_cons, List.flatMap_cons, hhigh, hlow]
    rfl
  have hbyte : UInt8.ofNat (16 * (b.toNat / 16) + b.toNat % 16) = b := by
    rw [Nat.div_add_mod]
    exact UInt8.ofNat_toNat
  rw [hbytes]
  simp only [List.cons_append, List.nil_append]
  rw [decodeAfter, if_pos rfl]
  simp only [escaped?, hhigh', hlow', hbyte]
  split
  · rw [decodeAfter_cons_of_ne keep hhighNe, decodeAfter_cons_of_ne keep hlowNe]
  · rfl

/-- A text of which every byte is escaped is read back. -/
theorem decodeAll_escapeAll (s : List Char) : decodeAll (escapeAll s) = s := by
  have hbytes : ∀ bytes : List UInt8,
      decodeAfter (fun _ => false) 0 (encode (bytes.flatMap escapeByte)) = bytes := by
    intro bytes
    induction bytes with
    | nil => rfl
    | cons b rest ih =>
        have hb : b.toNat < 256 := b.toNat_lt
        have hhigh := isHexDigit_digitChar (n := b.toNat / 16) (by omega)
        have hlow := isHexDigit_digitChar (n := b.toNat % 16) (by omega)
        rw [List.flatMap_cons, encode_append, escapeByte, decodeAfter_escape _ hhigh hlow, ih]
        rfl
  rw [decodeAll, decode, escapeAll, hbytes, decode_encode]

/-- Escapes are made of percent signs and hexadecimal digits. -/
theorem mem_escapeAll {s : List Char} {c : Char} (h : c ∈ escapeAll s) :
    c = '%' ∨ ∃ n < 16, c = Nat.digitChar n := by
  unfold escapeAll at h
  obtain ⟨b, -, hc⟩ := List.mem_flatMap.mp h
  have hb : b.toNat < 256 := b.toNat_lt
  simp only [escapeByte, List.mem_cons, List.not_mem_nil, or_false] at hc
  rcases hc with rfl | rfl | rfl
  · exact Or.inl rfl
  · exact Or.inr ⟨_, by omega, rfl⟩
  · exact Or.inr ⟨_, by omega, rfl⟩

end Percent

end RequestMeter.Text

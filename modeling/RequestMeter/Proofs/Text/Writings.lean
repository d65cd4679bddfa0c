/-
Texts that are written with some of their characters escaped, and decoded twice.

Each ASCII character of a text may be escaped or not, and all such writings are decoded to the
text (`Writes.decodeAll_eq`).  A decoding that keeps the escapes of the percent sign leaves a
writing of the same text (`Writes.decode`): a character that it makes plain completes no escape,
since the percent sign before it would have to be plain as well.  Whatever a text is made of, an
ASCII character that has no part in an escape is still there after the decoding (`mem_decode`).
-/
import RequestMeter.Proofs.Text.Escapes

namespace RequestMeter.Text

namespace Utf8

/-! ### What is never lost

What is no UTF-8 is replaced, so decoding can lose characters.  It never loses those of ASCII: such
a byte continues no longer character, and one that is broken off ends before it.
-/

private theorem le_least_of_start {b : Nat} {p : PartialChar} (h : start b = .lead p) :
    0x80 ≤ p.least := by
  unfold start at h
  split_ifs at h <;> simp only [Utf8Start.lead.injEq] at h
  all_goals
    subst h
    dsimp only
    omega

/-- An ASCII byte is never part of a longer character, so it gives its own one. -/
theorem mem_decodeFrom {b : UInt8} (hb : b.toNat < 0x80) {bytes : List UInt8} (h : b ∈ bytes)
    {p : Option PartialChar} (hp : ∀ q, p = some q → 0x80 ≤ q.least) :
    Char.ofNat b.toNat ∈ decodeFrom p bytes := by
  induction bytes generalizing p with
  | nil => cases h
  | cons first rest ih =>
      have hnone : Char.ofNat b.toNat ∈ decodeFrom none (first :: rest) := by
        rcases List.mem_cons.mp h with rfl | hrest
        · rw [decodeFrom_ascii (if_pos hb)]
          exact List.mem_cons_self
        · have hlater : Char.ofNat b.toNat ∈ decodeFrom none rest := ih hrest (by simp)
          cases hstart : start first.toNat with
          | ascii c =>
              rw [decodeFrom_ascii hstart]
              exact List.mem_cons_of_mem _ hlater
          | lead q =>
              rw [decodeFrom_lead hstart]
              refine ih hrest fun r hr => ?_
              obtain rfl := Option.some.inj hr
              exact le_least_of_start hstart
          | stray =>
              simp only [decodeFrom, hstart]
              exact List.mem_cons_of_mem _ hlater
      cases p with
      | none => exact hnone
      | some q =>
          have hleast := hp q rfl
          rw [decodeFrom]
          split
          case isTrue hrange =>
              have hrest : b ∈ rest := by
                refine (List.mem_cons.mp h).resolve_left ?_
                rintro rfl
                omega
              dsimp only
              split
              · exact List.mem_cons_of_mem _ (ih hrest (by simp))
              · refine ih hrest fun r hr => ?_
                obtain rfl := Option.some.inj hr
                exact Nat.le_refl _
          case isFalse => exact List.mem_cons_of_mem _ hnone

end Utf8

namespace Percent

open Utf8

/-! ### What has no part in an escape -/

/-- An escape is completed by two hexadecimal digits. -/
private theorem exists_of_escaped?_eq_some {bytes : List UInt8} {b : UInt8}
    (h : escaped? bytes = some b) :
    ∃ high low rest, bytes = high :: low :: rest ∧ hexDigit? high ≠ none ∧
      hexDigit? low ≠ none := by
  unfold escaped? at h
  split at h
  case h_1 high low rest =>
      split at h
      case h_1 hhigh hlow => exact ⟨high, low, rest, rfl, by simp [hhigh], by simp [hlow]⟩
      case h_2 => cases h
  case h_2 => cases h

/-- A byte that has no part in an escape is not lost. -/
theorem mem_decodeAfter (keep : UInt8 → Bool) {b : UInt8} (hpercent : b ≠ 0x25)
    (hdigit : hexDigit? b = none) {skip : Nat} {bytes : List UInt8} (h : b ∈ bytes.drop skip) :
    b ∈ decodeAfter keep skip bytes := by
  induction bytes generalizing skip with
  | nil => simp at h
  | cons first rest ih =>
      cases skip with
      | succ skip => exact ih h
      | zero =>
          rw [List.drop_zero] at h
          by_cases hfirst : first = 0x25
          · have hrest : b ∈ rest := (List.mem_cons.mp h).resolve_left (hfirst ▸ hpercent)
            have hplain : b ∈ first :: decodeAfter keep 0 rest := List.mem_cons_of_mem _ (ih hrest)
            rw [decodeAfter, if_pos hfirst]
            cases hescaped : escaped? rest with
            | none => exact hplain
            | some byte =>
                dsimp only
                split
                · exact hplain
                · obtain ⟨high, low, later, rfl, hhigh, hlow⟩ :=
                    exists_of_escaped?_eq_some hescaped
                  refine List.mem_cons_of_mem _ (ih ?_)
                  rw [List.mem_cons, List.mem_cons] at hrest
                  refine (hrest.resolve_left ?_).resolve_left ?_
                  · rintro rfl
                    exact hhigh hdigit
                  · rintro rfl
                    exact hlow hdigit
          · rw [decodeAfter_cons_of_ne keep hfirst]
            exact List.mem_cons.mpr ((List.mem_cons.mp h).imp_right ih)

/-- An ASCII character that has no part in an escape is not lost. -/
theorem mem_decode (keep : UInt8 → Bool) {c : Char} (hascii : c.toNat < 128) (hpercent : c ≠ '%')
    (hdigit : hexDigit? (UInt8.ofNat c.toNat) = none) {s : List Char} (h : c ∈ s) :
    c ∈ decode keep s := by
  have hbyte : (UInt8.ofNat c.toNat).toNat = c.toNat :=
    UInt8.toNat_ofNat_of_lt' (Nat.lt_trans hascii (by decide))
  have hmem : UInt8.ofNat c.toNat ∈ encode s := by
    refine List.mem_flatMap.mpr ⟨c, h, ?_⟩
    rw [encodeChar_of_ascii hascii]
    exact List.mem_singleton_self _
  have hne : UInt8.ofNat c.toNat ≠ 0x25 := by
    intro heq
    have hnat := congrArg UInt8.toNat heq
    rw [hbyte] at hnat
    exact hpercent (Char.toNat_inj.mp hnat)
  have hdecoded : UInt8.ofNat c.toNat ∈ decodeAfter keep 0 (encode s) :=
    mem_decodeAfter keep hne hdigit hmem
  have hchar := mem_decodeFrom (by omega) hdecoded (p := none) (by simp)
  rwa [hbyte, Char.ofNat_toNat] at hchar

/-! ### Texts of which a part is escaped

Clients may escape more than they have to, and with digits of either case.  `Writes` relates a text
to all such writings of it, so what is proved of a writing holds whatever a client chooses.
-/

/-- A writing of a text: each character stands for itself, unless it is a percent sign, or is an
ASCII character that is escaped. -/
inductive Writes : List Char → List Char → Prop
  | nil : Writes [] []
  | plain {c : Char} {t s : List Char} (hc : c ≠ '%') (h : Writes t s) : Writes (c :: t) (c :: s)
  | escape {c high low : Char} {t s : List Char} (hascii : c.toNat < 128)
      (hhigh : IsHexDigit high (c.toNat / 16)) (hlow : IsHexDigit low (c.toNat % 16))
      (h : Writes t s) : Writes ('%' :: high :: low :: t) (c :: s)

/-- The escape of an ASCII character, kept or decoded. -/
theorem decode_escape (keep : UInt8 → Bool) {c high low : Char} (hascii : c.toNat < 128)
    (hhigh : IsHexDigit high (c.toNat / 16)) (hlow : IsHexDigit low (c.toNat % 16))
    (t : List Char) :
    decode keep ('%' :: high :: low :: t) =
      if keep (UInt8.ofNat c.toNat) then '%' :: high :: low :: decode keep t
      else c :: decode keep t := by
  have hbyte : (UInt8.ofNat c.toNat).toNat = c.toNat :=
    UInt8.toNat_ofNat_of_lt' (Nat.lt_trans hascii (by decide))
  have htext : encode ('%' :: high :: low :: t) = encode ['%', high, low] ++ encode t :=
    encode_append ['%', high, low] t
  rw [← hbyte] at hhigh hlow
  unfold decode Utf8.decode
  rw [htext, decodeAfter_escape keep hhigh hlow]
  split
  · exact decodeFrom_encode_append ['%', high, low] _
  · have hchar := decodeFrom_encodeChar c (decodeAfter keep 0 (encode t))
    rwa [encodeChar_of_ascii hascii] at hchar

namespace Writes

variable {t s : List Char} (h : Writes t s)

include h

/-- Decoding every escape gives the text that is written. -/
theorem decodeAll_eq : decodeAll t = s := by
  induction h with
  | nil => rfl
  | plain hc h ih => exact (decode_cons_of_ne _ hc _).trans (congrArg _ ih)
  | escape hascii hhigh hlow h ih =>
      rw [decodeAll, decode_escape _ hascii hhigh hlow, if_neg Bool.false_ne_true]
      exact congrArg _ ih

/-- If the escapes of the percent sign are kept, what is left to decode writes the same text. -/
theorem decode {keep : UInt8 → Bool} (hkeep : keep 0x25 = true) :
    Writes (Percent.decode keep t) s := by
  induction h with
  | nil => exact .nil
  | plain hc h ih =>
      rw [decode_cons_of_ne keep hc]
      exact .plain hc ih
  | @escape c high low t s hascii hhigh hlow h ih =>
      rw [decode_escape keep hascii hhigh hlow]
      by_cases hc : keep (UInt8.ofNat c.toNat) = true
      · rw [if_pos hc]
        exact .escape hascii hhigh hlow ih
      · rw [if_neg hc]
        refine .plain ?_ ih
        rintro rfl
        exact hc hkeep

/-- A writing has no character but those of the text, percent signs and hexadecimal digits. -/
theorem notMem {c : Char} (hpercent : c ≠ '%')
    (hdigit : ∀ n < 16, c ≠ Nat.digitChar n ∧ c ≠ (Nat.digitChar n).toUpper) (hs : c ∉ s) :
    c ∉ t := by
  induction h with
  | nil => exact hs
  | plain hc h ih =>
      rw [List.mem_cons, not_or] at hs ⊢
      exact ⟨hs.1, ih hs.2⟩
  | escape hascii hhigh hlow h ih =>
      rw [List.mem_cons, not_or] at hs
      simp only [List.mem_cons, not_or]
      exact ⟨hpercent, hhigh.elim (p := fun digit _ => c ≠ digit) hdigit,
        hlow.elim (p := fun digit _ => c ≠ digit) hdigit, ih hs.2⟩

end Writes

end Percent

end RequestMeter.Text

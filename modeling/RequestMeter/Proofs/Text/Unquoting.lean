/-
Reading quoted text.

The reader goes through the text once and knows at each character whether it stands in an escape,
and where.  Every character is read back from what it is written as, and the reader is then
outside of escapes again (`unquoteFrom_escape`), so the text between the quotes is read back one
character after another (`unquote?_quoted`).  What stands between them is printable or belongs to
an escape, so it never breaks the line (`quoted_isOneLine`).
-/
import RequestMeter.Text.Quoted
import Mathlib.Data.List.Basic

namespace RequestMeter.Text

/-! ### The reader

It takes any short escape and any code point in braces, whether or not the writer would have escaped
that character.  So that a text is read back says something of the writer.
-/

/-- Where a reader of quoted text stands. -/
inductive QuoteReader where
  /-- Outside of escapes. -/
  | plain
  /-- Behind a backslash. -/
  | escape
  /-- Before the brace of a code point. -/
  | brace
  /-- Among the digits of a code point, with the number read so far. -/
  | code (n : Nat)
deriving DecidableEq

/-- The character of a short escape. -/
def shortEscape? (c : Char) : Option Char :=
  if c = '0' then some '\x00'
  else if c = 't' then some '\t'
  else if c = 'r' then some '\r'
  else if c = 'n' then some '\n'
  else if c = '"' then some '"'
  else if c = '\\' then some '\\'
  else none

/-- What a hexadecimal digit of a code point stands for. -/
def codeDigit? (c : Char) : Option Nat := (List.range 16).find? fun n => Nat.digitChar n = c

/-- The character of a code point, if there is one. -/
def charOfCode? (n : Nat) : Option Char := if n.isValidChar then some (Char.ofNat n) else none

/-- Reads up to the quote at the end. -/
def unquoteFrom : QuoteReader → List Char → Option (List Char)
  | _, [] => none
  | .plain, c :: rest =>
    if c = '"' then if rest = [] then some [] else none
    else if c = '\\' then unquoteFrom .escape rest
    else (unquoteFrom .plain rest).map (c :: ·)
  | .escape, c :: rest =>
    if c = 'u' then unquoteFrom .brace rest
    else (shortEscape? c).bind fun escaped => (unquoteFrom .plain rest).map (escaped :: ·)
  | .brace, c :: rest => if c = '\x7b' then unquoteFrom (.code 0) rest else none
  | .code n, c :: rest =>
    if c = '\x7d' then
      (charOfCode? n).bind fun escaped => (unquoteFrom .plain rest).map (escaped :: ·)
    else (codeDigit? c).bind fun digit => unquoteFrom (.code (16 * n + digit)) rest

/-- The text between quotes, if there is nothing else. -/
def unquote? : List Char → Option (List Char)
  | '"' :: s => unquoteFrom .plain s
  | _ => none

example : unquote? "\"\\u\x7b1f600\x7d\\t\"".toList = some "😀\t".toList := by decide +kernel

example : unquote? "\"\"\"".toList = none := by decide

example : unquote? "\"\\u\x7bd800\x7d\"".toList = none := by decide +kernel

/-! ### The digits of a code point are read back -/

private theorem codeDigit?_digitChar {n : Nat} (h : n < 16) :
    codeDigit? (Nat.digitChar n) = some n ∧ Nat.digitChar n ≠ '\x7d' := by
  revert n
  decide

private theorem unquoteFrom_digit {n : Nat} (h : n < 16) (m : Nat) (rest : List Char) :
    unquoteFrom (.code m) (Nat.digitChar n :: rest) = unquoteFrom (.code (16 * m + n)) rest := by
  obtain ⟨hdigit, hne⟩ := codeDigit?_digitChar h
  rw [unquoteFrom, if_neg hne, hdigit]
  rfl

/-- The digits of a number are a digit, or those of a smaller number and a digit behind them. -/
private theorem toDigits_induction {motive : Nat → List Char → Prop}
    (digit : ∀ d < 16, motive d [Nat.digitChar d])
    (concat : ∀ n s, motive n s → ∀ d < 16, motive (16 * n + d) (s ++ [Nat.digitChar d]))
    (n : Nat) : motive n (Nat.toDigits 16 n) := by
  induction n using Nat.strongRecOn with
  | ind n ih =>
      rcases Nat.lt_or_ge n 16 with hlt | hge
      · rw [Nat.toDigits_of_lt_base hlt]
        exact digit n hlt
      · have hlast := concat _ _ (ih (n / 16) (by omega)) _ (Nat.mod_lt n (by decide))
        rwa [Nat.div_add_mod, ← Nat.toDigits_of_base_le (by decide) hge] at hlast

/-- The digits of a number are read as the number. -/
theorem unquoteFrom_toDigits (n : Nat) (rest : List Char) :
    unquoteFrom (.code 0) (Nat.toDigits 16 n ++ rest) = unquoteFrom (.code n) rest := by
  induction n using toDigits_induction generalizing rest with
  | digit d hd => rw [List.singleton_append, unquoteFrom_digit hd, Nat.mul_zero, Nat.zero_add]
  | concat n s ih d hd => rw [List.append_assoc, ih, List.singleton_append, unquoteFrom_digit hd]

private theorem charOfCode?_toNat (c : Char) : charOfCode? c.toNat = some c := by
  have hvalid : c.toNat.isValidChar := c.valid
  rw [charOfCode?, if_pos hvalid, Char.ofNat_toNat]

/-! ### Characters -/

/-- A character is read back, and reading goes on behind it. -/
theorem unquoteFrom_escape (c : Char) (rest : List Char) :
    unquoteFrom .plain (escape c ++ rest) = (unquoteFrom .plain rest).map (c :: ·) := by
  unfold escape
  split_ifs with hnull htab hreturn hfeed hquote hbackslash hplain
  · subst hnull
    rfl
  · subst htab
    rfl
  · subst hreturn
    rfl
  · subst hfeed
    rfl
  · subst hquote
    rfl
  · subst hbackslash
    rfl
  · rw [List.singleton_append, unquoteFrom, if_neg hquote, if_neg hbackslash]
  · have hread := unquoteFrom_toDigits c.toNat ('\x7d' :: rest)
    have hend : unquoteFrom (.code c.toNat) ('\x7d' :: rest) =
        (unquoteFrom .plain rest).map (c :: ·) := by
      rw [unquoteFrom, if_pos rfl, charOfCode?_toNat]
      rfl
    rw [hend] at hread
    rw [← hread, bracedCode]
    simp only [List.cons_append, List.append_assoc]
    rfl

/-- A quoted text is read back, whatever it is. -/
theorem unquote?_quoted (s : List Char) : unquote? (quoted s) = some s := by
  have hread : unquoteFrom .plain (s.flatMap escape ++ ['"']) = some s := by
    induction s with
    | nil => rfl
    | cons c rest ih =>
        rw [List.flatMap_cons, List.append_assoc, unquoteFrom_escape, ih]
        rfl
  exact hread

/-! ### One line

What breaks a line is said by code points, without a look at the writer.  The writer goes by a table
of what cannot be printed, and all that breaks a line is in this table.
-/

/-- A control character, or one that breaks a line: the separators of lines and paragraphs do, and
the other line breaks are controls. -/
def BreaksLine (c : Char) : Prop :=
  c.toNat ≤ 0x1f ∨ 0x7f ≤ c.toNat ∧ c.toNat ≤ 0x9f ∨ c.toNat = 0x2028 ∨ c.toNat = 0x2029

instance (c : Char) : Decidable (BreaksLine c) :=
  inferInstanceAs (Decidable (_ ∨ _))

/-- A text on one line, without a control character. -/
def IsOneLine (s : List Char) : Prop := ∀ c ∈ s, ¬ BreaksLine c

instance (s : List Char) : Decidable (IsOneLine s) :=
  List.decidableBAll (fun c => ¬ BreaksLine c) s

theorem IsOneLine.append {s t : List Char} (hs : IsOneLine s) (ht : IsOneLine t) :
    IsOneLine (s ++ t) :=
  fun c hc => (List.mem_append.mp hc).elim (hs c) (ht c)

private theorem isPrintable_eq_false {c : Char} {r : CodeRange} (hr : r ∈ unprintableRanges)
    (hc : r.contains c = true) : isPrintable c = false := by
  rw [isPrintable, Bool.not_eq_false', List.any_eq_true]
  exact ⟨r, hr, hc⟩

/-- What breaks a line cannot be printed. -/
theorem not_breaksLine_of_isPrintable {c : Char} (h : isPrintable c = true) : ¬ BreaksLine c := by
  intro hbreaks
  obtain ⟨r, hr, hc⟩ : ∃ r ∈ unprintableRanges, r.contains c = true := by
    simp only [CodeRange.contains, Bool.and_eq_true, decide_eq_true_eq]
    rcases hbreaks with hlow | hhigh | hline | hparagraph
    · exact ⟨(0x0, 0x1f), by decide +kernel, Nat.zero_le _, hlow⟩
    · exact ⟨(0x7f, 0xa0), by decide +kernel, hhigh.1, by omega⟩
    · exact ⟨(0x2028, 0x202f), by decide +kernel, by omega, by omega⟩
    · exact ⟨(0x2028, 0x202f), by decide +kernel, by omega, by omega⟩
  rw [isPrintable_eq_false hr hc] at h
  cases h

private theorem exists_digitChar_of_mem_toDigits (n : Nat) :
    ∀ c ∈ Nat.toDigits 16 n, ∃ d < 16, c = Nat.digitChar d := by
  induction n using toDigits_induction with
  | digit d hd =>
      rw [List.forall_mem_singleton]
      exact ⟨d, hd, rfl⟩
  | concat n s ih d hd =>
      rw [List.forall_mem_append, List.forall_mem_singleton]
      exact ⟨ih, d, hd, rfl⟩

private theorem bracedCode_isOneLine (c : Char) : IsOneLine (bracedCode c) := by
  have hdigit : ∀ d < 16, ¬ BreaksLine (Nat.digitChar d) := by decide
  intro x hx
  simp only [bracedCode, List.mem_cons, List.mem_append, List.not_mem_nil, or_false] at hx
  rcases hx with rfl | rfl | rfl | hx | rfl
  · decide
  · decide
  · decide
  · obtain ⟨d, hd, rfl⟩ := exists_digitChar_of_mem_toDigits _ _ hx
    exact hdigit d hd
  · decide

theorem escape_isOneLine (c : Char) : IsOneLine (escape c) := by
  unfold escape
  split_ifs with hnull htab hreturn hfeed hquote hbackslash hplain
  · decide
  · decide
  · decide
  · decide
  · decide
  · decide
  · intro x hx
    obtain rfl := List.mem_singleton.mp hx
    rw [standsForItself, Bool.and_eq_true, Bool.and_eq_true] at hplain
    exact not_breaksLine_of_isPrintable hplain.1.1
  · exact bracedCode_isOneLine c

/-- A quoted text has no line break and no other control character in it, whatever is quoted. -/
theorem quoted_isOneLine (s : List Char) : IsOneLine (quoted s) := by
  have hquote : IsOneLine ['"'] := by decide
  refine hquote.append (IsOneLine.append ?_ hquote)
  intro c hc
  obtain ⟨x, -, hx⟩ := List.mem_flatMap.mp hc
  exact escape_isOneLine x c hx

end RequestMeter.Text

/-
Durations that are read back from their writing.

The reader takes the number up to the first character that is neither a digit nor a point, and
the rest is the unit.  Zeros at the end of decimal places can be left out, since the point tells
what the places before them are worth (`exists_append_zeros`, `read?_fraction`).  The number is then
exact, so multiplied by the unit it gives the nanoseconds again (`readWritten?_written`).
-/
import RequestMeter.Time.Written
import RequestMeter.Proofs.Number.Literal

namespace RequestMeter

open Numeral

namespace TimeUnit

/-- The unit of a symbol. -/
def ofSymbol? (s : List Char) : Option TimeUnit :=
  [nanosecond, microsecond, millisecond, second].find? fun u => u.symbol = s

theorem ofSymbol?_symbol (u : TimeUnit) : ofSymbol? u.symbol = some u := by
  cases u <;> decide

theorem nanos_eq (u : TimeUnit) : u.nanos = 10 ^ u.places := by
  cases u <;> rfl

end TimeUnit

namespace Duration

/-- Can a character stand in the number of a duration? -/
def isNumeric (c : Char) : Bool := c.isDigit || c == '.'

/-- The duration of so many nanoseconds, if it is a whole number of them. -/
def ofRat? (q : Rat) : Option Duration := if q.den = 1 then ofNanos? q.num.toNat else none

/-- Reads a number and a unit. -/
def readWritten? (s : List Char) : Option Duration :=
  (Decimal.read? (s.takeWhile isNumeric)).bind fun x =>
    (TimeUnit.ofSymbol? (s.dropWhile isNumeric)).bind fun u => ofRat? (x.toRat * u.nanos)

example : readWritten? "1.5ms".toList = some ⟨1500000, by decide⟩ := by decide +kernel

example : readWritten? "0.5ns".toList = none := by decide +kernel

/-! ### Decimal places

Zeros in front of the digits of a rest are written, and zeros behind them are not.  So the digits
tell the rest only together with the number of places, and that is what a literal keeps.
-/

/-- What is left of digits without the zeros at their end, and how many zeros there are. -/
private theorem exists_append_zeros (s : List Char) :
    ∃ k, s = (s.reverse.dropWhile (· == '0')).reverse ++ List.replicate k '0' := by
  have hzeros : s.reverse.takeWhile (· == '0') =
      List.replicate (s.reverse.takeWhile (· == '0')).length '0' :=
    List.eq_replicate_of_mem fun c hc => by simpa using List.mem_takeWhile_imp hc
  refine ⟨(s.reverse.takeWhile (· == '0')).length, ?_⟩
  calc s = (s.reverse.takeWhile (· == '0') ++ s.reverse.dropWhile (· == '0')).reverse := by
        rw [List.takeWhile_append_dropWhile, List.reverse_reverse]
    _ = (s.reverse.dropWhile (· == '0')).reverse ++ (s.reverse.takeWhile (· == '0')).reverse :=
        List.reverse_append
    _ = _ := by rw [hzeros, List.reverse_replicate, List.length_replicate]

/-- A rest in as many digits as there are places. -/
private theorem padded_spec {places rest : Nat} (hpos : 0 < places) (h : rest < 10 ^ places) :
    let padded :=
      List.replicate (places - (Nat.toDigits 10 rest).length) '0' ++ Nat.toDigits 10 rest
    padded.length = places ∧ IsDigits padded ∧ ofDigits padded = rest := by
  intro padded
  have hle := (Nat.length_toDigits_le_iff (by decide) hpos).mpr h
  refine ⟨?_, (isDigits_toDigits rest).zeros_append _, ?_⟩
  · rw [List.length_append, List.length_replicate]
    omega
  · rw [ofDigits_zeros_append, ofDigits_toDigits]

/-- The decimal places of a rest are a point and digits, to which only zeros are missing. -/
theorem exists_fraction_eq {places rest : Nat} (h : rest < 10 ^ places) (hne : rest ≠ 0) :
    ∃ digits k, fraction places rest = '.' :: digits ∧ IsDigits digits ∧
      places = digits.length + k ∧ rest = 10 ^ k * ofDigits digits := by
  have hpos : 0 < places := by
    by_contra hzero
    obtain rfl : places = 0 := by omega
    omega
  obtain ⟨hlength, hdigits, hvalue⟩ := padded_spec hpos h
  generalize hpadded : List.replicate (places - (Nat.toDigits 10 rest).length) '0' ++
    Nat.toDigits 10 rest = padded at hlength hdigits hvalue
  obtain ⟨k, hk⟩ := exists_append_zeros padded
  have hfraction : fraction places rest = '.' :: (padded.reverse.dropWhile (· == '0')).reverse := by
    unfold fraction
    dsimp only
    rw [if_neg hne, hpadded]
  generalize (padded.reverse.dropWhile (· == '0')).reverse = digits at hk hfraction
  subst hk
  rw [ofDigits_append_zeros] at hvalue
  rw [List.length_append, List.length_replicate] at hlength
  refine ⟨digits, k, hfraction, ⟨?_, ?_⟩, hlength.symm, hvalue.symm⟩
  · rintro rfl
    exact hne hvalue.symm
  · have hall := hdigits.2
    rw [List.all_append, Bool.and_eq_true] at hall
    exact hall.1

/-- Places are worth a power of ten. -/
private theorem toRat_mul_pow (c n k : Nat) :
    (Decimal.mk c (-(n : Int))).toRat * ((10 ^ (n + k) : Nat) : Rat) =
      ((c * 10 ^ k : Nat) : Rat) := by
  have hten : (10 : Rat) ^ n ≠ 0 := pow_ne_zero n (by decide)
  unfold Decimal.toRat
  rw [Rat.zpow_neg, Rat.zpow_natCast]
  push_cast
  rw [pow_add, mul_assoc, inv_mul_cancel_left₀ hten]

private theorem isNumeric_of_isDigits {s : List Char} (h : IsDigits s) :
    ∀ c ∈ s, isNumeric c = true := by
  intro c hc
  rw [isNumeric, List.all_eq_true.mp h.2 c hc, Bool.true_or]

/-- A number with decimal places is read as what it was written from. -/
theorem read?_fraction (whole : Nat) {places rest : Nat} (h : rest < 10 ^ places) :
    (∀ c ∈ Nat.toDigits 10 whole ++ fraction places rest, isNumeric c = true) ∧
    ∃ x, Decimal.read? (Nat.toDigits 10 whole ++ fraction places rest) = some x ∧
      x.toRat * ((10 ^ places : Nat) : Rat) = ((whole * 10 ^ places + rest : Nat) : Rat) := by
  have hwhole := isNumeric_of_isDigits (isDigits_toDigits whole)
  by_cases hzero : rest = 0
  · have hfraction : fraction places rest = [] := if_pos hzero
    have hvalue := toRat_mul_pow whole 0 places
    rw [Nat.zero_add] at hvalue
    rw [hfraction, List.append_nil, hzero, Nat.add_zero]
    exact ⟨hwhole, _, Decimal.read?_toDigits whole, hvalue⟩
  · obtain ⟨digits, k, hfraction, hdigits, rfl, rfl⟩ := exists_fraction_eq h hzero
    have hread := Decimal.read?_of_fraction (isWhole_toDigits whole) Decimal.readPower?_nil
      hdigits rfl
    rw [List.append_nil, zero_sub] at hread
    rw [hfraction]
    refine ⟨?_, _, hread, ?_⟩
    · rw [List.forall_mem_append, List.forall_mem_cons]
      exact ⟨hwhole, by decide, isNumeric_of_isDigits hdigits⟩
    · rw [toRat_mul_pow, ofDigits_append, Nat.ofDigitChars_eq_ofDigitChars_zero, ofDigits_toDigits]
      congr 1
      unfold ofDigits
      ring

/-! ### A duration is read back from its writing -/

private theorem ofRat?_natCast (n : Nat) : ofRat? n = ofNanos? n := by
  rw [ofRat?, Rat.den_natCast, if_pos rfl, Rat.num_natCast, Int.toNat_natCast]

/-- The symbol of a unit does not begin like a number. -/
private theorem takeWhile_symbol (u : TimeUnit) :
    u.symbol.takeWhile isNumeric = [] ∧ u.symbol.dropWhile isNumeric = u.symbol := by
  cases u <;> decide

/-- The writing of a duration is a number and the unit, and the number is exact. -/
theorem exists_written_eq (d : Duration) :
    ∃ number x, d.written = number ++ d.largestUnit.symbol ∧
      (∀ c ∈ number, isNumeric c = true) ∧ Decimal.read? number = some x ∧
      x.toRat * d.largestUnit.nanos = d.nanos := by
  have hrest : d.nanos % d.largestUnit.nanos < 10 ^ d.largestUnit.places := by
    rw [← TimeUnit.nanos_eq]
    refine Nat.mod_lt _ ?_
    rw [TimeUnit.nanos_eq]
    exact Nat.pow_pos (by decide)
  obtain ⟨hnumeric, x, hread, hvalue⟩ := read?_fraction (d.nanos / d.largestUnit.nanos) hrest
  rw [← TimeUnit.nanos_eq, Nat.mul_comm, Nat.div_add_mod] at hvalue
  exact ⟨_, x, rfl, hnumeric, hread, hvalue⟩

/-- A duration is read back from its writing. -/
theorem readWritten?_written (d : Duration) : readWritten? d.written = some d := by
  obtain ⟨number, x, hwritten, hnumeric, hread, hvalue⟩ := d.exists_written_eq
  obtain ⟨htake, hdrop⟩ := takeWhile_symbol d.largestUnit
  unfold readWritten?
  rw [hwritten, List.takeWhile_append_of_pos hnumeric, List.dropWhile_append_of_pos hnumeric,
    htake, hdrop, List.append_nil, hread, TimeUnit.ofSymbol?_symbol]
  simp only [Option.bind_some]
  rw [hvalue, ofRat?_natCast, ofNanos?_eq_some_iff]

/-- Below a second it takes a smaller unit. -/
theorem largestUnit_ne_second {d : Duration} (h : d < second) : d.largestUnit ≠ .second := by
  have hlt : d.nanos < TimeUnit.nanos .second := h
  unfold largestUnit
  rw [if_pos hlt]
  split_ifs
  · exact TimeUnit.noConfusion
  · exact TimeUnit.noConfusion
  · exact TimeUnit.noConfusion

end Duration

end RequestMeter

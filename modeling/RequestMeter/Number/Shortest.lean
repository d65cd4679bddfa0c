/-
The shortest decimal that reads back as a double.

The multiples of each power of ten form a grid.  The search goes from a grid coarser than
the value itself to finer and finer ones and stops at the first with a point that rounds to
the double; only the two neighbours of the value need a look, since a point further away
cannot round to it when they do not.  The value is itself a multiple of 10⁻¹⁰⁷⁴, so the
search ends.
-/
import RequestMeter.Number.Binary64
import RequestMeter.Number.Decimal

namespace RequestMeter.Binary64

/-- Does a decimal round to this double? -/
def readsBack (x : Binary64) (d : Decimal) : Bool := nearest d.toRat = x

/--
The multiple of a power of ten that rounds to the double and lies nearest to it.  Of two
equally near the even one is taken.
-/
def onGrid? (x : Binary64) (exponent : Int) : Option Decimal :=
  let position := x.toRat / (10 : Rat) ^ exponent
  let below := position.floor.toNat
  let lower : Decimal := ⟨below, exponent⟩
  let upper : Decimal := ⟨below + 1, exponent⟩
  match x.readsBack lower, x.readsBack upper with
  | false, false => none
  | true, false => some lower
  | false, true => some upper
  | true, true =>
    let middle : Rat := ((2 * below + 1 : Nat) : Rat) / 2
    if position < middle then some lower
    else if middle < position then some upper
    else if below % 2 = 0 then some lower
    else some upper

/-- The value of a finite positive double, digit for digit. -/
def exactDecimal (x : Binary64) : Decimal :=
  ⟨(x.toRat / (10 : Rat) ^ (-1074 : Int)).floor.toNat, -1074⟩

/-- Tries the grid of an exponent and a number of finer ones, then writes the exact value. -/
def shortestFrom (x : Binary64) (exponent : Int) : Nat → Decimal
  | 0 => x.exactDecimal
  | finer + 1 =>
    match x.onGrid? exponent with
    | some d => d
    | none => x.shortestFrom (exponent - 1) finer

/-- The decimal with the fewest digits, and nearest among those, that reads back as a finite
positive double. -/
def shortest (x : Binary64) : Decimal :=
  let top := x.toRat.floor.toNat.log2 + 1
  x.shortestFrom top (top + 1074)

end RequestMeter.Binary64

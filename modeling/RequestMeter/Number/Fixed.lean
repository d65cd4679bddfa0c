/-
Doubles with two decimal places.

The exact value is rounded to whole hundredths, halves going to the even neighbour.
-/
import RequestMeter.Number.Binary64

namespace RequestMeter

/-- The whole number nearest to a rational; of two equally near the even one. -/
def roundHalfEven (q : Rat) : Int :=
  let below := q.floor
  let rest := q - below
  if rest < 1 / 2 then below
  else if 1 / 2 < rest then below + 1
  else if below % 2 = 0 then below
  else below + 1

namespace Binary64

/-- A finite double, not negative, in whole hundredths. -/
def hundredths (x : Binary64) : Nat := (roundHalfEven (x.toRat * 100)).toNat

end Binary64

/-- A number of hundredths with its point and both places: `0.05`, `12.50`. -/
def twoPlaces (hundredths : Nat) : String :=
  let places := hundredths % 100
  let zero := if places < 10 then "0" else ""
  toString (hundredths / 100) ++ "." ++ zero ++ toString places

end RequestMeter

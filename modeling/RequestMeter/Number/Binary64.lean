/-
Double-precision numbers.

A double is its 64 bits.  What the bits stand for is an exact rational, and arithmetic is
exact arithmetic rounded once, to the nearest double and, between two equally near ones, to
the one whose bits are even.

Every finite double is a whole number of units of 2⁻¹⁰⁷⁴.  Without the sign, the bit
patterns count upwards with the numbers of units they stand for, so the neighbours of a
pattern are the neighbours of its value.
-/

namespace RequestMeter

/-- A double-precision number, as its sign, exponent and fraction bits. -/
@[ext]
structure Binary64 where
  bits : UInt64
deriving DecidableEq

namespace Binary64

/-- The bits below the sign. -/
def pattern (x : Binary64) : Nat := x.bits.toNat % 0x8000000000000000

/-- Is the sign bit set? -/
def isNegative (x : Binary64) : Bool := decide (0x8000000000000000 ≤ x.bits.toNat)

/-- The pattern of infinity: finite numbers lie below it, and what is no number above. -/
def infinity : Nat := 0x7ff0000000000000

/-- The bit above the fraction.  The exponent counts from here, and where it is not zero a number
has this bit without writing it. -/
def hiddenBit : Nat := 0x10000000000000

/-- Neither an infinity nor "not a number". -/
def isFinite (x : Binary64) : Bool := decide (x.pattern < infinity)

/--
How many units of 2⁻¹⁰⁷⁴ a pattern stands for.  The pattern of infinity continues the count:
2¹⁰²⁴ is where the next number would be.
-/
def units (p : Nat) : Nat :=
  match p / hiddenBit with
  | 0 => p
  | e + 1 => (hiddenBit + p % hiddenBit) <<< e

/-- The greatest pattern that stands for no more than a number of units. -/
def patternBelow (n : Nat) : Nat :=
  let e := n.log2 - 52
  e * hiddenBit + (n >>> e)

/--
The pattern nearest to a number of units that need not be whole.  Halfway between two, the
even one is taken; at or beyond halfway to 2¹⁰²⁴ the result is infinity.
-/
def nearestPattern (u : Rat) : Nat :=
  let below := patternBelow u.floor.toNat
  let middle : Rat := ((units below + units (below + 1) : Nat) : Rat) / 2
  min infinity <|
    if u < middle then below
    else if middle < u then below + 1
    else if below % 2 = 0 then below
    else below + 1

/-- One unit of the count. -/
def unit : Rat := (2 : Rat) ^ (-1074 : Int)

/-- The exact value of a finite double. -/
def toRat (x : Binary64) : Rat :=
  let size := (units x.pattern : Rat) * unit
  if x.isNegative then -size else size

/-- The double nearest to a rational. -/
def nearest (q : Rat) : Binary64 :=
  if q < 0 then ⟨UInt64.ofNat (0x8000000000000000 + nearestPattern (-q / unit))⟩
  else ⟨UInt64.ofNat (nearestPattern (q / unit))⟩

/-- The double without its sign. -/
def abs (x : Binary64) : Binary64 := ⟨UInt64.ofNat x.pattern⟩

/-- Positive zero. -/
def zero : Binary64 := ⟨0⟩

instance : Inhabited Binary64 := ⟨zero⟩

/-- The double nearest to a natural number. -/
def ofNat (n : Nat) : Binary64 := nearest n

/-- The sum of two finite doubles, rounded. -/
instance : Add Binary64 := ⟨fun x y => nearest (x.toRat + y.toRat)⟩

/-- The quotient of a finite double by a finite one other than zero, rounded. -/
instance : Div Binary64 := ⟨fun x y => nearest (x.toRat / y.toRat)⟩

theorem add_def (x y : Binary64) : x + y = nearest (x.toRat + y.toRat) := rfl

theorem div_def (x y : Binary64) : x / y = nearest (x.toRat / y.toRat) := rfl

end Binary64

end RequestMeter

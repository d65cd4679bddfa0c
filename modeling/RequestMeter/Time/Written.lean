/-
Durations in writing.

A duration is written exactly, in the largest unit of which it holds at least one, with as many
decimal places as it needs: `0ns`, `1.001µs`, `999.999999ms`, `15s`.
-/
import RequestMeter.Time.Duration

namespace RequestMeter

/-- The units that durations are written in. -/
inductive TimeUnit where
  | nanosecond
  | microsecond
  | millisecond
  | second
deriving DecidableEq

namespace TimeUnit

/-- The length of the unit in nanoseconds. -/
def nanos : TimeUnit → Nat
  | nanosecond => 1
  | microsecond => 1000
  | millisecond => 1000000
  | second => 1000000000

/-- How many decimal places it takes to write one nanosecond in the unit. -/
def places : TimeUnit → Nat
  | nanosecond => 0
  | microsecond => 3
  | millisecond => 6
  | second => 9

/-- How the unit is written. -/
def symbol : TimeUnit → List Char
  | nanosecond => ['n', 's']
  | microsecond => ['µ', 's']
  | millisecond => ['m', 's']
  | second => ['s']

end TimeUnit

namespace Duration

/-- The largest unit of which a duration holds at least one. -/
def largestUnit (d : Duration) : TimeUnit :=
  if d.nanos < TimeUnit.nanos .microsecond then .nanosecond
  else if d.nanos < TimeUnit.nanos .millisecond then .microsecond
  else if d.nanos < TimeUnit.nanos .second then .millisecond
  else .second

/-- A point and the decimal places of a rest, without zeros at the end; nothing for no rest. -/
def fraction (places rest : Nat) : List Char :=
  let digits := Nat.toDigits 10 rest
  let padded := List.replicate (places - digits.length) '0' ++ digits
  if rest = 0 then [] else '.' :: (padded.reverse.dropWhile (· == '0')).reverse

/-- A duration in writing. -/
def written (d : Duration) : List Char :=
  let u := d.largestUnit
  Nat.toDigits 10 (d.nanos / u.nanos) ++ fraction u.places (d.nanos % u.nanos) ++ u.symbol

example : (Duration.mk 0 (by decide)).written = "0ns".toList := by decide

example : (Duration.mk 1001 (by decide)).written = "1.001µs".toList := by decide

example : (Duration.mk 999999999 (by decide)).written = "999.999999ms".toList := by decide

example : (Duration.mk 1500000000 (by decide)).written = "1.5s".toList := by decide

end Duration

end RequestMeter

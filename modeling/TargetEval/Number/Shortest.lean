/-!
The shortest decimal that reads back as a given number `significand * 2 ^ exponent`.

The reals that round to the number form an interval around it. The answer is a multiple of the
largest power of ten that has a multiple in that interval, and of two such neighbours of the number
the nearer one. All comparisons are between natural numbers.
-/

set_option autoImplicit false

namespace TargetEval.Shortest

structure Digits where
  coefficient : Nat
  exponent : Int
deriving DecidableEq, Repr

inductive Tie where
  | upper
  | even
deriving DecidableEq, Repr

structure Interval where
  value : Nat
  low : Nat
  high : Nat
  closed : Bool
  denominator : Nat

def interval (significand : Nat) (exponent : Int) : Interval :=
  -- The neighbours of a number lie one unit away, except that below a power of two the distance is
  -- halved.
  let below := if significand = Nat.pow 2 52 ∧ -1074 < exponent then 1 else 2
  let scale := if 2 ≤ exponent then Nat.pow 2 (exponent - 2).toNat else 1
  { value := 4 * significand * scale
    low := (4 * significand - below) * scale
    high := (4 * significand + 2) * scale
    closed := significand % 2 = 0
    denominator := if 2 ≤ exponent then 1 else Nat.pow 2 (2 - exponent).toNat }

def Interval.inUnits (i : Interval) (power : Int) : Interval :=
  if 0 ≤ power then { i with denominator := i.denominator * Nat.pow 10 power.toNat }
  else
    let factor := Nat.pow 10 (-power).toNat
    { i with value := i.value * factor, low := i.low * factor, high := i.high * factor }

def Interval.contains (i : Interval) (candidate : Nat) : Bool :=
  let c := candidate * i.denominator
  if i.closed then i.low ≤ c && c ≤ i.high else i.low < c && c < i.high

def Interval.nearest? (i : Interval) (tie : Tie) : Option Nat :=
  let lower := i.value / i.denominator
  let upper := lower + 1
  match 0 < lower && i.contains lower, i.contains upper with
  | false, false => none
  | true, false => some lower
  | false, true => some upper
  | true, true =>
      let toLower := i.value - lower * i.denominator
      let toUpper := upper * i.denominator - i.value
      if toLower < toUpper then some lower
      else if toUpper < toLower then some upper
      else match tie with
        | .upper => some upper
        | .even => some (if lower % 2 = 0 then lower else upper)

def search (i : Interval) (tie : Tie) : Nat → Int → Digits
  | 0, power => ⟨i.value / (i.inUnits power).denominator, power⟩
  | steps + 1, power =>
      match (i.inUnits power).nearest? tie with
      | some coefficient => ⟨coefficient, power⟩
      | none => search i tie steps (power - 1)

def startingPower (i : Interval) : Int :=
  -- The bit lengths bound the binary logarithm, and 30103 / 100000 is the decimal logarithm of two.
  ((Nat.log2 i.value : Int) - Nat.log2 i.denominator) * 30103 / 100000 + 2

def digits (tie : Tie) (significand : Nat) (exponent : Int) : Digits :=
  let i := interval significand exponent
  -- Seventeen digits always read back, so the search ends well within thirty steps.
  search i tie 30 (startingPower i)

end TargetEval.Shortest

import TargetEval.Number.Binary64

set_option autoImplicit false

namespace TargetEval

structure Decimal where
  negative : Bool
  coefficient : Nat
  exponent : Int
deriving DecidableEq, Repr

namespace Decimal

def digitValue (c : Char) : Nat := c.toNat - '0'.toNat

def ofDigits (digits : List Char) : Nat :=
  digits.foldl (fun n c => 10 * n + digitValue c) 0

def signed (negative : Bool) (x : Float) : Float := if negative then -x else x

def toFloat (d : Decimal) : Float :=
  -- Magnitudes above 10^400 are infinite and magnitudes below 10^-400 are zero, so only moderate
  -- powers of ten are ever formed: `n < 10 ^ (log2 n / 3 + 2)`.
  let magnitude :=
    if d.coefficient = 0 then 0.0
    else if 400 < d.exponent then Binary64.positiveInfinity
    else if d.exponent + (Nat.log2 d.coefficient / 3 + 2 : Nat) < -400 then 0.0
    else Float.ofScientific d.coefficient (d.exponent < 0) d.exponent.natAbs
  signed d.negative magnitude

def powerOfTen (n : Nat) : Float := Float.ofScientific 1 false n

def scaleDown : Nat → Float → Nat → Float
  | 0, x, _ => x
  | steps + 1, x, n =>
      if n ≤ 308 then x / powerOfTen n
      else if x == 0.0 then x
      else scaleDown steps (x / powerOfTen 308) (n - 308)

def scaled? (d : Decimal) : Option Float :=
  let x := Float.ofScientific d.coefficient false 0
  -- After three divisions by 10^308 every coefficient below 2^64 has become zero.
  if d.exponent < 0 then some (signed d.negative (scaleDown 4 x d.exponent.natAbs))
  else if 308 < d.exponent then if d.coefficient = 0 then some (signed d.negative x) else none
  else
    let y := x * powerOfTen d.exponent.toNat
    if y.isInf then none else some (signed d.negative y)

end Decimal

end TargetEval

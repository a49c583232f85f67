set_option autoImplicit false

namespace TargetEval.Binary64

inductive Kind where
  | nan
  | infinite (negative : Bool)
  | finite (negative : Bool) (significand : Nat) (exponent : Int)
deriving DecidableEq, Repr

def signBit (x : Float) : Bool := Nat.pow 2 63 ≤ x.toBits.toNat

def exponentField (x : Float) : Nat := x.toBits.toNat / Nat.pow 2 52 % Nat.pow 2 11

def fractionField (x : Float) : Nat := x.toBits.toNat % Nat.pow 2 52

def kind (x : Float) : Kind :=
  let field := exponentField x
  let fraction := fractionField x
  if field = 2047 then
    if fraction = 0 then .infinite (signBit x) else .nan
  else if field = 0 then .finite (signBit x) fraction (-1074)
  else .finite (signBit x) (Nat.pow 2 52 + fraction) (field - 1075)

def integer? (x : Float) : Option Int :=
  match kind x with
  | .finite negative significand exponent =>
      let magnitude? : Option Nat :=
        if 0 ≤ exponent then some (significand * Nat.pow 2 exponent.toNat)
        else
          let unit := Nat.pow 2 (-exponent).toNat
          if significand % unit = 0 then some (significand / unit) else none
      magnitude?.map fun n => if negative then -(n : Int) else n
  | _ => none

def positiveInfinity : Float := Float.ofBits 0x7FF0000000000000

def notANumber : Float := Float.ofBits 0x7FF8000000000000

end TargetEval.Binary64

import TargetEval.Number.Binary64
import TargetEval.Number.Numeral
import TargetEval.Number.Shortest

set_option autoImplicit false

namespace TargetEval

structure Layout where
  least : Option Int
  most : Option Int
  keepsDecimal : Bool
  tie : Shortest.Tie
deriving Repr

def plainLayout : Layout := ⟨none, none, false, .upper⟩

def jsonLayout : Layout := ⟨some (-5), some 15, true, .even⟩

namespace Layout

def isPositional (layout : Layout) (e : Int) : Bool :=
  layout.least.all (· ≤ e) && layout.most.all (e ≤ ·)

def positional (layout : Layout) (negative : Bool) (digits : List Char) (exponent : Int) : Numeral :=
  if 0 ≤ exponent then
    ⟨negative, digits ++ List.replicate exponent.toNat '0',
      if layout.keepsDecimal then some ['0'] else none, none⟩
  else
    let places := (-exponent).toNat
    let padded := List.replicate (places + 1 - digits.length) '0' ++ digits
    ⟨negative, padded.take (padded.length - places), some (padded.drop (padded.length - places)), none⟩

def scientific (negative : Bool) (digits : List Char) (e : Int) : Numeral :=
  let more := digits.drop 1
  ⟨negative, digits.take 1, if more.isEmpty then none else some more, some e⟩

def numeral (layout : Layout) (negative : Bool) (significand : Nat) (exponent : Int) : Numeral :=
  if significand = 0 then layout.positional negative ['0'] 0
  else
    let shortest := Shortest.digits layout.tie significand exponent
    let digits := (Nat.repr shortest.coefficient).toList
    let e := shortest.exponent + digits.length - 1
    if layout.isPositional e then layout.positional negative digits shortest.exponent
    else scientific negative digits e

end Layout

def numberText (x : Float) : String :=
  match Binary64.kind x with
  | .nan => "NaN"
  | .infinite negative => if negative then "-inf" else "inf"
  | .finite negative significand exponent =>
      String.ofList (plainLayout.numeral negative significand exponent).text

def jsonNumeral? (x : Float) : Option Numeral :=
  match Binary64.kind x with
  | .finite negative significand exponent => some (jsonLayout.numeral negative significand exponent)
  | _ => none

end TargetEval

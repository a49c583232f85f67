set_option autoImplicit false

namespace TargetEval.Bounded

def least : Int := -0x8000000000000000

def greatest : Int := 0x7FFFFFFFFFFFFFFF

def Fits (n : Int) : Prop := least ≤ n ∧ n ≤ greatest

instance (n : Int) : Decidable (Fits n) := inferInstanceAs (Decidable (_ ∧ _))

def ofInt? (n : Int) : Option Int64 :=
  if least ≤ n ∧ n ≤ greatest then some (Int64.ofInt n) else none

def clamp (n : Int) : Int64 :=
  if n < least then Int64.ofInt least
  else if greatest < n then Int64.ofInt greatest
  else Int64.ofInt n

theorem to_int_of_int (n : Int) (low : least ≤ n) (high : n ≤ greatest) : (Int64.ofInt n).toInt = n := by
  simp only [least, greatest] at low high
  exact Int64.toInt_ofInt_of_le (by omega) (by omega)

end TargetEval.Bounded

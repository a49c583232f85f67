import TargetEval.Series.Basic

set_option autoImplicit false

namespace TargetEval

structure MovingMean where
  weight : Float
  mean : Option Float

namespace MovingMean

def start (weight : Float) : MovingMean := ⟨weight, none⟩

def next (m : MovingMean) (value : Float) : Float :=
  match m.mean with
  | none => value
  | some mean => m.weight * value + (1.0 - m.weight) * mean

def push (m : MovingMean) (value : Float) : MovingMean := { m with mean := some (m.next value) }

def along : MovingMean → List (Option Float) → List (Option Float)
  | _, [] => []
  | m, none :: rest => none :: along m rest
  | m, some value :: rest => some (m.next value) :: along (m.push value) rest

end MovingMean

namespace Series

def smooth (s : Series) (name : String) (weight : Float) : Series :=
  let means := (MovingMean.start weight).along s.points
  spanning name s.start s.stop s.step (means ++ List.replicate (s.size - means.length) none)

end Series

end TargetEval

import TargetEval.Error
import TargetEval.Time.Seconds

/-!
A named run of samples at a fixed step, some of them absent.

Values and absence flags are kept side by side, because a series may arrive from outside with lists
of different lengths; `check` tells. The value kept at an absent point carries no meaning. The view
of a series is `points`; `get?_eq_points` says that reading by index sees the same.
-/

set_option autoImplicit false

namespace TargetEval

structure Series where
  name : String
  values : Array Float
  absent : Array Bool
  start : Seconds
  stop : Seconds
  step : Seconds
deriving DecidableEq, Repr

namespace Series

def size (s : Series) : Nat := s.values.size

def stopAfter (start step : Seconds) (count : Nat) : Seconds :=
  Int64.ofInt (start.toInt + count * step.toInt)

def ofValues (name : String) (start step : Seconds) (values : List Float) : Series :=
  { name, start, step
    values := values.toArray
    absent := Array.replicate values.length false
    stop := stopAfter start step values.length }

def spanning (name : String) (start stop step : Seconds) (points : List (Option Float)) : Series :=
  { name, start, stop, step
    values := (points.map fun p => p.getD 0.0).toArray
    absent := (points.map Option.isNone).toArray }

def ofPoints (name : String) (start step : Seconds) (points : List (Option Float)) : Series :=
  spanning name start (stopAfter start step points.length) step points

def blank (name : String) (start stop step : Seconds) (count : Nat) : Series :=
  spanning name start stop step (List.replicate count none)

def point (value : Float) (isAbsent : Bool) : Option Float := if isAbsent then none else some value

def points (s : Series) : List (Option Float) := List.zipWith point s.values.toList s.absent.toList

def present (s : Series) : List Float := s.points.filterMap id

def Numeric (s : Series) : Prop := ∀ x ∈ s.present, x.isNaN = false

instance (s : Series) : Decidable s.Numeric := inferInstanceAs (Decidable (∀ x ∈ s.present, x.isNaN = false))

def get? (s : Series) (i : Nat) : Option Float :=
  match s.absent[i]? with
  | some false => s.values[i]?
  | _ => none

inductive Write where
  | done (s : Series)
  | outOfRange (s : Series)
deriving Repr

def Write.series : Write → Series
  | .done s => s
  | .outOfRange s => s

def set (s : Series) (i : Nat) (p : Option Float) : Write :=
  let written : Series :=
    { s with
      values := s.values.setIfInBounds i (p.getD 0.0)
      absent := if i < s.values.size then s.absent.setIfInBounds i p.isNone else s.absent }
  if i < s.values.size ∧ i < s.absent.size then .done written else .outOfRange written

def renamed (s : Series) (name : String) : Series := { s with name }

def Shaped (s : Series) : Prop := s.absent.size = s.values.size ∧ 0 < s.step

instance (s : Series) : Decidable s.Shaped := inferInstanceAs (Decidable (_ ∧ _))

def check (s : Series) : Except Error Unit :=
  if s.values.size ≠ s.absent.size then
    .error (.shapeMismatch ("series '" ++ s.name ++ "' has " ++ toString s.values.size
      ++ " values but " ++ toString s.absent.size ++ " absence flags"))
  else if s.step ≤ 0 then
    .error (.shapeMismatch ("series '" ++ s.name ++ "' has non-positive step " ++ s.step.text))
  else .ok ()

theorem points_spanning (name : String) (start stop step : Seconds) (points : List (Option Float)) :
    (spanning name start stop step points).points = points := by
  simp only [spanning, Series.points]
  induction points with
  | nil => rfl
  | cons p rest ih => cases p <;> simpa [point] using ih

theorem check_ok (s : Series) : s.check = .ok () ↔ s.Shaped := by
  unfold check Shaped
  constructor
  · intro checked
    split at checked
    next => cases checked
    next sizes =>
      split at checked
      next => cases checked
      next positive => exact ⟨(Decidable.not_not.mp sizes).symm, Int64.not_le.mp positive⟩
  · rintro ⟨sizes, positive⟩
    rw [if_neg (Decidable.not_not.mpr sizes.symm), if_neg (Int64.not_le.mpr positive)]

theorem get?_eq_points (s : Series) (i : Nat) : s.get? i = (s.points[i]?).join := by
  simp only [get?, points, List.getElem?_zipWith, Array.getElem?_toList]
  cases s.values[i]? <;> rcases s.absent[i]? with _ | _ | _ <;> simp [point]

end Series

end TargetEval

import TargetEval.Proofs.WeightedSums
import TargetEval.Series.Smoothing

set_option autoImplicit false

namespace TargetEval

namespace MovingMean

def breaks (m : MovingMean) (value : Float) : Bool :=
  match m.mean with
  | none => false
  | some mean => mean.isInf && (m.weight == 1.0 || value == -mean)

def breaksAlong : MovingMean → List Float → Bool
  | _, [] => false
  | m, value :: rest => m.breaks value || breaksAlong (m.push value) rest

structure Numeric (m : MovingMean) : Prop where
  positive : 0.0 < m.weight
  atMost : m.weight ≤ 1.0
  mean : ∀ mean, m.mean = some mean → mean.isNaN = false

theorem next_nan (m : MovingMean) (numeric : m.Numeric) (value : Float) (number : value.isNaN = false) :
    (m.next value).isNaN = m.breaks value := by
  obtain ⟨weight, mean⟩ := m
  cases mean with
  | none => exact number
  | some mean =>
      exact Binary64.weighted_nan weight value mean numeric.positive numeric.atMost number (numeric.mean mean rfl)

theorem push_numeric (m : MovingMean) (numeric : m.Numeric) (value : Float) (number : (m.next value).isNaN = false) :
    (m.push value).Numeric :=
  ⟨numeric.positive, numeric.atMost, fun _ same => Option.some.inj same ▸ number⟩

theorem along_numeric (points : List (Option Float)) (numbers : ∀ x ∈ points.filterMap id, x.isNaN = false) :
    ∀ m : MovingMean, m.Numeric →
      ((∀ x ∈ (m.along points).filterMap id, x.isNaN = false) ↔ m.breaksAlong (points.filterMap id) = false) := by
  -- Up to the first step that breaks it, the mean along the way is numeric.
  induction points with
  | nil => exact fun _ _ => iff_of_true nofun rfl
  | cons p rest ih =>
      intro m numeric
      cases p with
      | none => exact ih numbers m numeric
      | some value =>
          obtain ⟨number, later⟩ := List.forall_mem_cons.mp numbers
          have step := next_nan m numeric value number
          change (∀ x ∈ m.next value :: ((m.push value).along rest).filterMap id, x.isNaN = false) ↔
            (m.breaks value || (m.push value).breaksAlong (rest.filterMap id)) = false
          rw [List.forall_mem_cons, step, Bool.or_eq_false_iff]
          refine and_congr_right fun unbroken => ?_
          exact ih later (m.push value) (push_numeric m numeric value (step.trans unbroken))

end MovingMean

namespace Series

def breaksMean (s : Series) (weight : Float) : Bool := (MovingMean.start weight).breaksAlong s.present

theorem present_spanning (name : String) (start stop step : Seconds) (points : List (Option Float)) :
    (spanning name start stop step points).present = points.filterMap id := by
  rw [present, points_spanning]

theorem smooth_numeric (s : Series) (name : String) (weight : Float) (positive : 0.0 < weight) (atMost : weight ≤ 1.0)
    (numeric : s.Numeric) : (s.smooth name weight).Numeric ↔ s.breaksMean weight = false := by
  have absent : ∀ count, (List.replicate count (none : Option Float)).filterMap id = [] := by simp
  unfold Numeric smooth
  rw [present_spanning, List.filterMap_append, absent, List.append_nil]
  exact MovingMean.along_numeric s.points numeric (.start weight) ⟨positive, atMost, nofun⟩

end Series

end TargetEval

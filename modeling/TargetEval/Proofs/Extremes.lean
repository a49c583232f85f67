import Mathlib.Data.List.Induction
import TargetEval.Proofs.PartialFolds

set_option autoImplicit false

namespace TargetEval.Reducer

-- A number of the list that no other one is better than, and that is better than the numbers in
-- front of it.
structure FirstBest (better : Float → Float → Bool) (values : List Float) (best : Float) : Prop where
  number : best.isNaN = false
  unbeaten : ∀ v ∈ values, v.isNaN = false → better v best = false
  split : ∃ front back, values = front ++ best :: back ∧ ∀ v ∈ front, v.isNaN = false → better best v = true

theorem extreme_snoc (better : Float → Float → Bool) (values : List Float) (v : Float) :
    extreme better (values ++ [v]) = preferred better (extreme better values) v := by
  simp only [extreme, List.foldl_append]
  rfl

namespace FirstBest

variable {better : Float → Float → Bool} {values : List Float} {best : Float}

theorem listed (first : FirstBest better values best) : best ∈ values := by
  obtain ⟨front, back, same, _⟩ := first.split
  exact same ▸ List.mem_append_right front List.mem_cons_self

theorem alone (strict : ∀ v, better v v = false) (v : Float) (number : v.isNaN = false)
    (numberless : ∀ w ∈ values, w.isNaN = true) : FirstBest better (values ++ [v]) v := by
  have none : ∀ w ∈ values, ¬ w.isNaN = false := fun w member => ne_false_of_eq_true (numberless w member)
  refine ⟨number, ?_, values, [], rfl, fun w member isNumber => absurd isNumber (none w member)⟩
  refine List.forall_mem_append.mpr ⟨fun w member isNumber => absurd isNumber (none w member), ?_⟩
  simpa using fun _ => strict v

theorem kept (first : FirstBest better values best) (v : Float) (loses : v.isNaN = false → better v best = false) :
    FirstBest better (values ++ [v]) best := by
  obtain ⟨number, unbeaten, front, back, same, ahead⟩ := first
  refine ⟨number, ?_, front, back ++ [v], by rw [same, List.append_assoc, List.cons_append], ahead⟩
  exact List.forall_mem_append.mpr ⟨unbeaten, by simpa using loses⟩

theorem replaced (prefers : Prefers better) (strict : ∀ v, better v v = false) (first : FirstBest better values best)
    (v : Float) (number : v.isNaN = false) (wins : better v best = true) : FirstBest better (values ++ [v]) v := by
  refine ⟨number, ?_, values, [], rfl, ?_⟩
  · refine List.forall_mem_append.mpr ⟨fun w member isNumber => ?_, by simpa using fun _ => strict v⟩
    have loses := first.unbeaten w member isNumber
    refine Bool.eq_false_iff.mpr fun beats => ?_
    rw [prefers.trans best v w wins beats] at loses
    cases loses
  · intro w member isNumber
    have loses := first.unbeaten w member isNumber
    by_contra behind
    have level := prefers.alike best w v first.number isNumber number loses (Bool.eq_false_iff.mpr behind)
    rw [wins] at level
    cases level

end FirstBest

theorem extreme_first {better : Float → Float → Bool} (prefers : Prefers better) (strict : ∀ v, better v v = false)
    (values : List Float) :
    ((∀ v ∈ values, v.isNaN = true) ∧ (extreme better values).isNaN = true) ∨
      FirstBest better values (extreme better values) := by
  induction values using List.reverseRecOn with
  | nil =>
      have nan : Binary64.notANumber.isNaN = true := rfl
      exact .inl ⟨nofun, nan⟩
  | append_singleton values v ih =>
      rw [extreme_snoc]
      cases nan : v.isNaN with
      | true =>
          have passed : preferred better (extreme better values) v = extreme better values := if_pos nan
          rw [passed]
          rcases ih with ⟨numberless, result⟩ | first
          · exact .inl ⟨List.forall_mem_append.mpr ⟨numberless, by simpa using nan⟩, result⟩
          · exact .inr (first.kept v fun number => by rw [nan] at number; cases number)
      | false =>
          have taken : preferred better (extreme better values) v =
              if (extreme better values).isNaN || better v (extreme better values) then v else extreme better values :=
            if_neg (ne_true_of_eq_false nan)
          rw [taken]
          refine .inr ?_
          rcases ih with ⟨numberless, result⟩ | first
          · rw [result, Bool.true_or, if_pos rfl]
            exact .alone strict v nan numberless
          · rw [first.number, Bool.false_or]
            cases wins : better v (extreme better values) with
            | true => exact first.replaced prefers strict v nan wins
            | false => exact first.kept v fun _ => wins

-- `upTo` is the order of which `better` is the strict part.
theorem found_first {better upTo : Float → Float → Bool}
    (opposite : ∀ v w : Float, upTo v w = true ↔ v.isNaN = false ∧ w.isNaN = false ∧ better w v = false)
    (values : List Float) (best : Float) (first : FirstBest better values best) :
    values.find? (fun v => values.all fun w => w.isNaN || upTo v w) = some best := by
  have listed := first.listed
  obtain ⟨number, unbeaten, front, back, same, ahead⟩ := first
  refine List.find?_eq_some_iff_append.mpr ⟨?_, front, back, same, fun v member => ?_⟩
  · refine List.all_eq_true.mpr fun w member => ?_
    cases nan : w.isNaN with
    | true => rfl
    | false =>
        rw [Bool.false_or]
        exact (opposite best w).mpr ⟨number, nan, unbeaten w member nan⟩
  · -- The best number itself is one that the values in front of it do not reach.
    refine (Bool.not_eq_true' _).mpr (Bool.eq_false_iff.mpr fun reaches => ?_)
    have reached := List.all_eq_true.mp reaches best listed
    rw [number, Bool.false_or] at reached
    obtain ⟨isNumber, _, loses⟩ := (opposite v best).mp reached
    rw [ahead v member isNumber] at loses
    cases loses

theorem at_most_opposite (v w : Float) :
    decide (v ≤ w) = true ↔ v.isNaN = false ∧ w.isNaN = false ∧ decide (w < v) = false := by
  rw [decide_eq_true_eq, decide_eq_false_iff_not, Binary64.le_iff_rank, Binary64.lt_iff_rank]
  constructor
  · exact fun ⟨number, other, below⟩ => ⟨number, other, fun ⟨_, _, above⟩ => absurd above (not_lt.mpr below)⟩
  · exact fun ⟨number, other, apart⟩ => ⟨number, other, not_lt.mp fun above => apart ⟨other, number, above⟩⟩

theorem at_least_opposite (v w : Float) :
    decide (w ≤ v) = true ↔ v.isNaN = false ∧ w.isNaN = false ∧ decide (v < w) = false := by
  rw [at_most_opposite, and_left_comm]

theorem unordered_self (v : Float) : decide (v < v) = false := by
  rw [decide_eq_false_iff_not, Binary64.lt_iff_rank]
  exact fun less => lt_irrefl _ less.2.2

theorem reduce_extreme (better : Float → Float → Bool) (r : Reducer) (folds : ∀ values, r.fold values = extreme better values)
    (values : List Float) : r.reduce values = extreme better values := by
  cases values with
  | nil => rfl
  | cons v rest => exact folds (v :: rest)

theorem extreme_found {better upTo : Float → Float → Bool} (prefers : Prefers better) (strict : ∀ v, better v v = false)
    (opposite : ∀ v w : Float, upTo v w = true ↔ v.isNaN = false ∧ w.isNaN = false ∧ better w v = false)
    (values : List Float) :
    ((extreme better values).isNaN = true ↔ ∀ v ∈ values, v.isNaN = true) ∧
      ((∃ v ∈ values, v.isNaN = false) →
        values.find? (fun v => values.all fun w => w.isNaN || upTo v w) = some (extreme better values)) := by
  rcases extreme_first prefers strict values with ⟨numberless, result⟩ | first
  · refine ⟨iff_of_true result numberless, ?_⟩
    rintro ⟨v, member, number⟩
    rw [numberless v member] at number
    cases number
  · refine ⟨iff_of_false (ne_true_of_eq_false first.number) fun numberless => ?_, fun _ => ?_⟩
    · have nan := numberless _ first.listed
      rw [first.number] at nan
      cases nan
    · exact found_first opposite values _ first

/-- The minimum of a list is NaN exactly if there is no number in it. Otherwise it is the first element,
to the bit, that is at most every number of the list, wherever NaN stands and whichever zero comes
first; and the maximum is the first one that is at least every number. -/
theorem extremes_found_first (values : List Float) :
    ((min.reduce values).isNaN = true ↔ ∀ v ∈ values, v.isNaN = true) ∧
      ((max.reduce values).isNaN = true ↔ ∀ v ∈ values, v.isNaN = true) ∧
      ((∃ v ∈ values, v.isNaN = false) →
        values.find? (fun v => values.all fun w => w.isNaN || v ≤ w) = some (min.reduce values) ∧
          values.find? (fun v => values.all fun w => w.isNaN || w ≤ v) = some (max.reduce values)) := by
  rw [reduce_extreme _ min (fun _ => rfl), reduce_extreme _ max (fun _ => rfl)]
  obtain ⟨leastNan, least⟩ := extreme_found less_prefers unordered_self at_most_opposite values
  obtain ⟨greatestNan, greatest⟩ := extreme_found greater_prefers unordered_self at_least_opposite values
  exact ⟨leastNan, greatestNan, fun numbers => ⟨least numbers, greatest numbers⟩⟩

def levels : List Float := [Binary64.notANumber, 0.0, -0.0, Binary64.notANumber, 7.5, Binary64.positiveInfinity]

theorem levels_extremes :
    (∃ v ∈ levels, v.isNaN = false) ∧ (min.reduce levels).toBits = 0 ∧
      levels.find? (fun v => levels.all fun w => w.isNaN || v ≤ w) = some 0.0 ∧
      levels.find? (fun v => levels.all fun w => w.isNaN || w ≤ v) = some Binary64.positiveInfinity := by
  have numbers : ∃ v ∈ levels, v.isNaN = false := ⟨0.0, List.mem_cons_of_mem _ List.mem_cons_self, rfl⟩
  have least : min.reduce levels = 0.0 := by decide +kernel
  have greatest : max.reduce levels = Binary64.positiveInfinity := by decide +kernel
  obtain ⟨_, _, found⟩ := extremes_found_first levels
  refine ⟨numbers, by rw [least]; rfl, ?_⟩
  rw [← least, ← greatest]
  exact found numbers

end TargetEval.Reducer

import TargetEval.Proofs.Shape
import TargetEval.Reducer.Basic

set_option autoImplicit false

namespace TargetEval.Series

def time (s : Series) (i : Nat) : Int := s.start.toInt + i * s.step.toInt

def valueAt (s : Series) (t : Int) : Option Float :=
  if s.start.toInt ≤ t ∧ s.step.toInt ∣ t - s.start.toInt then
    s.get? ((t - s.start.toInt) / s.step.toInt).toNat
  else none

-- The point that present values are folded to: absent if there are none, or if their fold is NaN.
def folded (fold : List Float → Float) (present : List Float) : Option Float :=
  if present.isEmpty then none else if (fold present).isNaN then none else some (fold present)

theorem step_positive (s : Series) (shaped : s.Shaped) : 0 < s.step.toInt := Int64.lt_iff_toInt_lt.mp shaped.2

theorem value_at_time (s : Series) (shaped : s.Shaped) (i : Nat) : s.valueAt (s.time i) = s.get? i := by
  have positive := s.step_positive shaped
  have behind : s.time i - s.start.toInt = i * s.step.toInt := by unfold time; omega
  have later : s.start.toInt ≤ s.time i := by
    have spanned := Int.mul_nonneg (Int.natCast_nonneg i) (Int.le_of_lt positive)
    omega
  rw [valueAt, if_pos ⟨later, behind ▸ Int.dvd_mul_left _ _⟩, behind, Int.mul_ediv_cancel _ (Int.ne_of_gt positive),
    Int.toNat_natCast]

theorem value_off_grid (s : Series) (t : Int) (off : ∀ i, t ≠ s.time i) (shaped : s.Shaped) : s.valueAt t = none := by
  refine if_neg fun ⟨later, divides⟩ => ?_
  obtain ⟨k, behind⟩ := divides
  have forward : 0 ≤ k := by
    have product : 0 ≤ s.step.toInt * k := by omega
    exact Int.nonneg_of_mul_nonneg_right product (s.step_positive shaped)
  refine off k.toNat ?_
  have spanned : s.step.toInt * k = k * s.step.toInt := Int.mul_comm _ _
  rw [time, Int.toNat_of_nonneg forward]
  omega

theorem find_misaligned_none (first : Series) (others : List Series)
    (aligned : others.find? (fun other => !first.isAligned other) = none) :
    ∀ s ∈ others, s.step = first.step ∧ s.size = first.size := by
  intro s member
  have same := List.find?_eq_none.mp aligned s member
  simp only [isAligned, Bool.not_eq_true', Bool.not_eq_false, Bool.and_eq_true, decide_eq_true_eq] at same
  exact ⟨same.1.symm, same.2.symm⟩

theorem combine_cases (name : String) (xs : List Series) (fold : List Float → Float) (result : Series)
    (combined : combine name xs fold = .ok result) :
    xs.head?.map Series.start = some result.start ∧ (∀ s ∈ xs, s.step = result.step ∧ s.size = result.size) ∧
      result.points = (List.range result.size).map (combinedPoint fold xs) := by
  cases xs with
  | nil => cases combined
  | cons first others =>
      unfold combine at combined
      cases aligned : others.find? (fun other => !first.isAligned other) with
      | some odd => simp only [aligned] at combined; cases combined
      | none =>
          simp only [aligned] at combined
          cases combined
          have size : (spanning name first.start first.stop first.step
              ((List.range first.size).map (combinedPoint fold (first :: others)))).size = first.size := by
            simp [spanning, Series.size]
          refine ⟨rfl, ?_, ?_⟩
          · rw [size]
            exact List.forall_mem_cons.mpr ⟨⟨rfl, rfl⟩, find_misaligned_none first others aligned⟩
          · rw [points_spanning, size]

theorem get_beyond (s : Series) (i : Nat) (beyond : s.size ≤ i) : s.get? i = none := by
  have outside : s.values[i]? = none := Array.getElem?_eq_none beyond
  unfold get?
  split
  next => exact outside
  next => rfl

theorem combined_point (name : String) (xs : List Series) (fold : List Float → Float) (result : Series)
    (combined : combine name xs fold = .ok result) (i : Nat) :
    result.get? i = folded fold (xs.filterMap fun s => s.get? i) := by
  obtain ⟨_, aligned, points⟩ := combine_cases name xs fold result combined
  by_cases inside : i < result.size
  · rw [get?_eq_points, points, List.getElem?_map, List.getElem?_range inside]
    rfl
  · -- Beyond the last index no series has a point.
    have none : xs.filterMap (fun s => s.get? i) = [] := by
      refine List.filterMap_eq_nil_iff.mpr fun s member => get_beyond s i ?_
      have size := (aligned s member).2
      omega
    rw [get_beyond result i (by omega), none]
    rfl

theorem combine_shaped (name : String) (xs : List Series) (fold : List Float → Float) (result : Series)
    (shaped : ∀ s ∈ xs, s.Shaped) (combined : combine name xs fold = .ok result) : result.Shaped :=
  preserved_shaped.combine name xs fold result shaped combined

/-- A combination starts with the first series. At each of its times it carries the fold of what the
series carry equally far behind their own starts. If all of them start together, it carries at any
time whatsoever the fold of what they carry at that time. -/
theorem combination_at_times (name : String) (xs : List Series) (fold : List Float → Float) (result : Series)
    (shaped : ∀ s ∈ xs, s.absent.size = s.values.size ∧ 0 < s.step) (combined : combine name xs fold = .ok result) :
    xs.head?.map Series.start = some result.start ∧
    (∀ i, result.valueAt (result.time i) = folded fold (xs.filterMap fun s => s.valueAt (s.time i))) ∧
    ((∀ s ∈ xs, s.start = result.start) →
      ∀ t, result.valueAt t = folded fold (xs.filterMap fun s => s.valueAt t)) := by
  have resultShaped := combine_shaped name xs fold result shaped combined
  have indexed : ∀ i, result.valueAt (result.time i) =
      folded fold (xs.filterMap fun s => s.valueAt (s.time i)) := by
    intro i
    rw [value_at_time result resultShaped, combined_point name xs fold result combined]
    exact congrArg (folded fold) (List.filterMap_congr fun s member => (s.value_at_time (shaped s member) i).symm)
  obtain ⟨first, aligned, _⟩ := combine_cases name xs fold result combined
  refine ⟨first, indexed, fun together t => ?_⟩
  have sameTimes : ∀ s ∈ xs, ∀ i, s.time i = result.time i := by
    intro s member i
    rw [time, time, together s member, (aligned s member).1]
  by_cases on : ∃ i, t = result.time i
  · obtain ⟨i, rfl⟩ := on
    rw [indexed i]
    refine congrArg (folded fold) (List.filterMap_congr fun s member => ?_)
    rw [sameTimes s member i]
  · have off : ∀ i, t ≠ result.time i := fun i same => on ⟨i, same⟩
    have none : xs.filterMap (fun s => s.valueAt t) = [] := by
      refine List.filterMap_eq_nil_iff.mpr fun s member => s.value_off_grid t (fun i => ?_) (shaped s member)
      rw [sameTimes s member i]
      exact off i
    rw [value_off_grid result t off resultShaped, none]
    rfl

def morning : Series := .ofPoints "morning" 600 30 [some 1.0, none, some 3.0, none]

def gaps : Series := .ofPoints "gaps" 600 30 [none, none, some 4.0, some 0.5]

def late : Series := .ofPoints "late" 630 30 [some 10.0, some 20.0, none, none]

def bothSummed : Series := .ofPoints "both" 600 30 [some 1.0, none, some 7.0, some 0.5]

theorem both_summed_at_times :
    combine "both" [morning, gaps] Reducer.sum.reduce = .ok bothSummed ∧
    (∀ s ∈ [morning, gaps], s.absent.size = s.values.size ∧ 0 < s.step) ∧
    (∀ s ∈ [morning, gaps], s.start = bothSummed.start) ∧
    (∀ t, bothSummed.valueAt t = folded Reducer.sum.reduce ([morning, gaps].filterMap fun s => s.valueAt t)) ∧
    bothSummed.valueAt 660 = some 7.0 := by
  have combined : combine "both" [morning, gaps] Reducer.sum.reduce = .ok bothSummed := by decide +kernel
  have shaped : ∀ s ∈ [morning, gaps], s.absent.size = s.values.size ∧ 0 < s.step := by decide
  have together : ∀ s ∈ [morning, gaps], s.start = bothSummed.start := by decide
  obtain ⟨_, _, atTimes⟩ := combination_at_times "both" [morning, gaps] Reducer.sum.reduce bothSummed shaped combined
  exact ⟨combined, shaped, together, atTimes together, by decide +kernel⟩

-- A series that starts later is folded in by its indexes: its first value, of the time 630, counts at 600.
theorem late_summed_early :
    ∃ result, combine "shifted" [morning, late] Reducer.sum.reduce = .ok result ∧
      (∀ s ∈ [morning, late], s.absent.size = s.values.size ∧ 0 < s.step) ∧
      result.valueAt (result.time 0) = some 11.0 ∧
      folded Reducer.sum.reduce ([morning, late].filterMap fun s => s.valueAt (result.time 0)) = some 1.0 ∧
      result.valueAt (result.time 0) ≠
        folded Reducer.sum.reduce ([morning, late].filterMap fun s => s.valueAt (result.time 0)) := by
  refine ⟨.ofPoints "shifted" 600 30 [some 11.0, some 20.0, some 3.0, none], ?_⟩
  decide +kernel

end TargetEval.Series

import Mathlib.Data.Prod.Lex
import TargetEval.Number.Binary64

set_option autoImplicit false

namespace TargetEval.Binary64

open Float.Model

abbrev Rank := ℤ ×ₗ ℤ ×ₗ ℤ

def rankAt (side exponent significand : ℤ) : Rank := toLex (side, toLex (exponent, significand))

theorem rank_at_lt (a b e f m n : ℤ) :
    rankAt a e m < rankAt b f n ↔ a < b ∨ a = b ∧ (e < f ∨ e = f ∧ m < n) := by
  simp only [rankAt, Prod.Lex.toLex_lt_toLex]

-- The rank of NaN carries no meaning.
def rankOf : UnpackedFloat → Rank
  | .infinity .negative => rankAt (-2) 0 0
  | .finite .negative m e _ => rankAt (-1) (-e) (-m)
  | .zero _ => rankAt 0 0 0
  | .finite .positive m e _ => rankAt 1 e m
  | .infinity .positive => rankAt 2 0 0
  | .notANumber => rankAt 0 0 0

def rank (x : Float) : Rank := rankOf x.toModel.unpack

theorem compared (e f : ℤ) (m n : ℕ) :
    (compare e f).then (compare m n) = .lt ↔ e < f ∨ e = f ∧ m < n := by
  rw [Ordering.then_eq_lt, Int.compare_eq_lt, Int.compare_eq_eq, Nat.compare_eq_lt]

theorem compared_back (e f : ℤ) (m n : ℕ) :
    (compare e f).then (compare m n) = .gt ↔ f < e ∨ e = f ∧ n < m := by
  rw [Ordering.then_eq_gt, Int.compare_eq_gt, Int.compare_eq_eq, Nat.compare_eq_gt]

theorem incomparable (x y : Bool) (p : Prop) (nan : x = true ∨ y = true) :
    none = some Ordering.lt ↔ x = false ∧ y = false ∧ p := by
  rcases nan with rfl | rfl <;> simp

theorem comparable (o : Ordering) (a b e f m n : ℤ) (same : o = .lt ↔ a < b ∨ a = b ∧ (e < f ∨ e = f ∧ m < n)) :
    some o = some .lt ↔ false = false ∧ false = false ∧ rankAt a e m < rankAt b f n := by
  rw [Option.some.injEq, same, rank_at_lt]
  simp

theorem unpacked_lt (u v : UnpackedFloat) :
    u.lt v = true ↔ u.isNaN = false ∧ v.isNaN = false ∧ rankOf u < rankOf v := by
  change (u.compare v == some .lt) = true ↔ _
  rw [beq_iff_eq]
  cases u with
  | notANumber => exact incomparable _ _ _ (.inl rfl)
  | infinity s =>
      cases v with
      | notANumber => exact incomparable _ _ _ (.inr rfl)
      | infinity t => cases s <;> cases t <;> exact comparable _ _ _ _ _ _ _ (by decide)
      | zero t => cases s <;> exact comparable _ _ _ _ _ _ _ (by decide)
      | finite t n f hn => cases s <;> cases t <;> exact comparable _ _ _ _ _ _ _ (by simp)
  | zero s =>
      cases v with
      | notANumber => exact incomparable _ _ _ (.inr rfl)
      | infinity t => cases t <;> exact comparable _ _ _ _ _ _ _ (by decide)
      | zero t => exact comparable _ _ _ _ _ _ _ (by decide)
      | finite t n f hn => cases t <;> exact comparable _ _ _ _ _ _ _ (by simp)
  | finite s m e hm =>
      cases v with
      | notANumber => exact incomparable _ _ _ (.inr rfl)
      | infinity t => cases s <;> cases t <;> exact comparable _ _ _ _ _ _ _ (by simp)
      | zero t => cases s <;> exact comparable _ _ _ _ _ _ _ (by simp)
      | finite t n f hn =>
          cases s with
          | negative =>
              cases t with
              | negative => exact comparable _ _ _ _ _ _ _ (by simp [compared_back])
              | positive => exact comparable _ _ _ _ _ _ _ (by simp)
          | positive =>
              cases t with
              | negative => exact comparable _ _ _ _ _ _ _ (by simp)
              | positive => exact comparable _ _ _ _ _ _ _ (by simp [compared])

theorem lt_iff_rank (x y : Float) : x < y ↔ x.isNaN = false ∧ y.isNaN = false ∧ rank x < rank y := by
  have unfolded : x < y ↔ x.toModel.unpack.lt y.toModel.unpack = true := by
    change decide (x.toModel < y.toModel) = true ↔ _
    rw [decide_eq_true_iff]
    rfl
  exact unfolded.trans (unpacked_lt _ _)

theorem compared_swapped (u v : UnpackedFloat) : v.compare u = (u.compare v).map Ordering.swap := by
  have magnitudes : ∀ (e f : ℤ) (m n : ℕ),
      (compare f e).then (compare n m) = ((compare e f).then (compare m n)).swap := by
    intro e f m n
    rw [Ordering.swap_then, Int.compare_swap, Nat.compare_swap]
  cases u with
  | notANumber => cases v <;> rfl
  | infinity s => cases v with
      | infinity t => cases s <;> cases t <;> rfl
      | _ => cases s <;> rfl
  | zero s => cases v with
      | infinity t => cases t <;> rfl
      | finite t n f hn => cases t <;> rfl
      | _ => rfl
  | finite s m e hm => cases v with
      | notANumber => rfl
      | infinity t => cases s <;> cases t <;> rfl
      | zero t => cases s <;> rfl
      | finite t n f hn =>
          cases s <;> cases t
          · exact congrArg some (congrArg Ordering.swap (magnitudes e f m n))
          · rfl
          · rfl
          · exact congrArg some (magnitudes e f m n)

theorem compared_nan (u v : UnpackedFloat) (nan : u.isNaN = true ∨ v.isNaN = true) : u.compare v = none := by
  rcases nan with left | right
  · cases u with
    | notANumber => rfl
    | _ => cases left
  · cases v with
    | notANumber => cases u <;> rfl
    | _ => cases right

theorem compared_numbers (u v : UnpackedFloat) (number : u.isNaN = false) (other : v.isNaN = false) :
    ∃ o, u.compare v = some o := by
  cases u with
  | notANumber => cases number
  | infinity s => cases v with
      | notANumber => cases other
      | _ => cases s <;> exact ⟨_, rfl⟩
  | zero s => cases v with
      | notANumber => cases other
      | infinity t => cases t <;> exact ⟨_, rfl⟩
      | finite t n f hn => cases t <;> exact ⟨_, rfl⟩
      | zero t => exact ⟨_, rfl⟩
  | finite s m e hm => cases v with
      | notANumber => cases other
      | infinity t => cases s <;> cases t <;> exact ⟨_, rfl⟩
      | finite t n f hn => cases s <;> cases t <;> exact ⟨_, rfl⟩
      | zero t => cases s <;> exact ⟨_, rfl⟩

theorem compared_ranks (u v : UnpackedFloat) :
    u.compare v = if u.isNaN || v.isNaN then none else some (cmp (rankOf u) (rankOf v)) := by
  by_cases nan : u.isNaN = true ∨ v.isNaN = true
  · rw [compared_nan u v nan, if_pos ((Bool.or_eq_true _ _).mpr nan)]
  · have number := Bool.eq_false_iff.mpr fun left => nan (.inl left)
    have other := Bool.eq_false_iff.mpr fun right => nan (.inr right)
    have before : (u.compare v == some .lt) = true ↔ _ := unpacked_lt u v
    have behind : (v.compare u == some .lt) = true ↔ _ := unpacked_lt v u
    obtain ⟨o, compared⟩ := compared_numbers u v number other
    rw [compared_swapped] at behind
    simp only [compared, number, other, Option.map_some, beq_iff_eq, Option.some.injEq, true_and,
      Ordering.swap_eq_lt] at before behind
    rw [compared, number, other]
    refine congrArg some ?_
    cases o with
    | lt => exact (cmp_eq_lt_iff _ _).mpr (before.mp rfl) |>.symm
    | gt => exact (cmp_eq_gt_iff _ _).mpr (behind.mp rfl) |>.symm
    | eq =>
        refine ((cmp_eq_eq_iff _ _).mpr (le_antisymm ?_ ?_)).symm
        · exact not_lt.mp fun less => nomatch behind.mpr less
        · exact not_lt.mp fun less => nomatch before.mpr less

theorem le_iff_rank (x y : Float) : x ≤ y ↔ x.isNaN = false ∧ y.isNaN = false ∧ rank x ≤ rank y := by
  have unfolded : x ≤ y ↔ (x.toModel.unpack.compare y.toModel.unpack).any (·.isLE) = true := by
    change decide (x.toModel ≤ y.toModel) = true ↔ _
    rw [decide_eq_true_iff]
    rfl
  have ordered : (cmp (rank x) (rank y)).isLE = true ↔ rank x ≤ rank y :=
    Ordering.ne_gt_iff_isLE.symm.trans ((cmp_eq_gt_iff (rank x) (rank y)).not.trans not_lt)
  rw [unfolded, compared_ranks, ← ordered]
  change _ ↔ x.toModel.unpack.isNaN = false ∧ y.toModel.unpack.isNaN = false ∧
    (cmp (rankOf x.toModel.unpack) (rankOf y.toModel.unpack)).isLE = true
  generalize cmp (rankOf x.toModel.unpack) (rankOf y.toModel.unpack) = o
  cases x.toModel.unpack.isNaN <;> cases y.toModel.unpack.isNaN <;> simp

end TargetEval.Binary64

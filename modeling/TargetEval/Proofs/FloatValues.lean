import TargetEval.Proofs.FloatOrder
import TargetEval.Proofs.WeightedSums

set_option autoImplicit false

namespace TargetEval.Binary64

open Float.Model Float.Model.UnpackedFloat

-- Infinities and NaN have no value of their own.
def valueOf : UnpackedFloat → ℚ
  | .finite s m e _ => s.apply m * 2 ^ e
  | _ => 0

def value (x : Float) : ℚ := valueOf x.toModel.unpack

theorem rank_at_le (a b e f m n : ℤ) :
    rankAt a e m ≤ rankAt b f n ↔ a < b ∨ a = b ∧ (e < f ∨ e = f ∧ m ≤ n) := by
  simp only [rankAt, Prod.Lex.toLex_le_toLex]

theorem rescaled (e f : ℤ) (below : e ≤ f) : (2 : ℚ) ^ f = 2 ^ (f - e).toNat * 2 ^ e := by
  rw [← zpow_natCast, ← zpow_add₀ two_ne_zero]
  congr 1
  omega

section

variable (m n : ℕ) (e f : ℤ)

theorem scaled_le (below : e ≤ f) : (m : ℚ) * 2 ^ e ≤ n * 2 ^ f ↔ m ≤ n * 2 ^ (f - e).toNat := by
  rw [rescaled e f below, ← mul_assoc, mul_le_mul_iff_left₀ (zpow_pos two_pos e)]
  exact_mod_cast Iff.rfl

theorem scaled_ge (below : e ≤ f) : (n : ℚ) * 2 ^ f ≤ m * 2 ^ e ↔ n * 2 ^ (f - e).toNat ≤ m := by
  rw [rescaled e f below, ← mul_assoc, mul_le_mul_iff_left₀ (zpow_pos two_pos e)]
  exact_mod_cast Iff.rfl

end

theorem short_of_bits (k : ℕ) (f g : ℤ) (bits : k < 2 ^ 53) (less : f < g) : (k : ℚ) * 2 ^ f < 2 ^ 52 * 2 ^ g := by
  calc (k : ℚ) * 2 ^ f < 2 ^ 53 * 2 ^ f := mul_lt_mul_of_pos_right (by exact_mod_cast bits) (zpow_pos two_pos f)
    _ = 2 ^ 52 * 2 ^ (f + 1) := by rw [zpow_add₀ two_ne_zero]; ring
    _ ≤ 2 ^ 52 * 2 ^ g := mul_le_mul_of_nonneg_left (zpow_le_zpow_right₀ one_le_two less) (by positivity)

structure Normalized (m : ℕ) (e : ℤ) : Prop where
  bits : m < 2 ^ 53
  least : -1074 ≤ e
  full : 2 ^ 52 ≤ m ∨ e = -1074

theorem Canonical.normalized {m : ℕ} {e : ℤ} (canonical : Canonical m e) : Normalized m e :=
  ⟨canonical.bits, canonical.least, canonical.full⟩

theorem Normalized.packed {m : ℕ} {e : ℤ} (normalized : Normalized m e) (s : Sign) (pos : 0 < m) :
    (Float.Model.pack (.finite s m e pos)).unpack = if 972 ≤ e then .infinity s else .finite s m e pos := by
  by_cases large : 972 ≤ e
  · rw [unpack_pack_finite, if_pos large, if_pos large]
  · rw [if_neg large]
    exact unpack_pack_canonical s m e pos ⟨normalized.bits, normalized.least, by omega, normalized.full⟩

section

variable {m n : ℕ} {e f : ℤ}

theorem normalized_lt (first : Normalized m e) (second : Normalized n f) (less : e < f) :
    (m : ℚ) * 2 ^ e < n * 2 ^ f := by
  have full : 2 ^ 52 ≤ n := second.full.resolve_right (by have := first.least; omega)
  refine lt_of_lt_of_le (short_of_bits m e f first.bits less) ?_
  exact mul_le_mul_of_nonneg_right (by exact_mod_cast full) (zpow_pos two_pos f).le

theorem normalized_le (first : Normalized m e) (second : Normalized n f) :
    (m : ℚ) * 2 ^ e ≤ n * 2 ^ f ↔ e < f ∨ e = f ∧ m ≤ n := by
  rcases lt_trichotomy e f with less | rfl | greater
  · exact iff_of_true (normalized_lt first second less).le (.inl less)
  · rw [mul_le_mul_iff_left₀ (zpow_pos two_pos e)]
    simp
  · refine iff_of_false (not_le.mpr (normalized_lt second first greater)) ?_
    omega

end

theorem magnitude_pos (m : ℕ) (e : ℤ) (pos : 0 < m) : (0 : ℚ) < m * 2 ^ e :=
  mul_pos (Nat.cast_pos.mpr pos) (zpow_pos two_pos e)

theorem sides_apart (a b e f m n : ℤ) (p q : ℚ) (less : a < b) (below : p < q) :
    (rankAt a e m ≤ rankAt b f n ↔ p ≤ q) ∧ (rankAt b f n ≤ rankAt a e m ↔ q ≤ p) := by
  rw [rank_at_le, rank_at_le]
  exact ⟨iff_of_true (.inl less) below.le, iff_of_false (by omega) (not_le.mpr below)⟩

theorem positive_value (m : ℕ) (e : ℤ) (pos : 0 < m) : valueOf (.finite .positive m e pos) = m * 2 ^ e := by
  simp [valueOf, Sign.apply]

theorem negative_value (m : ℕ) (e : ℤ) (pos : 0 < m) : valueOf (.finite .negative m e pos) = -(m * 2 ^ e) := by
  simp [valueOf, Sign.apply]

theorem zero_value (s : Sign) : valueOf (.zero s) = 0 := rfl

theorem finite_cases (x : Float) (finite : x.isFinite = true) :
    (∃ s, x.toModel.unpack = .zero s) ∨
      ∃ s m e pos, x.toModel.unpack = .finite s m e pos ∧ Canonical m e := by
  change x.toModel.unpack.isFinite = true at finite
  cases unpacked : x.toModel.unpack with
  | notANumber => rw [unpacked] at finite; cases finite
  | infinity s => rw [unpacked] at finite; cases finite
  | zero s => exact .inl ⟨s, rfl⟩
  | finite s m e pos => exact .inr ⟨s, m, e, pos, rfl, unpacked_canonical x s m e pos unpacked⟩

theorem nonneg_cases (x : Float) (finite : x.isFinite = true) (nonneg : 0 ≤ value x) :
    value x = 0 ∧ (∃ s, x.toModel.unpack = .zero s) ∨
      ∃ m e pos, x.toModel.unpack = .finite .positive m e pos ∧ value x = m * 2 ^ e ∧ Canonical m e := by
  rcases finite_cases x finite with ⟨s, zero⟩ | ⟨s, m, e, pos, unpacked, canonical⟩
  · exact .inl ⟨by rw [value, zero, zero_value], s, zero⟩
  · cases s with
    | positive => exact .inr ⟨m, e, pos, unpacked, by rw [value, unpacked, positive_value], canonical⟩
    | negative =>
        have magnitude := magnitude_pos m e pos
        rw [value, unpacked, negative_value] at nonneg
        linarith

theorem positive_finite (x : Float) (finite : x.isFinite = true) (above : 0 < value x) :
    ∃ m e pos, x.toModel.unpack = .finite .positive m e pos ∧ value x = m * 2 ^ e ∧ Canonical m e :=
  (nonneg_cases x finite above.le).resolve_left fun nothing => above.ne' nothing.1

theorem infinite_of_inf (x : Float) (infinite : x.isInf = true) : ∃ s, x.toModel.unpack = .infinity s := by
  change x.toModel.unpack.isInf = true at infinite
  cases unpacked : x.toModel.unpack with
  | infinity s => exact ⟨s, rfl⟩
  | _ => rw [unpacked] at infinite; cases infinite

theorem finite_of_not_inf (x : Float) (number : x.isNaN = false) (bounded : x.isInf = false) : x.isFinite = true := by
  rcases infinite_or_finite x.toModel.unpack number with ⟨s, infinite⟩ | finite
  · change x.toModel.unpack.isInf = false at bounded
    rw [infinite] at bounded
    cases bounded
  · exact finite

theorem rank_le_iff (x y : Float) (finite : x.isFinite = true) (other : y.isFinite = true) :
    rank x ≤ rank y ↔ value x ≤ value y := by
  unfold rank value
  rcases finite_cases x finite with ⟨s, zero⟩ | ⟨s, m, e, pos, unpacked, first⟩
  · rcases finite_cases y other with ⟨t, nothing⟩ | ⟨t, n, f, positive, found, second⟩
    · rw [zero, nothing]
      exact iff_of_true le_rfl le_rfl
    · have above := magnitude_pos n f positive
      rw [zero, found, zero_value]
      cases t with
      | negative =>
          rw [negative_value]
          exact (sides_apart (-1) 0 _ _ _ _ _ _ (by decide) (neg_neg_of_pos above)).2
      | positive =>
          rw [positive_value]
          exact (sides_apart 0 1 _ _ _ _ _ _ (by decide) above).1
  · have above := magnitude_pos m e pos
    rcases finite_cases y other with ⟨t, nothing⟩ | ⟨t, n, f, positive, found, second⟩
    · rw [unpacked, nothing, zero_value]
      cases s with
      | negative =>
          rw [negative_value]
          exact (sides_apart (-1) 0 _ _ _ _ _ _ (by decide) (neg_neg_of_pos above)).1
      | positive =>
          rw [positive_value]
          exact (sides_apart 0 1 _ _ _ _ _ _ (by decide) above).2
    · have other_above := magnitude_pos n f positive
      rw [unpacked, found]
      cases s with
      | negative =>
          rw [negative_value]
          cases t with
          | negative =>
              rw [negative_value, neg_le_neg_iff, normalized_le second.normalized first.normalized, rankOf, rankOf,
                rank_at_le]
              omega
          | positive =>
              rw [positive_value]
              exact (sides_apart (-1) 1 _ _ _ _ _ _ (by decide) (by linarith)).1
      | positive =>
          rw [positive_value]
          cases t with
          | negative =>
              rw [negative_value]
              exact (sides_apart (-1) 1 _ _ _ _ _ _ (by decide) (by linarith)).2
          | positive =>
              rw [positive_value, normalized_le first.normalized second.normalized, rankOf, rankOf, rank_at_le]
              omega

theorem negated (x : Float) : (-x).toModel.unpack = x.toModel.unpack.neg := by
  change (Float.Model.pack x.toModel.unpack.neg).unpack = _
  cases unpacked : x.toModel.unpack with
  | notANumber => rfl
  | infinity s => rw [UnpackedFloat.neg, pack_infinity]
  | zero s => rw [UnpackedFloat.neg, pack_zero]
  | finite s m e pos =>
      rw [UnpackedFloat.neg, unpack_pack_canonical _ m e pos (unpacked_canonical x s m e pos unpacked)]

theorem negated_finite (x : Float) (finite : x.isFinite = true) : (-x).isFinite = true := by
  change (-x).toModel.unpack.isFinite = true
  change x.toModel.unpack.isFinite = true at finite
  rw [negated]
  cases unpacked : x.toModel.unpack with
  | notANumber => rw [unpacked] at finite; cases finite
  | infinity s => rw [unpacked] at finite; cases finite
  | zero s => rfl
  | finite s m e pos => rfl

theorem neg_value (u : UnpackedFloat) : valueOf u.neg = -valueOf u := by
  cases u with
  | finite s m e pos =>
      cases s with
      | negative => exact (positive_value m e pos).trans (by rw [negative_value, neg_neg])
      | positive => exact (negative_value m e pos).trans (by rw [positive_value])
  | _ => exact neg_zero.symm

theorem opposite_le (a b e f m n : ℤ) :
    rankAt (-a) (-e) (-m) ≤ rankAt (-b) (-f) (-n) ↔ rankAt b f n ≤ rankAt a e m := by
  rw [rank_at_le, rank_at_le]
  omega

theorem rank_neg (u : UnpackedFloat) : ∃ a e m, rankOf u = rankAt a e m ∧ rankOf u.neg = rankAt (-a) (-e) (-m) := by
  cases u with
  | notANumber => exact ⟨_, _, _, rfl, rfl⟩
  | infinity s => cases s <;> exact ⟨_, _, _, rfl, rfl⟩
  | zero s => cases s <;> exact ⟨_, _, _, rfl, rfl⟩
  | finite s m e pos =>
      cases s with
      | negative => exact ⟨_, _, _, rfl, by rw [neg_neg, neg_neg, neg_neg]; rfl⟩
      | positive => exact ⟨_, _, _, rfl, rfl⟩

theorem neg_rank_le (u v : UnpackedFloat) : rankOf u.neg ≤ rankOf v.neg ↔ rankOf v ≤ rankOf u := by
  obtain ⟨a, e, m, first, turned⟩ := rank_neg u
  obtain ⟨b, f, n, second, back⟩ := rank_neg v
  rw [first, turned, second, back, opposite_le]

theorem neg_twice (u : UnpackedFloat) : u.neg.neg = u := by
  cases u with
  | notANumber => rfl
  | infinity s => cases s <;> rfl
  | zero s => cases s <;> rfl
  | finite s m e pos => cases s <;> rfl

section

variable (x y : Float) (finite : x.isFinite = true) (other : y.isFinite = true)

include finite

theorem number_of_finite : x.isNaN = false := (finite_number _ finite).1

theorem finite_inside : rankOf (.infinity .negative) < rank x ∧ rank x < rankOf (.infinity .positive) := by
  unfold rank
  rcases finite_cases x finite with ⟨s, zero⟩ | ⟨s, m, e, pos, unpacked, _⟩
  · rw [zero, rankOf, rankOf, rankOf, rank_at_lt, rank_at_lt]
    exact ⟨.inl (by decide), .inl (by decide)⟩
  · rw [unpacked]
    cases s <;>
      rw [rankOf, rankOf, rankOf, rank_at_lt, rank_at_lt] <;> exact ⟨.inl (by decide), .inl (by decide)⟩

include other

theorem le_iff_value : x ≤ y ↔ value x ≤ value y := by
  rw [le_iff_rank, number_of_finite x finite, number_of_finite y other, ← rank_le_iff x y finite other]
  simp

theorem lt_iff_value : x < y ↔ value x < value y := by
  rw [lt_iff_rank, number_of_finite x finite, number_of_finite y other, ← not_le, rank_le_iff y x other finite, not_le]
  simp

end

theorem finite_between (a x b : Float) (finite : a.isFinite = true) (other : b.isFinite = true) (above : a ≤ x)
    (below : x ≤ b) : x.isFinite = true := by
  rw [le_iff_rank] at above below
  change x.toModel.unpack.isFinite = true
  rcases infinite_or_finite x.toModel.unpack above.2.1 with ⟨s, infinite⟩ | bounded
  · rw [rank, rank, infinite] at above below
    cases s with
    | negative => exact absurd above.2.2 (not_le.mpr (finite_inside a finite).1)
    | positive => exact absurd below.2.2 (not_le.mpr (finite_inside b other).2)
  · exact bounded

end TargetEval.Binary64

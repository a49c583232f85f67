import TargetEval.Proofs.FloatPrecision

set_option autoImplicit false

namespace TargetEval.Binary64

open Float.Model Float.Model.UnpackedFloat

def Overflows (low high : Float) : Prop := high.isFinite = true ∧ (high - low).isInf = true

section

variable (low high t : Float)

-- An infinity taken away leaves its opposite, and that is all a part of it can be.
theorem blend_nan (infinite : low.isInf = true) (number : high.isNaN = false) (finite : t.isFinite = true)
    (nonneg : 0 ≤ value t) : (low + (high - low) * t).isNaN = true := by
  obtain ⟨s, unpacked⟩ := infinite_of_inf low infinite
  have gap : (high - low).toModel.unpack = .notANumber ∨ (high - low).toModel.unpack = .infinity (-s) := by
    change high.toModel.unpack.isNaN = false at number
    rw [sub_unpacked, unpacked]
    cases found : high.toModel.unpack with
    | notANumber => rw [found] at number; cases number
    | infinity r => cases r <;> cases s <;> first | exact .inl rfl | exact .inr rfl
    | zero r => exact .inr (pack_infinity (-s))
    | finite r m e pos => exact .inr (pack_infinity (-s))
  have step : ((high - low) * t).toModel.unpack = .notANumber ∨ ((high - low) * t).toModel.unpack = .infinity (-s) := by
    rw [mul_unpacked]
    rcases gap with nan | opposite
    · rw [nan, UnpackedFloat.mul]
      exact .inl rfl
    · rw [opposite]
      rcases nonneg_cases t finite nonneg with ⟨_, r, zero⟩ | ⟨m, e, pos, part, _⟩
      · rw [zero, UnpackedFloat.mul]
        exact .inl rfl
      · rw [part, UnpackedFloat.mul, pack_infinity]
        cases s <;> exact .inr rfl
  change (low + (high - low) * t).toModel.unpack.isNaN = true
  rw [add_unpacked, pack_nan, unpacked]
  rcases step with nan | opposite
  · rw [nan]
    rfl
  · rw [opposite]
    cases s <;> rfl

variable (finite : low.isFinite = true) (ordered : low ≤ high)

include finite ordered in
theorem infinite_above (s : Sign) (infinite : high.toModel.unpack = .infinity s) : s = .positive := by
  cases s with
  | positive => rfl
  | negative =>
      have above := ((le_iff_rank low high).mp ordered).2.2
      rw [rank, rank, infinite] at above
      exact absurd above (not_le.mpr (finite_inside low finite).1)

include finite ordered in
theorem gap_cases : (high - low).toModel.unpack = .infinity .positive ∨
    high.isFinite = true ∧ (high - low).isFinite = true := by
  have number := ((le_iff_rank low high).mp ordered).2.1
  rcases infinite_or_finite high.toModel.unpack number with ⟨s, infinite⟩ | bounded
  · rw [sub_unpacked, infinite, infinite_above low high finite ordered s infinite]
    rcases finite_cases low finite with ⟨t, zero⟩ | ⟨t, m, e, pos, unpacked, _⟩
    · rw [zero]
      exact .inl (pack_infinity .positive)
    · rw [unpacked]
      exact .inl (pack_infinity .positive)
  · have rounds := rounds_sub high low bounded finite
    have above := (le_iff_value low high finite bounded).mp ordered
    have least := rounds.atLeast 0.0 rfl (sub_nonneg.mpr above)
    rcases infinite_or_finite (high - low).toModel.unpack rounds.number with ⟨s, infinite⟩ | settled
    · cases s with
      | positive => exact .inl infinite
      | negative =>
          rw [infinite] at least
          exact absurd least (not_le.mpr (finite_inside 0.0 rfl).1)
    · exact .inr ⟨bounded, settled⟩

include finite in
theorem overflow_infinite (infinite : (high - low).toModel.unpack = .infinity .positive) (part : t.isFinite = true)
    (above : 0 < value t) : low + (high - low) * t = positiveInfinity := by
  obtain ⟨m, e, pos, unpacked, _, _⟩ := positive_finite t part above
  have step : ((high - low) * t).toModel.unpack = .infinity .positive := by
    rw [mul_unpacked, infinite, unpacked]
    exact pack_infinity .positive
  change Float.ofModel (.pack (UnpackedFloat.add Format.binary64 _ ((high - low) * t).toModel.unpack)) = _
  rw [step]
  rcases finite_cases low finite with ⟨s, zero⟩ | ⟨s, n, f, positive, found, _⟩
  · rw [zero]
    rfl
  · rw [found]
    rfl

theorem part_of_one (part : t.isFinite = true) (nonneg : 0 ≤ value t) (below : value t < 1) :
    value t ≤ 1 - 2 ^ (-53 : ℤ) := by
  rcases nonneg_cases t part nonneg with ⟨nothing, _⟩ | ⟨m, e, pos, _, same, canonical⟩
  · rw [nothing]
    norm_num
  · have whole : (1 : ℚ) = (2 ^ 52 : ℕ) * 2 ^ (-52 : ℤ) := by norm_num
    have settled : Normalized (2 ^ 52) (-52) := ⟨by decide, by decide, .inl le_rfl⟩
    rw [same, whole, ← not_le, normalized_le settled canonical.normalized] at below
    have bits := canonical.bits
    have full := canonical.full
    have small : e ≤ -53 := by omega
    have most : m ≤ 2 ^ 53 - 1 := by omega
    calc value t = m * 2 ^ e := same
      _ ≤ (2 ^ 53 - 1 : ℕ) * 2 ^ (-53 : ℤ) :=
          mul_le_mul (by exact_mod_cast most) (zpow_le_zpow_right₀ one_le_two small) (zpow_pos two_pos e).le
            (Nat.cast_nonneg _)
      _ = 1 - 2 ^ (-53 : ℤ) := by norm_num

theorem part_lt (x : Float) (bounded : x.isFinite = true) (part : t.isFinite = true) (product : (x * t).isFinite = true)
    (nonneg : 0 ≤ value t) (below : value t < 1) (normal : (2 : ℚ) ^ (-1022 : ℤ) ≤ value x * value t) :
    value (x * t) < value x := by
  have above : 0 < value x * value t := lt_of_lt_of_le (zpow_pos two_pos _) normal
  have positive : 0 < value x := pos_of_mul_pos_left above nonneg
  have most := part_of_one t part nonneg below
  have lost : (1 : ℚ) - 2 ^ (-106 : ℤ) < 1 := sub_lt_self 1 (zpow_pos two_pos _)
  calc value (x * t) ≤ value x * value t * (1 + 2 ^ (-53 : ℤ)) := product_close x t bounded part product normal
    _ ≤ value x * (1 - 2 ^ (-53 : ℤ)) * (1 + 2 ^ (-53 : ℤ)) :=
        mul_le_mul_of_nonneg_right (mul_le_mul_of_nonneg_left most positive.le) (by positivity)
    _ = value x * (1 - 2 ^ (-106 : ℤ)) := by norm_num; ring
    _ < value x := mul_lt_of_lt_one_right positive lost

section

variable (bounded : high.isFinite = true) (settled : (high - low).isFinite = true) (part : t.isFinite = true)
  (nonneg : 0 ≤ value t) (below : value t < 1)

include finite bounded in
theorem small_difference (above : value low ≤ value high)
    (small : value high - value low < 2 ^ (-1022 : ℤ)) : value (high - low) = value high - value low := by
  obtain ⟨a, first⟩ := multiple_of_least high
  obtain ⟨b, second⟩ := multiple_of_least low
  have unit : (0 : ℚ) < 2 ^ (-1074 : ℤ) := zpow_pos two_pos _
  have gap : value high - value low = (a - b : ℤ) * 2 ^ (-1074 : ℤ) := by
    rw [first, second, Int.cast_sub, sub_mul]
  have nonneg : 0 ≤ a - b := by
    have least := sub_nonneg.mpr above
    rw [gap, mul_nonneg_iff_of_pos_right unit] at least
    exact_mod_cast least
  have bits : a - b < 2 ^ 52 := by
    rw [gap, least_normal, mul_lt_mul_iff_left₀ unit] at small
    exact_mod_cast small
  have same : value high - value low = ((a - b).toNat : ℕ) * 2 ^ (-1074 : ℤ) := by
    rw [gap, ← Int.cast_natCast, Int.toNat_of_nonneg nonneg]
  obtain ⟨c, kept, exactly⟩ := representable (a - b).toNat (-1074) (by omega) (by decide) (by decide)
  exact ((rounds_sub high low bounded finite).exact c kept (exactly.trans same.symm)).2

include finite ordered bounded settled part nonneg below in
theorem step_between : ((high - low) * t).isFinite = true ∧ 0 ≤ value ((high - low) * t) ∧
    value ((high - low) * t) ≤ value high - value low := by
  have above := (le_iff_value low high finite bounded).mp ordered
  have rounds := rounds_sub high low bounded finite
  have gap : 0 ≤ value (high - low) :=
    (le_iff_value 0.0 _ rfl settled).mp (rounds.ge 0.0 rfl (sub_nonneg.mpr above))
  have rounded := rounds_mul (high - low) t settled part
  obtain ⟨product, least, greatest⟩ :=
    rounded.between 0.0 _ rfl settled (mul_nonneg gap nonneg) (mul_le_of_le_one_right gap below.le)
  refine ⟨product, least, ?_⟩
  by_cases small : value high - value low < 2 ^ (-1022 : ℤ)
  · rwa [small_difference low high finite bounded above small] at greatest
  · -- What the difference gains by rounding, the part of it that is taken loses again.
    by_contra further
    have passed : value (high - low) ≤ value ((high - low) * t) :=
      (le_iff_value _ _ settled product).mp (rounds.le _ product (not_le.mp further).le)
    by_cases tiny : value (high - low) * value t < 2 ^ (-1022 : ℤ)
    · obtain ⟨b, kept, unit⟩ := representable 1 (-1022) (by decide) (by decide) (by decide)
      rw [Nat.cast_one, one_mul] at unit
      have bound := (le_iff_value _ _ product kept).mp (rounded.le b kept (by rw [unit]; exact tiny.le))
      rw [unit] at bound
      linarith
    · have less := part_lt t (high - low) settled part product nonneg below (not_lt.mp tiny)
      exact absurd passed less.not_ge

include finite ordered bounded settled part nonneg below in
theorem blend_between : low ≤ low + (high - low) * t ∧ low + (high - low) * t ≤ high := by
  obtain ⟨product, least, greatest⟩ := step_between low high t finite ordered bounded settled part nonneg below
  have rounds := rounds_add low _ finite product
  exact ⟨rounds.ge low finite (by linarith), rounds.le high bounded (by linarith)⟩

end

include finite in
theorem le_infinity : low ≤ positiveInfinity :=
  (le_iff_rank _ _).mpr ⟨number_of_finite low finite, rfl, (finite_inside low finite).2.le⟩

include finite ordered in
theorem infinity_le_iff : positiveInfinity ≤ high ↔ ¬high.isFinite = true := by
  have number := ((le_iff_rank low high).mp ordered).2.1
  rcases infinite_or_finite high.toModel.unpack number with ⟨s, infinite⟩ | bounded
  · have unbounded : high.isFinite = false := congrArg UnpackedFloat.isFinite infinite
    refine iff_of_true ?_ (Bool.eq_false_iff.mp unbounded)
    rw [le_iff_rank, rank, rank, infinite, infinite_above low high finite ordered s infinite]
    exact ⟨rfl, number, le_rfl⟩
  · refine iff_of_false (fun atMost => ?_) (not_not_intro bounded)
    exact absurd ((le_iff_rank _ _).mp atMost).2.2 (not_le.mpr (finite_inside high bounded).2)

include finite in
theorem gap_of_same (same : low = high) : (high - low).toModel.unpack ≠ .infinity .positive := by
  intro infinite
  have nothing := (rounds_sub low low finite finite).exact 0.0 rfl (sub_self _).symm
  have bounded : (low - low).toModel.unpack.isFinite = true := nothing.1
  rw [← same] at infinite
  rw [infinite] at bounded
  cases bounded

include ordered in
theorem blend_bounds (bounded : low.isInf = false) (part : t.isFinite = true) (nonneg : 0 ≤ value t)
    (below : value t < 1) (whole : value t = 0 → low = high) :
    low ≤ low + (high - low) * t ∧ (low + (high - low) * t ≤ high ↔ ¬Overflows low high) ∧
      (Overflows low high → low + (high - low) * t = positiveInfinity) := by
  have finite := finite_of_not_inf low ((le_iff_rank low high).mp ordered).1 bounded
  rcases gap_cases low high finite ordered with infinite | ⟨settled, gap⟩
  · have above : 0 < value t :=
      lt_of_le_of_ne nonneg fun nothing => gap_of_same low high finite (whole nothing.symm) infinite
    have wide : (high - low).isInf = true := congrArg UnpackedFloat.isInf infinite
    rw [overflow_infinite low high t finite infinite part above, infinity_le_iff low high finite ordered]
    exact ⟨le_infinity low finite, not_congr (and_iff_left wide).symm, fun _ => rfl⟩
  · obtain ⟨least, greatest⟩ := blend_between low high t finite ordered settled gap part nonneg below
    have small : ¬Overflows low high := by
      rintro ⟨_, infinite⟩
      obtain ⟨s, unpacked⟩ := infinite_of_inf _ infinite
      exact (finite_number _ gap).2 s unpacked
    exact ⟨least, iff_of_true greatest small, fun wide => absurd wide small⟩

end

end TargetEval.Binary64

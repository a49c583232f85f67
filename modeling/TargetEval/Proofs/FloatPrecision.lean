import TargetEval.Proofs.FloatResults

set_option autoImplicit false

namespace TargetEval.Binary64

open Float.Model Float.Model.UnpackedFloat

theorem representable (k : ℕ) (e : ℤ) (bits : k < 2 ^ 53) (least : -1074 ≤ e) (greatest : e ≤ 971) :
    ∃ b : Float, b.isFinite = true ∧ value b = k * 2 ^ e := by
  by_cases zero : k = 0
  · exact ⟨0.0, rfl, by rw [zero, Nat.cast_zero, zero_mul]; rfl⟩
  · have pos : 0 < k := Nat.pos_of_ne_zero zero
    have positive := Nat.mul_pos pos (Nat.two_pow_pos (e - target k e).toNat)
    have ready := scaled_ready k e pos
    have same := scaled_same k (e - target k e).toNat e
    generalize k * 2 ^ (e - target k e).toNat = m at *
    generalize e - (e - target k e).toNat = f at *
    have down := rounded_down m f positive ready k e bits least same.le
    have up := rounded_up m f positive ready k e bits least same.ge
    have magnitude := magnitude_pos k e pos
    rcases rounded_packed m f positive ready with ⟨nothing, _⟩ | ⟨r, g, nonzero, settled, kept, packed⟩
    · rw [nothing, Nat.cast_zero, zero_mul] at up
      exact absurd magnitude (not_lt.mpr up)
    · have bounded : ¬972 ≤ g := by
        intro large
        have short := short_of_bits k e g bits (by omega)
        have full := settled.full.resolve_right (by omega)
        have long : (2 : ℚ) ^ 52 * 2 ^ g ≤ r * 2 ^ g :=
          mul_le_mul_of_nonneg_right (by exact_mod_cast full) (zpow_pos two_pos g).le
        linarith
      have unpacked : (Float.ofModel (.pack (roundWithAccuracy Format.binary64 .positive m f .exact))).toModel.unpack =
          .finite .positive r g nonzero := (packed .positive).trans (if_neg bounded)
      refine ⟨_, congrArg UnpackedFloat.isFinite unpacked, ?_⟩
      rw [value, unpacked, positive_value, ← kept]
      exact le_antisymm down up

theorem full_representable (k : ℕ) (e : ℤ) (bits : k ≤ 2 ^ 53) (least : -1074 ≤ e) (greatest : e ≤ 970) :
    ∃ b : Float, b.isFinite = true ∧ value b = k * 2 ^ e := by
  rcases lt_or_eq_of_le bits with short | rfl
  · exact representable k e short least (by omega)
  · obtain ⟨b, finite, same⟩ := representable (2 ^ 52) (e + 1) (by decide) (by omega) (by omega)
    refine ⟨b, finite, ?_⟩
    rw [same, zpow_add₀ two_ne_zero]
    push_cast
    ring

theorem multiple_of_least (x : Float) : ∃ n : ℤ, value x = n * 2 ^ (-1074 : ℤ) := by
  unfold value
  cases unpacked : x.toModel.unpack with
  | finite s m e pos =>
      have least := (unpacked_canonical x s m e pos unpacked).least
      exact ⟨_, aligned s m e (-1074) least pos⟩
  | _ => exact ⟨0, by rw [Int.cast_zero, zero_mul]; rfl⟩

theorem rounded_bit (em : ExtendedMantissa) : em.roundedMantissa ≤ em.mantissa + em.roundBit.toNat := by
  obtain ⟨mantissa, round, sticky⟩ := em
  cases round <;> cases sticky <;>
    simp only [ExtendedMantissa.roundedMantissa, ExtendedMantissa.accuracy, Accuracy.roundToNearestEven,
      Bool.toNat_true, Bool.toNat_false] <;> omega

theorem half_ulp (m n : ℕ) : (shifted m n).roundedMantissa * 2 ^ (n + 1) ≤ 2 * m + 2 ^ n := by
  cases n with
  | zero =>
      change m * 2 ≤ 2 * m + 1
      omega
  | succ n =>
      have bit : (shifted m (n + 1)).roundBit.toNat = m / 2 ^ n % 2 := by
        change ((shifted m n).mantissa % 2 != 0).toNat = _
        rw [shifted_mantissa]
        rcases Nat.mod_two_eq_zero_or_one (m / 2 ^ n) with even | odd
        · rw [even]; rfl
        · rw [odd]; rfl
      have bound := rounded_bit (shifted m (n + 1))
      rw [bit, shifted_mantissa, Nat.pow_succ, ← Nat.div_div_eq_div_mul] at bound
      calc (shifted m (n + 1)).roundedMantissa * 2 ^ (n + 1 + 1)
          = (shifted m (n + 1)).roundedMantissa * 4 * 2 ^ n := by ring
        _ ≤ (2 * (m / 2 ^ n) + 2) * 2 ^ n := Nat.mul_le_mul_right _ (by omega)
        _ = 2 * (m / 2 ^ n * 2 ^ n) + 2 ^ (n + 1) := by ring
        _ ≤ 2 * m + 2 ^ (n + 1) := by have := Nat.div_mul_le_self m (2 ^ n); omega

theorem least_normal : (2 : ℚ) ^ (-1022 : ℤ) = 2 ^ 52 * 2 ^ (-1074 : ℤ) := by
  rw [← zpow_natCast, ← zpow_add₀ two_ne_zero]
  rfl

theorem rounded_close (m : ℕ) (e : ℤ) (pos : 0 < m) (ready : e ≤ target m e)
    (normal : (2 : ℚ) ^ (-1022 : ℤ) ≤ m * 2 ^ e) :
    (significand m e : ℚ) * 2 ^ target m e ≤ m * 2 ^ e * (1 + 2 ^ (-53 : ℤ)) := by
  have half : (significand m e : ℚ) * 2 ^ ((target m e - e).toNat + 1) ≤ 2 * m + 2 ^ (target m e - e).toNat := by
    exact_mod_cast half_ulp m (target m e - e).toNat
  have unit : (2 : ℚ) ^ 52 * 2 ^ target m e ≤ m * 2 ^ e := by
    by_cases lowest : target m e = -1074
    · rwa [lowest, ← least_normal]
    · have least : -1074 ≤ target m e := le_max_right _ _
      exact full_below_target m e pos (by omega)
  have scale := rescaled e (target m e) ready
  have positive : (0 : ℚ) < 2 ^ e := zpow_pos two_pos e
  rw [scale] at unit ⊢
  rw [pow_succ] at half
  have := mul_le_mul_of_nonneg_right half positive.le
  norm_num at unit ⊢
  linarith

theorem product_close (x y : Float) (finite : x.isFinite = true) (other : y.isFinite = true)
    (bounded : (x * y).isFinite = true) (normal : (2 : ℚ) ^ (-1022 : ℤ) ≤ value x * value y) :
    value (x * y) ≤ value x * value y * (1 + 2 ^ (-53 : ℤ)) := by
  have above : 0 < value x * value y := lt_of_lt_of_le (zpow_pos two_pos _) normal
  rcases product_rounded x y finite other with ⟨nothing, _⟩ | ⟨s, m, e, pos, ready, same, product⟩
  · exact absurd nothing above.ne'
  · have magnitude := magnitude_pos m e pos
    change (x * y).toModel.unpack.isFinite = true at bounded
    cases s with
    | negative =>
        rw [same, Sign.apply, Int.cast_neg, neg_mul, Int.cast_natCast] at above
        linarith
    | positive =>
        rw [Sign.apply, Int.cast_natCast] at same
        rw [same] at normal ⊢
        have close := rounded_close m e pos ready normal
        rcases rounded_packed m e pos ready with ⟨_, zero⟩ | ⟨r, g, nonzero, settled, kept, packed⟩
        · rw [value, product, zero, zero_value]
          positivity
        · rw [product, packed] at bounded
          by_cases large : 972 ≤ g
          · rw [if_pos large] at bounded
            cases bounded
          · rwa [value, product, packed, if_neg large, positive_value, ← kept]

theorem one_value : value 1.0 = 1 := by
  rw [value, one_unpacked, positive_value]
  norm_num

theorem of_nat_short (n : ℕ) (small : n < 2 ^ 53) : Float.ofNat n = n.toUInt64.toFloat * 1.0 := by
  unfold Float.ofNat
  change Float.ofScientific n false 0 = _
  unfold Float.ofScientific
  rw [dif_pos ⟨small, by decide⟩]
  rfl

theorem of_nat_long (n : ℕ) (large : ¬n < 2 ^ 53) :
    Float.ofNat n = Float.ofModel (Float.Model.ofScientific n 0) := by
  unfold Float.ofNat
  change Float.ofScientific n false 0 = _
  unfold Float.ofScientific
  rw [dif_neg fun fast => large fast.1]
  rfl

theorem rounds_of_nat (n : ℕ) : Rounds n (Float.ofNat n).toModel.unpack := by
  by_cases small : n < 2 ^ 53
  · obtain ⟨b, finite, same⟩ := representable n 0 small (by decide) (by decide)
    rw [zpow_zero, mul_one] at same
    have integer : Rounds n n.toUInt64.toFloat.toModel.unpack := by
      have rounds := rounds_normalize n 0 .positive
      rw [zpow_zero, mul_one] at rounds
      have kept : n.toUInt64.toNat = n := Nat.mod_eq_of_lt (by omega)
      change Rounds n (Float.Model.pack (UnpackedFloat.normalize Format.binary64 n.toUInt64.toNat 0 .positive)).unpack
      rw [kept]
      exact_mod_cast rounds
    obtain ⟨bounded, exactly⟩ := integer.exact b finite same
    have rounds := rounds_mul n.toUInt64.toFloat 1.0 bounded rfl
    rwa [exactly, one_value, mul_one, ← of_nat_short n small] at rounds
  · rw [of_nat_long n small]
    have positive : 0 < n := by omega
    have many : 2 ^ 52 ≤ n <<< 53 * 1 := by
      rw [Nat.shiftLeft_eq]
      omega
    have rounds := rounds_positive (n <<< 53 * 1) (-53 + 0) (by omega) (target_reached _ _ (.inl many))
    have same : ((n <<< 53 * 1 : ℕ) : ℚ) * 2 ^ (-53 + 0 : ℤ) = n := by
      rw [Nat.shiftLeft_eq, Nat.mul_one]
      exact (scaled_same n 53 0).trans (by rw [zpow_zero, mul_one])
    have product : (Float.ofModel (Float.Model.ofScientific n 0)).toModel.unpack =
        rounded .positive (n <<< 53 * 1) (-53 + 0) := by
      change (Float.Model.pack (UnpackedFloat.ofScientific Format.binary64 n 0)).unpack = _
      rw [UnpackedFloat.ofScientific, dif_neg positive.ne', if_neg (by decide), if_neg, if_pos le_rfl]
      · rfl
      · have : (0 : ℤ) ≤ 2 ^ Format.binary64.exponentBits := by positivity
        omega
    rwa [product, ← same]

theorem of_nat_between (n : ℕ) (small : n < 2 ^ 63) :
    (Float.ofNat n).isFinite = true ∧ 0 ≤ value (Float.ofNat n) ∧ value (Float.ofNat n) ≤ 2 ^ 63 := by
  obtain ⟨b, finite, same⟩ := representable 1 63 (by decide) (by decide) (by decide)
  rw [Nat.cast_one, one_mul] at same
  have below : (n : ℚ) ≤ value b := by
    rw [same]
    exact_mod_cast small.le
  have between := (rounds_of_nat n).between 0.0 b rfl finite (Nat.cast_nonneg n) below
  rwa [same] at between

theorem floor_scaled (m : ℕ) (e : ℤ) : ⌊(m : ℚ) * 2 ^ e⌋₊ = m * 2 ^ e.toNat / 2 ^ (-e).toNat := by
  rcases le_total 0 e with integer | part
  · obtain ⟨j, rfl⟩ := Int.eq_ofNat_of_zero_le integer
    rw [Int.toNat_natCast, Int.toNat_neg_natCast, Nat.pow_zero, Nat.div_one, zpow_natCast]
    exact_mod_cast Nat.floor_natCast (m * 2 ^ j)
  · obtain ⟨j, rfl⟩ := Int.exists_eq_neg_ofNat part
    have quotient : (m : ℚ) * 2 ^ (-(j : ℤ)) = m / (2 ^ j : ℕ) := by
      rw [zpow_neg, zpow_natCast, div_eq_mul_inv]
      push_cast
      rfl
    rw [quotient, Nat.floor_div_natCast, Nat.floor_natCast, neg_neg, Int.toNat_natCast, Int.toNat_neg_natCast,
      Nat.pow_zero, Nat.mul_one]

section

variable (x : Float) (finite : x.isFinite = true) (nonneg : 0 ≤ value x)

include finite nonneg

theorem floor_value (below : value x < 2 ^ 64) : x.toUInt64.toNat = ⌊value x⌋₊ := by
  have whole : (x.toModel.unpack.toInt 0 (UInt64.size - 1)).toNat = ⌊value x⌋₊ := by
    rcases nonneg_cases x finite nonneg with ⟨nothing, s, zero⟩ | ⟨m, e, pos, unpacked, same, _⟩
    · rw [nothing, zero, Nat.floor_zero]
      rfl
    · rw [unpacked, same, floor_scaled]
      change ((shifted (m <<< (e - 0).toNat) (0 - (e - (e - 0).toNat)).toNat).mantissa : ℤ).toNat = _
      rw [shifted_mantissa, Int.toNat_natCast, Nat.shiftLeft_eq, sub_zero]
      congr 2
      omega
  have small : ⌊value x⌋₊ < UInt64.size := (Nat.floor_lt nonneg).mpr (by exact_mod_cast below)
  change (UInt64.ofNatClamp (x.toModel.unpack.toInt 0 (UInt64.size - 1)).toNat).toNat = _
  rw [whole, UInt64.ofNatClamp_eq_ofNat _ small]
  exact Nat.mod_eq_of_lt small

theorem parts_representable :
    (∃ b : Float, b.isFinite = true ∧ value b = ⌊value x⌋₊) ∧
      ∃ b : Float, b.isFinite = true ∧ value b = value x - ⌊value x⌋₊ := by
  rcases nonneg_cases x finite nonneg with ⟨nothing, _⟩ | ⟨m, e, pos, unpacked, same, canonical⟩
  · rw [nothing, Nat.floor_zero, Nat.cast_zero, sub_zero]
    exact ⟨⟨0.0, rfl, rfl⟩, 0.0, rfl, rfl⟩
  · have bits := canonical.bits
    have least := canonical.least
    rcases le_total 0 e with integer | part
    · obtain ⟨j, rfl⟩ := Int.eq_ofNat_of_zero_le integer
      have whole : value x = ⌊value x⌋₊ := by
        rw [same, floor_scaled, zpow_natCast, Int.toNat_natCast, Int.toNat_neg_natCast, Nat.pow_zero, Nat.div_one]
        exact_mod_cast rfl
      exact ⟨⟨x, finite, whole⟩, 0.0, rfl, (sub_eq_zero.mpr whole).symm⟩
    · obtain ⟨j, rfl⟩ := Int.exists_eq_neg_ofNat part
      have whole : ⌊value x⌋₊ = m / 2 ^ j := by
        rw [same, floor_scaled, neg_neg, Int.toNat_natCast, Int.toNat_neg_natCast, Nat.pow_zero, Nat.mul_one]
      obtain ⟨a, bounded, floor⟩ := representable (m / 2 ^ j) 0 (lt_of_le_of_lt (Nat.div_le_self _ _) bits) (by decide)
        (by decide)
      obtain ⟨b, settled, rest⟩ := representable (m % 2 ^ j) (-j) (lt_of_le_of_lt (Nat.mod_le _ _) bits) least
        (by omega)
      refine ⟨⟨a, bounded, by rw [floor, whole, zpow_zero, mul_one]⟩, b, settled, ?_⟩
      have split : (m : ℚ) = 2 ^ j * (m / 2 ^ j : ℕ) + (m % 2 ^ j : ℕ) := by
        exact_mod_cast (Nat.div_add_mod m (2 ^ j)).symm
      rw [rest, whole, same, zpow_neg, zpow_natCast]
      field_simp
      linarith

theorem whole_value : (Float.ofNat ⌊value x⌋₊).isFinite = true ∧ value (Float.ofNat ⌊value x⌋₊) = ⌊value x⌋₊ := by
  obtain ⟨⟨b, bounded, same⟩, _⟩ := parts_representable x finite nonneg
  exact (rounds_of_nat _).exact b bounded same

theorem part_value :
    (x - Float.ofNat ⌊value x⌋₊).isFinite = true ∧
      value (x - Float.ofNat ⌊value x⌋₊) = value x - ⌊value x⌋₊ := by
  obtain ⟨whole, exactly⟩ := whole_value x finite nonneg
  obtain ⟨_, b, bounded, same⟩ := parts_representable x finite nonneg
  have rounds := rounds_sub x _ finite whole
  rw [exactly] at rounds
  exact rounds.exact b bounded same

end

end TargetEval.Binary64

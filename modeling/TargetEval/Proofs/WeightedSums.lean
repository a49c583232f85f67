import TargetEval.Proofs.FloatRounding

set_option autoImplicit false

namespace TargetEval.Binary64

open Float.Model Float.Model.UnpackedFloat

theorem one_unpacked : (1.0 : Float).toModel.unpack = .finite .positive (2 ^ 52) (-52) (by decide) := rfl

section

variable (x y : Float)

theorem mul_unpacked :
    (x * y).toModel.unpack =
      (Float.Model.pack (UnpackedFloat.mul Format.binary64 x.toModel.unpack y.toModel.unpack)).unpack := rfl

theorem add_unpacked :
    (x + y).toModel.unpack =
      (Float.Model.pack (UnpackedFloat.add Format.binary64 x.toModel.unpack y.toModel.unpack)).unpack := rfl

theorem sub_unpacked :
    (x - y).toModel.unpack =
      (Float.Model.pack (UnpackedFloat.sub Format.binary64 x.toModel.unpack y.toModel.unpack)).unpack := rfl

end

structure Fraction (x : Float) (m : ℕ) (e : ℤ) (pos : 0 < m) : Prop where
  unpacked : x.toModel.unpack = .finite .positive m e pos
  least : -1074 ≤ e
  below : e < -52 ∨ e = -52 ∧ m ≤ 2 ^ 52

theorem fraction_between (w : Float) (positive : 0.0 < w) (atMost : w ≤ 1.0) : ∃ m e pos, Fraction w m e pos := by
  have above : (UnpackedFloat.zero .positive).lt w.toModel.unpack = true := of_decide_eq_true positive
  have under : w.toModel.unpack.le (.finite .positive (2 ^ 52) (-52) (by decide)) = true := of_decide_eq_true atMost
  cases unpacked : w.toModel.unpack with
  | notANumber => rw [unpacked] at above; cases above
  | zero s => rw [unpacked] at above; cases above
  | infinity s =>
      rw [unpacked] at above under
      cases s with
      | negative => cases above
      | positive => cases under
  | finite s m e pos =>
      rw [unpacked] at above under
      cases s with
      | negative => cases above
      | positive =>
          refine ⟨m, e, pos, unpacked, (unpacked_canonical w _ m e pos unpacked).least, ?_⟩
          change ((compare e (-52)).then (compare m (2 ^ 52))).isLE = true at under
          rw [Ordering.isLE_then_iff_or, Int.compare_eq_lt, Int.compare_eq_eq, Nat.isLE_compare] at under
          exact under

theorem pack_infinity (s : Sign) : (Float.Model.pack (.infinity s)).unpack = .infinity s := by
  cases s <;> rfl

theorem pack_zero (s : Sign) : (Float.Model.pack (.zero s)).unpack = .zero s := by
  cases s <;> rfl

theorem positive_mul (s : Sign) : Sign.positive * s = s := by
  cases s <;> rfl

theorem target_reached (m : ℕ) (e : ℤ) (enough : 2 ^ 52 ≤ m ∨ e ≤ -1074) : e ≤ target m e := by
  unfold target
  rcases enough with full | low
  · have log : 52 ≤ m.log2 := (Nat.le_log2 (by omega)).mpr full
    omega
  · omega

theorem product_ready (m n : ℕ) (e f : ℤ) (first : Canonical m e) (second : Canonical n f) (pos : 0 < m)
    (positive : 0 < n) : e + f ≤ target (m * n) (e + f) := by
  refine target_reached _ _ ?_
  rcases first.full with full | least
  · exact .inl (le_trans full (Nat.le_mul_of_pos_right m positive))
  · rcases second.full with full | _
    · exact .inl (le_trans full (Nat.le_mul_of_pos_left n pos))
    · exact .inr (by omega)

section

variable (a : Float) (m : ℕ) (e : ℤ) (pos : 0 < m) (fraction : Fraction a m e pos) (v : Float)

include fraction

theorem fraction_mul_infinity (s : Sign) (infinite : v.toModel.unpack = .infinity s) :
    (a * v).toModel.unpack = .infinity s := by
  rw [mul_unpacked, fraction.unpacked, infinite, UnpackedFloat.mul, positive_mul, pack_infinity]

theorem fraction_mul_finite (finite : v.toModel.unpack.isFinite = true) : (a * v).toModel.unpack.isFinite = true := by
  rw [mul_unpacked, fraction.unpacked]
  cases unpacked : v.toModel.unpack with
  | notANumber => rw [unpacked] at finite; cases finite
  | infinity s => rw [unpacked] at finite; cases finite
  | zero s => rw [UnpackedFloat.mul, positive_mul, pack_zero]; rfl
  | finite s n f positive =>
      have factor := unpacked_canonical a _ m e pos fraction.unpacked
      have other := unpacked_canonical v s n f positive unpacked
      have atMost : m ≤ 2 ^ (-e).toNat := by
        rcases fraction.below with low | ⟨rfl, bound⟩
        · exact le_trans factor.bits.le (Nat.pow_le_pow_right (by decide) (by omega))
        · exact bound
      have bound : m * n ≤ n * 2 ^ (f - (e + f)).toNat := by
        rw [show f - (e + f) = -e by omega, Nat.mul_comm]
        exact Nat.mul_le_mul_left n atMost
      have below := fraction.below
      rw [UnpackedFloat.mul, positive_mul]
      have within := round_within s (m * n) (e + f) n f (Nat.mul_pos pos positive)
        (product_ready m n e f factor other pos positive) (by omega) other.bits other.least other.greatest bound
      rcases within with ⟨zero, _⟩ | ⟨r, g, nonzero, rounded, canonical, _⟩
      · rw [zero, pack_zero]
        rfl
      · rw [rounded, unpack_pack_canonical s r g nonzero canonical]
        rfl

end

theorem infinite_or_finite (u : UnpackedFloat) (number : u.isNaN = false) :
    (∃ s, u = .infinity s) ∨ u.isFinite = true := by
  cases u with
  | notANumber => cases number
  | infinity s => exact .inl ⟨s, rfl⟩
  | zero s => exact .inr rfl
  | finite s m e pos => exact .inr rfl

theorem finite_number (u : UnpackedFloat) (finite : u.isFinite = true) :
    u.isNaN = false ∧ ∀ s, u ≠ .infinity s := by
  cases u with
  | notANumber => cases finite
  | infinity s => cases finite
  | zero s => exact ⟨rfl, nofun⟩
  | finite s m e pos => exact ⟨rfl, nofun⟩

theorem fraction_mul (a : Float) (m : ℕ) (e : ℤ) (pos : 0 < m) (fraction : Fraction a m e pos) (v : Float)
    (number : v.toModel.unpack.isNaN = false) :
    (a * v).toModel.unpack.isNaN = false ∧
      ∀ s, (a * v).toModel.unpack = .infinity s ↔ v.toModel.unpack = .infinity s := by
  rcases infinite_or_finite _ number with ⟨t, infinite⟩ | finite
  · rw [fraction_mul_infinity a m e pos fraction v t infinite, infinite]
    exact ⟨rfl, fun s => Iff.rfl⟩
  · obtain ⟨product, bounded⟩ := finite_number _ (fraction_mul_finite a m e pos fraction v finite)
    exact ⟨product, fun s => iff_of_false (bounded s) ((finite_number _ finite).2 s)⟩

theorem rounded_number (s : Sign) (m : ℕ) (e : ℤ) (accuracy : Accuracy) :
    (roundWithAccuracy Format.binary64 s m e accuracy).isNaN = false := by
  unfold roundWithAccuracy
  dsimp only
  split <;> rfl

theorem normalized_number (m e : ℤ) (s : Sign) : (UnpackedFloat.normalize Format.binary64 m e s).isNaN = false := by
  unfold UnpackedFloat.normalize
  split
  · exact rounded_number ..
  · rfl
  · exact rounded_number ..

theorem add_nan (u v : UnpackedFloat) (number : u.isNaN = false) (other : v.isNaN = false) :
    (UnpackedFloat.add Format.binary64 u v).isNaN = true ↔ ∃ s, u = .infinity s ∧ v = .infinity (-s) := by
  cases u with
  | notANumber => cases number
  | infinity s =>
      cases v with
      | notANumber => cases other
      | infinity t =>
          constructor
          · intro nan
            refine ⟨s, rfl, ?_⟩
            cases s <;> cases t <;> first | rfl | cases nan
          · rintro ⟨r, first, second⟩
            cases first
            cases second
            cases s <;> rfl
      | zero t => exact iff_of_false nofun nofun
      | finite t n f positive => exact iff_of_false nofun nofun
  | zero s =>
      cases v with
      | notANumber => cases other
      | infinity t => exact iff_of_false nofun nofun
      | zero t => cases s <;> cases t <;> exact iff_of_false nofun nofun
      | finite t n f positive => exact iff_of_false nofun nofun
  | finite s m e pos =>
      cases v with
      | notANumber => cases other
      | infinity t => exact iff_of_false nofun nofun
      | zero t => exact iff_of_false nofun nofun
      | finite t n f positive =>
          refine iff_of_false ?_ nofun
          rw [UnpackedFloat.add, normalized_number]
          exact Bool.false_ne_true

theorem round_ready (s : Sign) (m : ℕ) (e : ℤ) :
    UnpackedFloat.round Format.binary64 s m e =
      roundWithAccuracy Format.binary64 s (m * 2 ^ (e - target m e).toNat) (e - (e - target m e).toNat) .exact := by
  rw [UnpackedFloat.round, target_exponent]
  change roundWithAccuracy _ _ (m <<< _) _ _ = _
  rw [Nat.shiftLeft_eq]
  rfl

theorem target_scaled (m j : ℕ) (e : ℤ) (pos : 0 < m) : target (m * 2 ^ j) (e - j) = target m e := by
  have log : (m * 2 ^ j).log2 = m.log2 + j := by
    refine (Nat.log2_eq_iff (Nat.mul_pos pos (Nat.two_pow_pos j)).ne').mpr ⟨?_, ?_⟩
    · rw [Nat.pow_add]
      exact Nat.mul_le_mul_right _ (Nat.log2_self_le pos.ne')
    · rw [Nat.add_right_comm, Nat.pow_add]
      exact Nat.mul_lt_mul_of_pos_right Nat.lt_log2_self (Nat.two_pow_pos j)
  unfold target
  omega

theorem round_at_most_one (d : ℕ) (e : ℤ) (pos : 0 < d) (least : -1074 ≤ e) (below : e ≤ -52)
    (bound : d ≤ 2 ^ 52 * 2 ^ (-52 - e).toNat) :
    ∃ r g positive, UnpackedFloat.round Format.binary64 .positive d e = .finite .positive r g positive ∧ Canonical r g ∧
      (g < -52 ∨ g = -52 ∧ r ≤ 2 ^ 52) := by
  have lowest : -1074 ≤ target d e := le_max_right _ _
  have same := target_scaled d (e - target d e).toNat e pos
  have scaled : d * 2 ^ (e - target d e).toNat ≤ 2 ^ 52 * 2 ^ (-52 - (e - (e - target d e).toNat)).toNat := by
    rw [show (-52 - (e - ((e - target d e).toNat : ℤ))).toNat = (-52 - e).toNat + (e - target d e).toNat by omega,
      Nat.pow_add, ← Nat.mul_assoc]
    exact Nat.mul_le_mul_right _ bound
  rw [round_ready]
  rcases round_within .positive _ _ (2 ^ 52) (-52) (Nat.mul_pos pos (Nat.two_pow_pos _)) (by omega) (by omega)
    (by decide) (by decide) (by decide) scaled with ⟨_, lower⟩ | found
  · omega
  · exact found

theorem normalize_positive (n : ℤ) (e : ℤ) (s : Sign) (pos : 0 < n) :
    UnpackedFloat.normalize Format.binary64 n e s = UnpackedFloat.round Format.binary64 .positive n.toNat e := by
  unfold UnpackedFloat.normalize
  rw [Int.compare_eq_gt.mpr pos]

theorem one_minus (w : Float) (m : ℕ) (e : ℤ) (pos : 0 < m) (fraction : Fraction w m e pos) :
    (1.0 - w).toModel.unpack = (Float.Model.pack
      (UnpackedFloat.normalize Format.binary64 (((2 ^ 52 * 2 ^ (-52 - e).toNat : ℕ) : ℤ) - m) e .positive)).unpack := by
  have least : min (-52) e = e := min_eq_right (by have := fraction.below; omega)
  rw [sub_unpacked, fraction.unpacked, one_unpacked]
  simp only [UnpackedFloat.sub, decreaseExponent, Sign.apply, least, Int.sub_self, Int.toNat_zero, Nat.shiftLeft_eq,
    Nat.pow_zero, Nat.mul_one]

theorem rest_of_one (w : Float) (m : ℕ) (e : ℤ) (pos : 0 < m) (fraction : Fraction w m e pos) :
    (w == 1.0) = true ∧ (1.0 - w).toModel.unpack = .zero .positive ∨
      (w == 1.0) = false ∧ ∃ r g positive, Fraction (1.0 - w) r g positive := by
  have rest := one_minus w m e pos fraction
  obtain ⟨unpacked, least, below⟩ := fraction
  have bits := (unpacked_canonical w _ m e pos unpacked).bits
  have equal : (w == 1.0) = true ↔ e = -52 ∧ m = 2 ^ 52 := by
    change w.toModel.unpack.beq (1.0 : Float).toModel.unpack = true ↔ _
    rw [unpacked, one_unpacked, beq_iff_ne_notANumber_and_eq]
    simp [and_comm]
  by_cases whole : e = -52 ∧ m = 2 ^ 52
  · refine .inl ⟨equal.mpr whole, ?_⟩
    obtain ⟨rfl, rfl⟩ := whole
    rw [rest]
    exact pack_zero .positive
  · refine .inr ⟨Bool.eq_false_iff.mpr (mt equal.mp whole), ?_⟩
    have short : m < 2 ^ 52 * 2 ^ (-52 - e).toNat := by
      rcases below with low | ⟨rfl, bound⟩
      · refine lt_of_lt_of_le bits ?_
        rw [← Nat.pow_add]
        exact Nat.pow_le_pow_right (by decide) (by omega)
      · exact lt_of_le_of_ne bound fun same => whole ⟨rfl, same⟩
    have left : (((2 ^ 52 * 2 ^ (-52 - e).toNat : ℕ) : ℤ) - m).toNat = 2 ^ 52 * 2 ^ (-52 - e).toNat - m := by omega
    rw [normalize_positive _ _ _ (by omega), left] at rest
    obtain ⟨r, g, positive, rounded, canonical, bound⟩ :=
      round_at_most_one _ e (Nat.sub_pos_of_lt short) least (by omega) (Nat.sub_le _ m)
    rw [rounded, unpack_pack_canonical _ r g positive canonical] at rest
    exact ⟨r, g, positive, rest, canonical.least, bound⟩

theorem equals_negated (v mean : Float) (s : Sign) (infinite : mean.toModel.unpack = .infinity s) :
    (v == -mean) = true ↔ v.toModel.unpack = .infinity (-s) := by
  have negated : (-mean).toModel.unpack = .infinity (-s) := by
    change (Float.Model.pack mean.toModel.unpack.neg).unpack = _
    rw [infinite, UnpackedFloat.neg, pack_infinity]
  change v.toModel.unpack.beq (-mean).toModel.unpack = true ↔ _
  rw [negated, beq_iff_ne_notANumber_and_eq]
  simp +contextual

theorem sum_nan (x y : Float) (number : x.toModel.unpack.isNaN = false) (other : y.toModel.unpack.isNaN = false) :
    (x + y).isNaN = true ↔ ∃ s, x.toModel.unpack = .infinity s ∧ y.toModel.unpack = .infinity (-s) := by
  change (x + y).toModel.unpack.isNaN = true ↔ _
  rw [add_unpacked, pack_nan, add_nan _ _ number other]

theorem nothing_of (x mean : Float) (nothing : x.toModel.unpack = .zero .positive) :
    (∀ s, mean.toModel.unpack = .infinity s → (x * mean).toModel.unpack = .notANumber) ∧
      (mean.toModel.unpack.isFinite = true → (x * mean).toModel.unpack.isFinite = true) := by
  rw [mul_unpacked, nothing]
  constructor
  · intro s infinite
    rw [infinite, UnpackedFloat.mul]
    rfl
  · intro finite
    cases unpacked : mean.toModel.unpack with
    | notANumber => rw [unpacked] at finite; cases finite
    | infinity s => rw [unpacked] at finite; cases finite
    | zero s => rw [UnpackedFloat.mul, pack_zero]; rfl
    | finite s m e pos => rw [UnpackedFloat.mul, pack_zero]; rfl

theorem finite_sum (x y : Float) (number : x.toModel.unpack.isNaN = false) (finite : y.toModel.unpack.isFinite = true) :
    (x + y).isNaN = false := by
  obtain ⟨other, bounded⟩ := finite_number _ finite
  refine Bool.eq_false_iff.mpr fun nan => ?_
  obtain ⟨s, _, infinite⟩ := (sum_nan x y number other).mp nan
  exact bounded _ infinite

theorem weighted_nan (w v mean : Float) (positive : 0.0 < w) (atMost : w ≤ 1.0) (number : v.isNaN = false)
    (other : mean.isNaN = false) :
    (w * v + (1.0 - w) * mean).isNaN = (mean.isInf && (w == 1.0 || v == -mean)) := by
  obtain ⟨m, e, pos, fraction⟩ := fraction_between w positive atMost
  obtain ⟨share, infinite⟩ := fraction_mul w m e pos fraction v number
  have rest := rest_of_one w m e pos fraction
  rcases infinite_or_finite _ other with ⟨s, unbounded⟩ | finite
  · have isInf : mean.isInf = true := by
      change mean.toModel.unpack.isInf = true
      rw [unbounded]
      rfl
    rw [isInf, Bool.true_and]
    rcases rest with ⟨whole, nothing⟩ | ⟨part, r, g, left, fraction⟩
    · -- Without any weight the infinity is multiplied by zero.
      rw [whole, Bool.true_or]
      change (w * v + (1.0 - w) * mean).toModel.unpack.isNaN = true
      rw [add_unpacked, pack_nan, (nothing_of _ mean nothing).1 s unbounded]
      cases (w * v).toModel.unpack <;> rfl
    · -- With some weight it stays infinite, and only its opposite cancels it.
      have kept := fraction_mul_infinity _ r g left fraction mean s unbounded
      rw [part, Bool.false_or, Bool.eq_iff_iff, equals_negated v mean s unbounded,
        sum_nan _ _ share (fraction_mul _ r g left fraction mean other).1, kept, ← infinite]
      constructor
      · rintro ⟨t, first, second⟩
        rw [first]
        cases s <;> cases t <;> first | rfl | cases second
      · intro opposite
        exact ⟨-s, opposite, by cases s <;> rfl⟩
  · have isInf : mean.isInf = false := by
      change mean.toModel.unpack.isInf = false
      cases unpacked : mean.toModel.unpack with
      | infinity s => exact absurd unpacked ((finite_number _ finite).2 s)
      | _ => rfl
    rw [isInf, Bool.false_and]
    refine finite_sum _ _ share ?_
    rcases rest with ⟨_, nothing⟩ | ⟨_, r, g, left, fraction⟩
    · exact (nothing_of _ mean nothing).2 finite
    · exact fraction_mul_finite _ r g left fraction mean finite

end TargetEval.Binary64

import TargetEval.Proofs.FloatValues

set_option autoImplicit false

namespace TargetEval.Binary64

open Float.Model Float.Model.UnpackedFloat

section

variable (m : ℕ) (e : ℤ) (pos : 0 < m) (ready : e ≤ target m e) (k : ℕ) (f : ℤ) (bits : k < 2 ^ 53)
  (least : -1074 ≤ f)

include pos in
theorem full_below_target (above : -1074 < target m e) : (2 : ℚ) ^ 52 * 2 ^ target m e ≤ m * 2 ^ e := by
  have log : (m.log2 : ℤ) + e - 52 = target m e := by
    unfold target at above ⊢
    omega
  rw [← log, ← zpow_natCast, ← zpow_add₀ two_ne_zero,
    show ((52 : ℕ) : ℤ) + (m.log2 + e - 52) = m.log2 + e by push_cast; ring, zpow_add₀ two_ne_zero, zpow_natCast]
  exact mul_le_mul_of_nonneg_right (by exact_mod_cast Nat.log2_self_le pos.ne') (zpow_pos two_pos e).le

include pos ready bits least

theorem rounded_down (bound : (m : ℚ) * 2 ^ e ≤ k * 2 ^ f) :
    (significand m e : ℚ) * 2 ^ target m e ≤ k * 2 ^ f := by
  have reach : target m e ≤ f := by
    by_contra less
    have full := full_below_target m e pos (by omega)
    have short := short_of_bits k f (target m e) bits (by omega)
    linarith
  rw [scaled_le _ _ _ _ reach]
  rw [scaled_le _ _ _ _ (by omega)] at bound
  refine rounded_le m _ _ (le_trans bound (le_of_eq ?_))
  rw [Nat.mul_assoc, ← Nat.pow_add]
  congr 2
  omega

theorem rounded_up (bound : (k : ℚ) * 2 ^ f ≤ m * 2 ^ e) :
    (k : ℚ) * 2 ^ f ≤ significand m e * 2 ^ target m e := by
  by_cases less : f < target m e
  · have full := (significand_full m e pos ready).resolve_right (by omega)
    refine le_trans (short_of_bits k f _ bits less).le ?_
    exact mul_le_mul_of_nonneg_right (by exact_mod_cast full) (zpow_pos two_pos _).le
  · rw [scaled_ge _ _ _ _ (by omega)]
    rw [scaled_ge _ _ _ _ (by omega)] at bound
    refine le_trans ((Nat.le_div_iff_mul_le (Nat.two_pow_pos _)).mpr ?_) (rounded_bounds m _).1
    refine le_trans (le_of_eq ?_) bound
    rw [Nat.mul_assoc, ← Nat.pow_add]
    congr 2
    omega

end

def rounded (s : Sign) (m : ℕ) (e : ℤ) : UnpackedFloat :=
  (Float.Model.pack (roundWithAccuracy Format.binary64 s m e .exact)).unpack

theorem rounded_packed (m : ℕ) (e : ℤ) (pos : 0 < m) (ready : e ≤ target m e) :
    significand m e = 0 ∧ (∀ s, rounded s m e = .zero s) ∨
      ∃ r g nonzero, Normalized r g ∧ (significand m e : ℚ) * 2 ^ target m e = r * 2 ^ g ∧
        ∀ s, rounded s m e = if 972 ≤ g then .infinity s else .finite s r g nonzero := by
  have lowest : -1074 ≤ target m e := le_max_right _ _
  have bound := significand_le m e
  have result (s : Sign) : rounded s m e = _ :=
    congrArg (fun u => (Float.Model.pack u).unpack) (round_result s m e ready)
  by_cases zero : significand m e = 0
  · refine .inl ⟨zero, fun s => ?_⟩
    rw [result, dif_pos zero, pack_zero]
  · by_cases small : significand m e < 2 ^ 53
    · have settled : Normalized (significand m e) (target m e) := ⟨small, lowest, significand_full m e pos ready⟩
      refine .inr ⟨_, _, Nat.pos_of_ne_zero zero, settled, rfl, fun s => ?_⟩
      rw [result, dif_neg zero, if_pos small, settled.packed]
    · have settled : Normalized (2 ^ 52) (target m e + 1) := ⟨by decide, by omega, .inl le_rfl⟩
      have full : significand m e = 2 ^ 53 := by omega
      refine .inr ⟨_, _, by decide, settled, ?_, fun s => ?_⟩
      · rw [full, zpow_add₀ two_ne_zero]
        push_cast
        ring
      · rw [result, dif_neg zero, if_neg small, settled.packed]

theorem rounded_neg (s : Sign) (m : ℕ) (e : ℤ) (pos : 0 < m) (ready : e ≤ target m e) :
    rounded (-s) m e = (rounded s m e).neg := by
  rcases rounded_packed m e pos ready with ⟨_, zero⟩ | ⟨r, g, nonzero, _, _, packed⟩
  · rw [zero, zero, UnpackedFloat.neg]
  · rw [packed, packed]
    split <;> rfl

structure Rounds (q : ℚ) (u : UnpackedFloat) : Prop where
  number : u.isNaN = false
  atMost : ∀ b : Float, b.isFinite = true → q ≤ value b → rankOf u ≤ rank b
  atLeast : ∀ b : Float, b.isFinite = true → value b ≤ q → rank b ≤ rankOf u

section

variable (m : ℕ) (e : ℤ) (pos : 0 < m) (ready : e ≤ target m e)

include pos ready

theorem rounded_rank_nonneg : rankAt 0 0 0 ≤ rankOf (rounded .positive m e) := by
  rcases rounded_packed m e pos ready with ⟨_, zero⟩ | ⟨r, g, nonzero, _, _, packed⟩
  · rw [zero, rankOf]
  · rw [packed]
    split <;> rw [rankOf, rank_at_le] <;> exact .inl (by decide)

section

variable (k : ℕ) (f : ℤ) (canonical : Canonical k f)

include canonical

theorem rounded_rank_le (bound : (m : ℚ) * 2 ^ e ≤ k * 2 ^ f) : rankOf (rounded .positive m e) ≤ rankAt 1 f k := by
  have kept := rounded_down m e pos ready k f canonical.bits canonical.least bound
  rcases rounded_packed m e pos ready with ⟨_, zero⟩ | ⟨r, g, nonzero, settled, same, packed⟩
  · rw [zero, rankOf, rank_at_le]
    exact .inl (by decide)
  · have ordered := (normalized_le settled canonical.normalized).mp (same ▸ kept)
    have greatest := canonical.greatest
    rw [packed, if_neg (by omega), rankOf, rank_at_le]
    omega

theorem rounded_rank_ge (positive : 0 < k) (bound : (k : ℚ) * 2 ^ f ≤ m * 2 ^ e) :
    rankAt 1 f k ≤ rankOf (rounded .positive m e) := by
  have kept := rounded_up m e pos ready k f canonical.bits canonical.least bound
  rcases rounded_packed m e pos ready with ⟨zero, _⟩ | ⟨r, g, nonzero, settled, same, packed⟩
  · have magnitude := magnitude_pos k f positive
    rw [zero, Nat.cast_zero, zero_mul] at kept
    linarith
  · have ordered := (normalized_le canonical.normalized settled).mp (same ▸ kept)
    rw [packed]
    split
    · rw [rankOf, rank_at_le]
      exact .inl (by decide)
    · rw [rankOf, rank_at_le]
      omega

end

theorem rounds_positive : Rounds (m * 2 ^ e) (rounded .positive m e) := by
  constructor
  · rw [rounded, pack_nan, rounded_number]
  · intro b finite bound
    have above := lt_of_lt_of_le (magnitude_pos m e pos) bound
    obtain ⟨k, f, _, unpacked, same, canonical⟩ := positive_finite b finite above
    rw [same] at bound
    rw [rank, unpacked]
    exact rounded_rank_le m e pos ready k f canonical bound
  · intro b finite bound
    by_cases above : 0 < value b
    · obtain ⟨k, f, positive, unpacked, same, canonical⟩ := positive_finite b finite above
      rw [same] at bound
      rw [rank, unpacked]
      exact rounded_rank_ge m e pos ready k f canonical positive bound
    · exact le_trans ((rank_le_iff b 0.0 finite rfl).mpr (not_lt.mp above)) (rounded_rank_nonneg m e pos ready)

end

theorem Rounds.neg {q : ℚ} {u : UnpackedFloat} (rounds : Rounds q u) : Rounds (-q) u.neg := by
  have opposite (b : Float) : value (-b) = -value b := by rw [value, negated, neg_value, value]
  constructor
  · rw [← rounds.number]
    cases u <;> rfl
  · intro b finite bound
    have turned := rounds.atLeast (-b) (negated_finite b finite) (by rw [opposite]; exact neg_le.mp bound)
    rwa [rank, negated, ← neg_rank_le, neg_twice] at turned
  · intro b finite bound
    have turned := rounds.atMost (-b) (negated_finite b finite) (by rw [opposite]; exact le_neg.mp bound)
    rwa [rank, negated, ← neg_rank_le, neg_twice] at turned

theorem rounds_signed (s : Sign) (m : ℕ) (e : ℤ) (pos : 0 < m) (ready : e ≤ target m e) :
    Rounds (s.apply m * 2 ^ e) (rounded s m e) := by
  have positive := rounds_positive m e pos ready
  cases s with
  | positive => exact positive
  | negative =>
      have turned := positive.neg
      rw [← rounded_neg _ m e pos ready, ← neg_mul] at turned
      exact_mod_cast turned

theorem rounds_self (x : Float) (finite : x.isFinite = true) : Rounds (value x) x.toModel.unpack :=
  ⟨(finite_number _ finite).1, fun b other bound => (rank_le_iff x b finite other).mpr bound,
    fun b other bound => (rank_le_iff b x other finite).mpr bound⟩

theorem rounds_zero (s : Sign) : Rounds 0 (.zero s) :=
  have zero := rounds_self 0.0 rfl
  ⟨rfl, zero.atMost, zero.atLeast⟩

theorem scaled_same (m j : ℕ) (e : ℤ) : ((m * 2 ^ j : ℕ) : ℚ) * 2 ^ (e - j) = m * 2 ^ e := by
  rw [zpow_sub₀ two_ne_zero, zpow_natCast]
  push_cast
  field_simp

theorem scaled_ready (m : ℕ) (e : ℤ) (pos : 0 < m) :
    e - (e - target m e).toNat ≤ target (m * 2 ^ (e - target m e).toNat) (e - (e - target m e).toNat) := by
  rw [target_scaled m _ e pos]
  omega

theorem rounds_round (s : Sign) (m : ℕ) (e : ℤ) (pos : 0 < m) :
    Rounds (s.apply m * 2 ^ e) (Float.Model.pack (UnpackedFloat.round Format.binary64 s m e)).unpack := by
  have rounds := rounds_signed s _ _ (Nat.mul_pos pos (Nat.two_pow_pos _)) (scaled_ready m e pos)
  have same := scaled_same m (e - target m e).toNat e
  rw [round_ready]
  change Rounds _ (rounded s _ _)
  cases s with
  | positive => exact same ▸ rounds
  | negative =>
      simp only [Sign.apply, Int.cast_neg, neg_mul, Int.cast_natCast] at rounds ⊢
      rwa [same] at rounds

theorem rounds_normalize (n e : ℤ) (s : Sign) :
    Rounds (n * 2 ^ e) (Float.Model.pack (UnpackedFloat.normalize Format.binary64 n e s)).unpack := by
  unfold UnpackedFloat.normalize
  rcases lt_trichotomy n 0 with negative | rfl | positive
  · have rounds := rounds_round .negative (-n).toNat e (by omega)
    rw [Int.compare_eq_lt.mpr negative]
    rwa [Sign.apply, Int.toNat_of_nonneg (by omega), neg_neg] at rounds
  · rw [Int.cast_zero, zero_mul]
    change Rounds 0 (Float.Model.pack (.zero s)).unpack
    rw [pack_zero]
    exact rounds_zero s
  · have rounds := rounds_round .positive n.toNat e (by omega)
    rw [Int.compare_eq_gt.mpr positive]
    rwa [Sign.apply, Int.toNat_of_nonneg positive.le] at rounds

theorem aligned (s : Sign) (m : ℕ) (e g : ℤ) (below : g ≤ e) (pos : 0 < m) :
    valueOf (.finite s m e pos) = s.apply (m <<< (e - g).toNat : ℕ) * 2 ^ g := by
  rw [valueOf, rescaled g e below, Nat.shiftLeft_eq]
  cases s <;> simp only [Sign.apply] <;> push_cast <;> ring

theorem sub_adds_neg (u v : UnpackedFloat) :
    UnpackedFloat.sub Format.binary64 u v = UnpackedFloat.add Format.binary64 u v.neg := by
  cases u with
  | notANumber => cases v <;> rfl
  | infinity s => cases v <;> rfl
  | zero s => cases v <;> rfl
  | finite s m e pos =>
      cases v with
      | finite t n f positive =>
          cases t with
          | negative =>
              exact congrArg (UnpackedFloat.normalize Format.binary64 · (min e f) .positive) (sub_neg_eq_add _ _)
          | positive => rfl
      | _ => rfl

section

variable (x y : Float) (finite : x.isFinite = true) (other : y.isFinite = true)

include finite other

theorem rounds_add : Rounds (value x + value y) (x + y).toModel.unpack := by
  rw [add_unpacked]
  rcases finite_cases x finite with ⟨s, zero⟩ | ⟨s, m, e, pos, unpacked, first⟩
  · rcases finite_cases y other with ⟨t, nothing⟩ | ⟨t, n, f, positive, found, second⟩
    · rw [value, value, zero, nothing, zero_value, zero_value, add_zero, UnpackedFloat.add]
      split <;> rw [pack_zero] <;> exact rounds_zero _
    · rw [value, zero, zero_value, zero_add, found]
      change Rounds _ (Float.Model.pack (.finite t n f positive)).unpack
      rw [unpack_pack_canonical t n f positive second, ← found]
      exact rounds_self y other
  · rcases finite_cases y other with ⟨t, nothing⟩ | ⟨t, n, f, positive, found, second⟩
    · rw [value, value, nothing, zero_value, add_zero, unpacked]
      change Rounds _ (Float.Model.pack (.finite s m e pos)).unpack
      rw [unpack_pack_canonical s m e pos first, ← unpacked]
      exact rounds_self x finite
    · rw [value, value, unpacked, found, aligned s m e (min e f) (min_le_left e f),
        aligned t n f (min e f) (min_le_right e f), ← add_mul]
      exact_mod_cast rounds_normalize _ _ _

theorem rounds_sub : Rounds (value x - value y) (x - y).toModel.unpack := by
  have same : (x - y).toModel.unpack = (x + -y).toModel.unpack := by
    rw [sub_unpacked, add_unpacked, negated, sub_adds_neg]
  rw [same, sub_eq_add_neg, value, value, ← neg_value, ← negated]
  exact rounds_add x (-y) finite (negated_finite y other)

theorem product_rounded :
    (value x * value y = 0 ∧ ∃ s, (x * y).toModel.unpack = .zero s) ∨
      ∃ s m e, 0 < m ∧ e ≤ target m e ∧ value x * value y = s.apply m * 2 ^ e ∧
        (x * y).toModel.unpack = rounded s m e := by
  rw [mul_unpacked]
  rcases finite_cases x finite with ⟨s, zero⟩ | ⟨s, m, e, pos, unpacked, first⟩
  · have nothing : value x = 0 := by rw [value, zero, zero_value]
    rw [nothing, zero_mul]
    rcases finite_cases y other with ⟨t, nothing⟩ | ⟨t, n, f, positive, found, second⟩
    · exact .inl ⟨rfl, s * t, by rw [zero, nothing, UnpackedFloat.mul, pack_zero]⟩
    · exact .inl ⟨rfl, s * t, by rw [zero, found, UnpackedFloat.mul, pack_zero]⟩
  · rcases finite_cases y other with ⟨t, nothing⟩ | ⟨t, n, f, positive, found, second⟩
    · have zero : value y = 0 := by rw [value, nothing, zero_value]
      exact .inl ⟨by rw [zero, mul_zero], s * t, by rw [unpacked, nothing, UnpackedFloat.mul, pack_zero]⟩
    · refine .inr ⟨s * t, m * n, e + f, Nat.mul_pos pos positive, product_ready m n e f first second pos positive, ?_,
        by rw [unpacked, found]; rfl⟩
      rw [value, value, unpacked, found, valueOf, valueOf, zpow_add₀ two_ne_zero]
      cases s <;> cases t <;> simp only [Sign.apply] <;> push_cast <;> ring

theorem rounds_mul : Rounds (value x * value y) (x * y).toModel.unpack := by
  rcases product_rounded x y finite other with ⟨nothing, s, zero⟩ | ⟨s, m, e, pos, ready, same, product⟩
  · rw [nothing, zero]
    exact rounds_zero s
  · rw [same, product]
    exact rounds_signed s m e pos ready

end

section

variable {q : ℚ} {x : Float} (rounds : Rounds q x.toModel.unpack) (a b : Float) (finite : a.isFinite = true)
  (other : b.isFinite = true)

include rounds

include finite in
theorem Rounds.ge (above : value a ≤ q) : a ≤ x :=
  (le_iff_rank a x).mpr ⟨number_of_finite a finite, rounds.number, rounds.atLeast a finite above⟩

include other in
theorem Rounds.le (below : q ≤ value b) : x ≤ b :=
  (le_iff_rank x b).mpr ⟨rounds.number, number_of_finite b other, rounds.atMost b other below⟩

include finite other in
theorem Rounds.between (above : value a ≤ q) (below : q ≤ value b) :
    x.isFinite = true ∧ value a ≤ value x ∧ value x ≤ value b := by
  have least := rounds.ge a finite above
  have greatest := rounds.le b other below
  have settled := finite_between a x b finite other least greatest
  exact ⟨settled, (le_iff_value a x finite settled).mp least, (le_iff_value x b settled other).mp greatest⟩

include finite in
theorem Rounds.exact (same : value a = q) : x.isFinite = true ∧ value x = q := by
  obtain ⟨settled, least, greatest⟩ := rounds.between a a finite finite same.le same.ge
  exact ⟨settled, (le_antisymm greatest least).trans same⟩

end

end TargetEval.Binary64

import Mathlib
import TargetEval.Number.Binary64

set_option autoImplicit false

namespace TargetEval.Binary64

open Float.Model Float.Model.UnpackedFloat

structure Canonical (m : ℕ) (e : ℤ) : Prop where
  bits : m < 2 ^ 53
  least : -1074 ≤ e
  greatest : e ≤ 971
  full : 2 ^ 52 ≤ m ∨ e = -1074

section

variable (m n : ℕ)

def shifted : ExtendedMantissa := n.repeat ExtendedMantissa.shiftRightOne ⟨m, false, false⟩

theorem shifted_mantissa : (shifted m n).mantissa = m / 2 ^ n := by
  induction n with
  | zero => exact (Nat.div_one m).symm
  | succ n ih =>
      change (shifted m n).mantissa / 2 = _
      rw [ih, Nat.div_div_eq_div_mul, Nat.pow_succ]

theorem shifted_exact (divides : 2 ^ n ∣ m) :
    (shifted m n).roundBit = false ∧ (shifted m n).stickyBit = false := by
  induction n with
  | zero => exact ⟨rfl, rfl⟩
  | succ n ih =>
      obtain ⟨round, sticky⟩ := ih (Nat.dvd_trans (Nat.pow_dvd_pow 2 (Nat.le_succ n)) divides)
      obtain ⟨q, rfl⟩ := divides
      have even : 2 ^ (n + 1) * q / 2 ^ n = 2 * q := by
        rw [Nat.pow_succ, Nat.mul_assoc, Nat.mul_div_cancel_left _ (Nat.two_pow_pos n)]
      constructor
      · change ((shifted (2 ^ (n + 1) * q) n).mantissa % 2 != 0) = false
        rw [shifted_mantissa, even]
        simp
      · change ((shifted (2 ^ (n + 1) * q) n).roundBit || (shifted (2 ^ (n + 1) * q) n).stickyBit) = false
        rw [round, sticky]
        rfl

theorem rounded_bounds :
    m / 2 ^ n ≤ (shifted m n).roundedMantissa ∧ (shifted m n).roundedMantissa ≤ m / 2 ^ n + 1 := by
  rw [← shifted_mantissa]
  obtain ⟨mantissa, round, sticky⟩ := shifted m n
  cases round <;> cases sticky <;>
    simp only [ExtendedMantissa.roundedMantissa, ExtendedMantissa.accuracy, Accuracy.roundToNearestEven] <;> omega

theorem rounded_exact (divides : 2 ^ n ∣ m) : (shifted m n).roundedMantissa = m / 2 ^ n := by
  obtain ⟨round, sticky⟩ := shifted_exact m n divides
  rw [← shifted_mantissa]
  generalize shifted m n = em at round sticky
  obtain ⟨mantissa, _, _⟩ := em
  cases round
  cases sticky
  rfl

theorem rounded_le (k : ℕ) (bound : m ≤ k * 2 ^ n) : (shifted m n).roundedMantissa ≤ k := by
  by_cases divides : 2 ^ n ∣ m
  · rw [rounded_exact m n divides]
    exact Nat.div_le_of_le_mul (by rwa [Nat.mul_comm])
  · have below : m < k * 2 ^ n := lt_of_le_of_ne bound fun same => divides ⟨k, by rw [same, Nat.mul_comm]⟩
    have quotient := Nat.div_lt_of_lt_mul (by rwa [Nat.mul_comm] at below)
    have above := (rounded_bounds m n).2
    omega

end

theorem target_exponent (m : ℕ) (e : ℤ) :
    Format.binary64.targetExponent (totalExponent m e) = max (m.log2 + e - 52) (-1074) := by
  change max (m.log2 + 1 + e - 53 : ℤ) (-1074) = _
  omega

theorem shift_to_target (m : ℕ) (e : ℤ) :
    shiftToTargetExponent Format.binary64 m e .exact =
      (shifted m (max (m.log2 + e - 52) (-1074) - e).toNat, e + (max (m.log2 + e - 52) (-1074) - e).toNat) := by
  rw [← target_exponent]
  rfl

theorem log_le (m : ℕ) (bits : m < 2 ^ 53) : m.log2 ≤ 52 := by
  by_cases zero : m = 0
  · simp [zero]
  · exact Nat.lt_succ_iff.mp ((Nat.log2_lt zero).mpr bits)

theorem settled (m : ℕ) (e : ℤ) (bits : m < 2 ^ 53) (least : -1074 ≤ e) :
    shiftToTargetExponent Format.binary64 m e .exact = (⟨m, false, false⟩, e) := by
  have log := log_le m bits
  have none : (max (m.log2 + e - 52) (-1074) - e).toNat = 0 := by omega
  rw [shift_to_target, none]
  exact Prod.ext rfl (Int.add_zero e)

theorem settled_carry (e : ℤ) (least : -1074 ≤ e) :
    shiftToTargetExponent Format.binary64 (2 ^ 53) e .exact = (⟨2 ^ 52, false, false⟩, e + 1) := by
  have one : (max (((2 ^ 53 : ℕ).log2 : ℤ) + e - 52) (-1074) - e).toNat = 1 := by
    rw [Nat.log2_two_pow]
    omega
  rw [shift_to_target, one]
  rfl

section

variable (s : Sign) (m : ℕ) (e : ℤ)

def target : ℤ := max (m.log2 + e - 52) (-1074)

def significand : ℕ := (shifted m (target m e - e).toNat).roundedMantissa

theorem log_shifted : m.log2 ≤ 52 + (target m e - e).toNat := by
  unfold target
  omega

theorem significand_le : significand m e ≤ 2 ^ 53 := by
  refine rounded_le m _ _ ?_
  have log := log_shifted m e
  calc m ≤ 2 ^ (m.log2 + 1) := Nat.le_of_lt Nat.lt_log2_self
    _ ≤ 2 ^ (53 + (target m e - e).toNat) := Nat.pow_le_pow_right (by omega) (by omega)
    _ = 2 ^ 53 * 2 ^ (target m e - e).toNat := Nat.pow_add ..

variable (ready : e ≤ target m e)

include ready

theorem first_shift :
    shiftToTargetExponent Format.binary64 m e .exact = (shifted m (target m e - e).toNat, target m e) := by
  rw [shift_to_target]
  refine Prod.ext rfl ?_
  change e + ((target m e - e).toNat : ℤ) = target m e
  omega

theorem round_result :
    roundWithAccuracy Format.binary64 s m e .exact =
      if zero : significand m e = 0 then .zero s
      else if significand m e < 2 ^ 53 then .finite s (significand m e) (target m e) (Nat.pos_of_ne_zero zero)
      else .finite s (2 ^ 52) (target m e + 1) (by decide) := by
  have bound := significand_le m e
  have least : -1074 ≤ target m e := le_max_right _ _
  rw [roundWithAccuracy, first_shift m e ready]
  change (if h : (shiftToTargetExponent Format.binary64 (significand m e) (target m e) .exact).1.mantissa = 0 then
    UnpackedFloat.zero s else
      .finite s _ (shiftToTargetExponent Format.binary64 (significand m e) (target m e) .exact).2 (Nat.pos_of_ne_zero h)) = _
  by_cases small : significand m e < 2 ^ 53
  · rw [settled _ _ small least]
    simp only [small, ↓reduceIte]
  · have full : significand m e = 2 ^ 53 := by omega
    rw [full, settled_carry _ least]
    rfl

end

theorem significand_full (m : ℕ) (e : ℤ) (pos : 0 < m) (ready : e ≤ target m e) :
    2 ^ 52 ≤ significand m e ∨ target m e = -1074 := by
  by_cases lowest : target m e = -1074
  · exact .inr lowest
  · have log : m.log2 = 52 + (target m e - e).toNat := by
      unfold target at lowest ready ⊢
      omega
    refine .inl (le_trans ?_ (rounded_bounds m _).1)
    rw [Nat.le_div_iff_mul_le (Nat.two_pow_pos _), ← Nat.pow_add, ← log]
    exact Nat.log2_self_le pos.ne'

theorem significand_pos (m : ℕ) (e : ℤ) (pos : 0 < m) (ready : e ≤ target m e) (least : -1074 ≤ e) :
    0 < significand m e := by
  rcases significand_full m e pos ready with full | lowest
  · omega
  · have unshifted : (target m e - e).toNat = 0 := by omega
    have kept := (rounded_bounds m (target m e - e).toNat).1
    rw [unshifted, Nat.pow_zero, Nat.div_one, ← unshifted] at kept
    exact Nat.lt_of_lt_of_le pos kept

theorem round_within (s : Sign) (m : ℕ) (e : ℤ) (k : ℕ) (f : ℤ) (pos : 0 < m) (ready : e ≤ target m e)
    (below : e ≤ f) (bits : k < 2 ^ 53) (least : -1074 ≤ f) (greatest : f ≤ 971)
    (bound : m ≤ k * 2 ^ (f - e).toNat) :
    roundWithAccuracy Format.binary64 s m e .exact = .zero s ∧ e < -1074 ∨
      ∃ r g positive, roundWithAccuracy Format.binary64 s m e .exact = .finite s r g positive ∧ Canonical r g ∧
        (g < f ∨ g = f ∧ r ≤ k) := by
  have log : m.log2 < 53 + (f - e).toNat := by
    refine (Nat.log2_lt pos.ne').mpr (Nat.lt_of_le_of_lt bound ?_)
    rw [Nat.pow_add]
    exact Nat.mul_lt_mul_of_pos_right bits (Nat.two_pow_pos _)
  have reach : target m e ≤ f := by
    unfold target
    omega
  have lowest : -1074 ≤ target m e := le_max_right _ _
  have full := significand_full m e pos ready
  rw [round_result s m e ready]
  by_cases zero : significand m e = 0
  · rw [dif_pos zero]
    refine .inl ⟨rfl, ?_⟩
    by_contra above
    have kept := significand_pos m e pos ready (by omega)
    omega
  · rw [dif_neg zero]
    by_cases small : significand m e < 2 ^ 53
    · rw [if_pos small]
      refine .inr ⟨_, _, _, rfl, ⟨small, lowest, by omega, full⟩, ?_⟩
      rcases lt_or_eq_of_le reach with short | same
      · exact .inl short
      · exact .inr ⟨same, rounded_le m _ k (by rwa [same])⟩
    · rw [if_neg small]
      have short : target m e < f := by
        refine lt_of_le_of_ne reach fun same => small (lt_of_le_of_lt ?_ bits)
        exact rounded_le m _ k (by rwa [same])
      refine .inr ⟨_, _, _, rfl, ⟨by decide, by omega, by omega, .inl le_rfl⟩, ?_⟩
      rcases lt_or_eq_of_le (Int.add_one_le_of_lt short) with shorter | same
      · exact .inl shorter
      · refine .inr ⟨same, ?_⟩
        have split : (f - e).toNat = (target m e - e).toNat + 1 := by omega
        have double : significand m e ≤ 2 * k := rounded_le m _ _ (by rw [split, Nat.pow_succ] at bound; linarith)
        omega

def ofFields (s : Sign) (exponent mantissa : ℕ) : UnpackedFloat :=
  if exponent = 2047 then if mantissa = 0 then .infinity s else .notANumber
  else if exponent = 0 then
    if zero : mantissa = 0 then .zero s else .finite s mantissa (-1074) (Nat.pos_of_ne_zero zero)
  else .finite s (2 ^ 52 + mantissa) (exponent - 1075) (by omega)

theorem leading_one (mantissa : BitVec 52) : (1#1 ++ mantissa).toNat = 2 ^ 52 + mantissa.toNat := by
  rw [BitVec.toNat_append, ← Nat.shiftLeft_add_eq_or_of_lt mantissa.isLt]
  rfl

theorem unpack_fields (b : BitVec Format.binary64.numBits) :
    unpack Format.binary64 b =
      ofFields (Sign.ofBitVec (unpackSign b)) (unpackExponent b).toNat (unpackMantissa b).toNat := by
  have top : unpackExponent b = -1#11 ↔ (unpackExponent b).toNat = 2047 := BitVec.toNat_eq
  have bottom : unpackExponent b = 0#11 ↔ (unpackExponent b).toNat = 0 := BitVec.toNat_eq
  have none : unpackMantissa b = 0#52 ↔ (unpackMantissa b).toNat = 0 := BitVec.toNat_eq
  unfold UnpackedFloat.unpack ofFields
  simp only [top, bottom, none, leading_one]
  split
  · rfl
  · split
    next empty =>
      split
      · rfl
      · rw [empty]
        rfl
    · rfl

theorem unpack_components (s : Sign) (exponent : BitVec 11) (mantissa : BitVec 52) :
    unpack Format.binary64 (packComponents Format.binary64 s exponent mantissa) =
      ofFields s exponent.toNat mantissa.toNat := by
  rw [unpack_fields, unpackSign_packComponents, Sign.ofBitVec_toBitVec, unpackExponent_packComponents,
    unpackMantissa_packComponents]

theorem fields_canonical (t : Sign) (exponent mantissa : ℕ) (exponentBits : exponent < 2048)
    (mantissaBits : mantissa < 2 ^ 52) (s : Sign) (m : ℕ) (e : ℤ) (pos : 0 < m)
    (finite : ofFields t exponent mantissa = .finite s m e pos) : Canonical m e := by
  unfold ofFields at finite
  split at finite
  next => split at finite <;> cases finite
  next numeric =>
    split at finite
    next =>
      split at finite
      next => cases finite
      next =>
        cases finite
        exact ⟨by omega, le_rfl, by omega, .inr rfl⟩
    next occupied =>
      cases finite
      exact ⟨by omega, by omega, by omega, .inl (by omega)⟩

theorem unpacked_canonical (x : Float) (s : Sign) (m : ℕ) (e : ℤ) (pos : 0 < m)
    (unpacked : x.toModel.unpack = .finite s m e pos) : Canonical m e := by
  rw [Float.Model.unpack, unpack_fields] at unpacked
  exact fields_canonical _ _ _ (BitVec.isLt _) (BitVec.isLt _) s m e pos unpacked

theorem unpack_pack_finite (s : Sign) (m : ℕ) (e : ℤ) (pos : 0 < m) :
    (Float.Model.pack (.finite s m e pos)).unpack =
      if 972 ≤ e then .infinity s
      else if m.log2 = 52 then ofFields s ((e + 1075).toNat % 2048) (m % 2 ^ 52)
      else ofFields s 0 (m % 2 ^ 52) := by
  have large : 2 ^ 11 ≤ (e + (1023 : ℕ) + (52 : ℕ)).toNat + 1 ↔ 972 ≤ e := by omega
  have full : m.log2 + 1 = 53 ↔ m.log2 = 52 := by omega
  change UnpackedFloat.unpack Format.binary64 (if 2 ^ 11 ≤ (e + (1023 : ℕ) + (52 : ℕ)).toNat + 1 then
    packComponents Format.binary64 s (-1#11) 0
    else if m.log2 + 1 = 53 then
      packComponents Format.binary64 s (BitVec.ofNat 11 (e + (1023 : ℕ) + (52 : ℕ)).toNat) (BitVec.ofNat 52 m)
    else packComponents Format.binary64 s 0#11 (BitVec.ofNat 52 m)) = _
  simp only [large, full]
  split
  · rw [unpack_components]
    rfl
  · split
    · rw [unpack_components, BitVec.toNat_ofNat, BitVec.toNat_ofNat]
      congr 2
      omega
    · rw [unpack_components, BitVec.toNat_ofNat]
      rfl

theorem fields_not_nan (s : Sign) (exponent mantissa : ℕ) (numeric : exponent ≠ 2047) :
    (ofFields s exponent mantissa).isNaN = false := by
  rw [ofFields, if_neg numeric]
  split
  · split <;> rfl
  · rfl

theorem pack_nan (u : UnpackedFloat) : (Float.Model.pack u).unpack.isNaN = u.isNaN := by
  cases u with
  | notANumber => rfl
  | infinity s => cases s <;> rfl
  | zero s => cases s <;> rfl
  | finite s m e pos =>
      rw [unpack_pack_finite]
      split
      · rfl
      · split
        · exact fields_not_nan _ _ _ (by omega)
        · exact fields_not_nan _ _ _ (by omega)

theorem unpack_pack_canonical (s : Sign) (m : ℕ) (e : ℤ) (pos : 0 < m) (canonical : Canonical m e) :
    (Float.Model.pack (.finite s m e pos)).unpack = .finite s m e pos := by
  obtain ⟨bits, least, greatest, full⟩ := canonical
  rw [unpack_pack_finite, if_neg (by omega)]
  by_cases normal : 2 ^ 52 ≤ m
  · have log : m.log2 = 52 := Nat.le_antisymm (log_le m bits) ((Nat.le_log2 pos.ne').mpr normal)
    have exponent : (e + 1075).toNat % 2048 = (e + 1075).toNat := Nat.mod_eq_of_lt (by omega)
    have fraction : m % 2 ^ 52 = m - 2 ^ 52 := by omega
    rw [if_pos log, exponent, fraction, ofFields, if_neg (by omega), if_neg (by omega),
      UnpackedFloat.finite.injEq]
    exact ⟨rfl, by omega, by omega⟩
  · have log : m.log2 ≠ 52 := fun same => normal (same ▸ Nat.log2_self_le pos.ne')
    have fraction : m % 2 ^ 52 = m := Nat.mod_eq_of_lt (by omega)
    rw [if_neg log, fraction, ofFields, if_neg (by omega), if_pos rfl, dif_neg (by omega),
      UnpackedFloat.finite.injEq]
    exact ⟨rfl, rfl, by omega⟩

end TargetEval.Binary64

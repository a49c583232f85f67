import TargetEval.Proofs.Interpolation
import TargetEval.Reducer.Basic

set_option autoImplicit false

namespace TargetEval

open Binary64 Float.Model Float.Model.UnpackedFloat

theorem quotient_number (x y : Float) (s : Sign) (m : ℕ) (e : ℤ) (pos : 0 < m) (number : x.isNaN = false)
    (divisor : y.toModel.unpack = .finite s m e pos) : (x / y).isNaN = false := by
  change (Float.Model.pack (UnpackedFloat.div Format.binary64 x.toModel.unpack y.toModel.unpack)).unpack.isNaN = false
  change x.toModel.unpack.isNaN = false at number
  rw [pack_nan, divisor]
  cases unpacked : x.toModel.unpack with
  | notANumber => rw [unpacked] at number; cases number
  | infinity t => rfl
  | zero t => rfl
  | finite t n f positive => exact rounded_number ..

theorem le_of_not_lt (x y : Float) (number : x.isNaN = false) (other : y.isNaN = false) (above : ¬x < y) : y ≤ x := by
  rw [lt_iff_rank] at above
  exact (le_iff_rank y x).mpr ⟨other, number, not_lt.mp fun less => above ⟨number, other, less⟩⟩

theorem unit_clamped (x : Float) (number : x.isNaN = false) :
    (clampUnit x).isFinite = true ∧ 0 ≤ value (clampUnit x) ∧ value (clampUnit x) ≤ 1 := by
  unfold clampUnit
  by_cases below : x < 0.0
  · rw [if_pos below]
    exact ⟨rfl, le_rfl, zero_le_one⟩
  · rw [if_neg below]
    by_cases above : 1.0 < x
    · rw [if_pos above, one_value]
      exact ⟨rfl, zero_le_one, le_rfl⟩
    · have least := le_of_not_lt x 0.0 number rfl below
      have greatest := le_of_not_lt 1.0 x rfl number above
      have finite := finite_between 0.0 x 1.0 rfl rfl least greatest
      rw [if_neg above]
      rw [le_iff_value 0.0 x rfl finite] at least
      rw [le_iff_value x 1.0 finite rfl, one_value] at greatest
      exact ⟨finite, least, greatest⟩

def percentileRank (values : List Float) (pct : Float) : Float :=
  clampUnit (pct / 100.0) * Float.ofNat ((ascending values).length - 1)

theorem mem_ascending (values : List Float) (v : Float) : v ∈ ascending values ↔ v ∈ values ∧ v.isNaN = false := by
  rw [ascending, List.mem_mergeSort, List.mem_filter, Bool.not_eq_true']

theorem ascending_sorted (values : List Float) : (ascending values).Pairwise (· ≤ ·) := by
  have numbers : ∀ v ∈ ascending values, v.isNaN = false := fun v member => ((mem_ascending values v).mp member).2
  have ranked : ascending values = (values.filter fun v => !v.isNaN).mergeSort fun a b => rank a ≤ rank b := by
    have same := List.map_mergeSort (r := fun a b => decide (a ≤ b)) (s := fun a b => decide (rank a ≤ rank b))
      (f := id) (l := values.filter fun v => !v.isNaN) ?_
    · rwa [List.map_id, List.map_id] at same
    · intro a first b second
      have number := (Bool.not_eq_true' _).mp (List.mem_filter.mp first).2
      have other := (Bool.not_eq_true' _).mp (List.mem_filter.mp second).2
      simp only [id, le_iff_rank, number, other, true_and]
  have sorted := @List.pairwise_mergeSort Float (fun a b => decide (rank a ≤ rank b))
    (fun a b c first second => decide_eq_true (le_trans (of_decide_eq_true first) (of_decide_eq_true second)))
    (fun a b => (Bool.or_eq_true _ _).mpr ((le_total (rank a) (rank b)).imp decide_eq_true decide_eq_true))
    (values.filter fun v => !v.isNaN)
  rw [← ranked] at sorted
  refine sorted.imp_of_mem fun {a b} first second less => ?_
  exact (le_iff_rank a b).mpr ⟨numbers a first, numbers b second, of_decide_eq_true less⟩

theorem sorted_ascending (values : List Float) (numbers : ∀ v ∈ values, v.isNaN = false)
    (sorted : values.Pairwise (· ≤ ·)) : ascending values = values := by
  rw [ascending, List.filter_eq_self.mpr fun v member => by rw [numbers v member]; rfl]
  exact List.mergeSort_of_pairwise (sorted.imp decide_eq_true)

section

variable (values : List Float) (pct : Float) (held : values.length < 2 ^ 63) (number : pct.isNaN = false)

theorem ascending_length : (ascending values).length ≤ values.length := by
  rw [ascending, List.length_mergeSort]
  exact List.length_filter_le _ _

include held number in
theorem percentile_rank_between :
    (percentileRank values pct).isFinite = true ∧ 0 ≤ value (percentileRank values pct) ∧
      value (percentileRank values pct) ≤ value (Float.ofNat ((ascending values).length - 1)) := by
  have quotient := quotient_number pct 100.0 _ _ _ _ number rfl
  obtain ⟨finite, least, greatest⟩ := unit_clamped _ quotient
  have shorter := ascending_length values
  obtain ⟨bounded, nonneg, _⟩ := of_nat_between ((ascending values).length - 1) (by omega)
  exact (rounds_mul _ _ finite bounded).between 0.0 _ rfl bounded (mul_nonneg least nonneg)
    (mul_le_of_le_one_left nonneg greatest)

end

section

variable (sorted : List Float) (rank : Float) (finite : rank.isFinite = true) (nonneg : 0 ≤ value rank)
  (below : value rank < 2 ^ 64)

include finite nonneg below

theorem upper_neighbour :
    (if Float.ofNat rank.toUInt64.toNat < rank then rank.toUInt64.toNat + 1 else rank.toUInt64.toNat) =
      ⌈value rank⌉₊ := by
  obtain ⟨bounded, whole⟩ := whole_value rank finite nonneg
  have compared := lt_iff_value _ rank bounded finite
  rw [whole] at compared
  rw [floor_value rank finite nonneg below]
  by_cases less : (⌊value rank⌋₊ : ℚ) < value rank
  · rw [if_pos (compared.mpr less)]
    refine ((Nat.ceil_eq_iff (Nat.succ_ne_zero _)).mpr ⟨less, ?_⟩).symm
    exact_mod_cast (Nat.lt_floor_add_one (value rank)).le
  · rw [if_neg (mt compared.mp less)]
    exact le_antisymm (Nat.floor_le_ceil _) (Nat.ceil_le.mpr (not_lt.mp less))

theorem at_rank_between (low high : Float) (lower : sorted[⌊value rank⌋₊]? = some low)
    (upper : sorted[⌈value rank⌉₊]? = some high) :
    atRank sorted rank = low + (high - low) * (rank - Float.ofNat ⌊value rank⌋₊) := by
  simp only [atRank, upper_neighbour rank finite nonneg below]
  rw [floor_value rank finite nonneg below]
  simp only [lower, upper]

end

-- The values on both sides of the rank of a percentile.
structure Neighbours (values : List Float) (pct low high : Float) : Prop where
  lower : (ascending values)[⌊value (percentileRank values pct)⌋₊]? = some low
  upper : (ascending values)[⌈value (percentileRank values pct)⌉₊]? = some high

-- The last position does not become larger when it is made a floating point number.
def RankFits (values : List Float) : Prop :=
  value (Float.ofNat ((ascending values).length - 1)) ≤ ((ascending values).length - 1 : ℕ)

section

variable {values : List Float} {pct low high : Float} (neighbours : Neighbours values pct low high)

include neighbours

theorem Neighbours.members : low ∈ values ∧ high ∈ values ∧ low ≤ high := by
  have first := (mem_ascending values low).mp (List.mem_of_getElem? neighbours.lower)
  have second := (mem_ascending values high).mp (List.mem_of_getElem? neighbours.upper)
  refine ⟨first.1, second.1, ?_⟩
  obtain ⟨lowerBound, lower⟩ := List.getElem?_eq_some_iff.mp neighbours.lower
  obtain ⟨upperBound, upper⟩ := List.getElem?_eq_some_iff.mp neighbours.upper
  rcases lt_or_eq_of_le (Nat.floor_le_ceil (value (percentileRank values pct))) with less | same
  · rw [← lower, ← upper]
    exact List.pairwise_iff_getElem.mp (ascending_sorted values) _ _ lowerBound upperBound less
  · have equal : low = high := by
      have found := neighbours.lower
      rw [same, neighbours.upper] at found
      exact (Option.some.inj found).symm
    rw [equal, le_iff_rank]
    exact ⟨second.2, second.2, le_rfl⟩

variable (held : values.length < 2 ^ 63) (number : pct.isNaN = false)

include held number

theorem Neighbours.blended : ∃ t : Float, t.isFinite = true ∧ 0 ≤ value t ∧ value t < 1 ∧
    (value t = 0 → low = high) ∧ percentile values pct = low + (high - low) * t := by
  obtain ⟨finite, nonneg, atMost⟩ := percentile_rank_between values pct held number
  have shorter := ascending_length values
  obtain ⟨_, _, reach⟩ := of_nat_between ((ascending values).length - 1) (by omega)
  obtain ⟨settled, part⟩ := part_value (percentileRank values pct) finite nonneg
  refine ⟨_, settled, ?_, ?_, ?_, ?_⟩
  · rw [part]
    exact sub_nonneg.mpr (Nat.floor_le nonneg)
  · rw [part, sub_lt_iff_lt_add']
    exact Nat.lt_floor_add_one _
  · intro whole
    have exactly := sub_eq_zero.mp (part.symm.trans whole)
    have ceiling : ⌈value (percentileRank values pct)⌉₊ = ⌊value (percentileRank values pct)⌋₊ := by
      rw [exactly, Nat.ceil_natCast, Nat.floor_natCast]
    have found := neighbours.lower
    rw [← ceiling, neighbours.upper] at found
    exact (Option.some.inj found).symm
  · have filled : ascending values ≠ [] := fun empty => by
      have missing := neighbours.lower
      rw [empty] at missing
      cases missing
    have below : value (percentileRank values pct) < 2 ^ 64 := lt_of_le_of_lt (atMost.trans reach) (by norm_num)
    rw [← at_rank_between _ _ finite nonneg below low high neighbours.lower neighbours.upper, percentile]
    exact if_neg (mt List.isEmpty_iff.mp filled)

theorem Neighbours.bounds (bounded : low.isInf = false) :
    low ≤ percentile values pct ∧ (percentile values pct ≤ high ↔ ¬Overflows low high) ∧
      (Overflows low high → percentile values pct = positiveInfinity) := by
  obtain ⟨t, part, nonneg, below, whole, blended⟩ := neighbours.blended held number
  rw [blended]
  exact blend_bounds low high t neighbours.members.2.2 bounded part nonneg below whole

theorem Neighbours.nan_iff : (percentile values pct).isNaN = true ↔ low.isInf = true := by
  obtain ⟨_, _, ordered⟩ := neighbours.members
  constructor
  · intro nan
    by_contra bounded
    obtain ⟨least, _⟩ := neighbours.bounds held number (Bool.eq_false_iff.mpr bounded)
    rw [((le_iff_rank _ _).mp least).2.1] at nan
    cases nan
  · intro infinite
    obtain ⟨t, part, nonneg, _, _, blended⟩ := neighbours.blended held number
    rw [blended]
    exact blend_nan low high t infinite ((le_iff_rank low high).mp ordered).2.1 part nonneg

end

section

variable (values : List Float) (number : ∃ v ∈ values, v.isNaN = false)

include number

theorem neighbours_exist (pct : Float) : (∃ low high, Neighbours values pct low high) ↔
    value (percentileRank values pct) ≤ ((ascending values).length - 1 : ℕ) := by
  have filled : 0 < (ascending values).length := by
    obtain ⟨v, member, numeric⟩ := number
    exact List.length_pos_of_mem ((mem_ascending values v).mpr ⟨member, numeric⟩)
  have inside : value (percentileRank values pct) ≤ ((ascending values).length - 1 : ℕ) ↔
      ⌈value (percentileRank values pct)⌉₊ < (ascending values).length := by
    rw [← Nat.ceil_le]
    omega
  rw [inside]
  constructor
  · rintro ⟨low, high, neighbours⟩
    exact (List.getElem?_eq_some_iff.mp neighbours.upper).1
  · intro bound
    have under := lt_of_le_of_lt (Nat.floor_le_ceil _) bound
    exact ⟨_, _, List.getElem?_eq_getElem under, List.getElem?_eq_getElem bound⟩

theorem neighbours_exist_iff (held : values.length < 2 ^ 63) :
    (∀ pct, pct.isNaN = false → ∃ low high, Neighbours values pct low high) ↔ RankFits values := by
  have shorter := ascending_length values
  constructor
  · intro inside
    obtain ⟨finite, _, _⟩ := of_nat_between ((ascending values).length - 1) (by omega)
    have bound := (neighbours_exist values number 100.0).mp (inside 100.0 rfl)
    have whole : clampUnit (100.0 / 100.0) = 1.0 := by decide +kernel
    have rounds := rounds_mul 1.0 _ rfl finite
    rw [one_value, one_mul] at rounds
    rw [percentileRank, whole, (rounds.exact _ finite rfl).2] at bound
    exact bound
  · intro fits pct numeric
    exact (neighbours_exist values number pct).mpr ((percentile_rank_between values pct held numeric).2.2.trans fits)

end

section

variable (values : List Float) (short : values.length ≤ 2 ^ 53 + 1)

include short

theorem last_value : value (Float.ofNat ((ascending values).length - 1)) = ((ascending values).length - 1 : ℕ) := by
  have shorter := ascending_length values
  obtain ⟨b, finite, same⟩ := full_representable ((ascending values).length - 1) 0 (by omega) (by decide) (by decide)
  rw [zpow_zero, mul_one] at same
  exact ((rounds_of_nat _).exact b finite same).2

theorem rank_fits : RankFits values := (last_value values short).le

theorem median_rank : value (percentileRank values 50.0) = ((ascending values).length - 1 : ℕ) / 2 := by
  have shorter := ascending_length values
  obtain ⟨finite, _, _⟩ := of_nat_between ((ascending values).length - 1) (by omega)
  obtain ⟨b, bounded, same⟩ :=
    full_representable ((ascending values).length - 1) (-1) (by omega) (by decide) (by decide)
  have whole : clampUnit (50.0 / 100.0) = 0.5 := by decide +kernel
  have half : value 0.5 = 1 / 2 := by
    have unpacked : (0.5 : Float).toModel.unpack = .finite .positive (2 ^ 52) (-53) (by decide) := rfl
    rw [value, unpacked, positive_value]
    norm_num
  have rounds := rounds_mul 0.5 _ rfl finite
  rw [half, last_value values short] at rounds
  rw [percentileRank, whole, (rounds.exact b bounded (by rw [same]; ring)).2]
  ring

theorem median_neighbours (low high : Float) : Neighbours values 50.0 low high ↔
    (ascending values)[((ascending values).length - 1) / 2]? = some low ∧
      (ascending values)[(ascending values).length / 2]? = some high := by
  have floor : ⌊value (percentileRank values 50.0)⌋₊ = ((ascending values).length - 1) / 2 := by
    rw [median_rank values short]
    exact Nat.floor_div_eq_div ((ascending values).length - 1) 2
  have ceiling : ⌈value (percentileRank values 50.0)⌉₊ = (ascending values).length / 2 := by
    rw [median_rank values short]
    refine eq_of_forall_ge_iff fun k => ?_
    rw [Nat.ceil_le, div_le_iff₀ two_pos]
    norm_cast
    omega
  constructor
  · rintro ⟨lower, upper⟩
    exact ⟨floor ▸ lower, ceiling ▸ upper⟩
  · rintro ⟨lower, upper⟩
    exact ⟨floor.symm ▸ lower, ceiling.symm ▸ upper⟩

end

theorem median_absent_iff (values : List Float) (low high : Float) (held : values.length < 2 ^ 63)
    (neighbours : Neighbours values 50.0 low high) : Reducer.median.point? values = none ↔ low.isInf = true := by
  have filled : values ≠ [] := List.ne_nil_of_mem neighbours.members.1
  have folded : Reducer.median.reduce values = percentile values 50.0 := if_neg (mt List.isEmpty_iff.mp filled)
  rw [← neighbours.nan_iff held rfl, Reducer.point?, folded]
  cases (percentile values 50.0).isNaN <;> simp

theorem median_absent (values : List Float) (number : ∃ v ∈ values, v.isNaN = false)
    (short : values.length ≤ 2 ^ 53 + 1) : Reducer.median.point? values = none ↔
      ∃ middle, (ascending values)[((ascending values).length - 1) / 2]? = some middle ∧ middle.isInf = true := by
  have inside := (neighbours_exist_iff values number (by omega)).mpr (rank_fits values short) 50.0 rfl
  obtain ⟨low, high, neighbours⟩ := inside
  have lower := ((median_neighbours values short low high).mp neighbours).1
  rw [median_absent_iff values low high (by omega) neighbours, lower]
  simp

/-- Which percentiles lie within the values. Their rank is a position of the list unless the last
position is rounded up, which takes more values than 53 bits can count. Between two neighbours the
percentile is a number unless the lower one is infinite, and it is at most the upper one unless their
difference overflows, when it is infinite. The median is absent just if the middle value, or the lower
one of two, is infinite. -/
theorem percentile_between_neighbours (values : List Float) (number : ∃ v ∈ values, v.isNaN = false)
    (held : values.length < 2 ^ 63) :
    ((∀ pct, pct.isNaN = false → ∃ low high, Neighbours values pct low high) ↔ RankFits values) ∧
      (∀ pct low high, pct.isNaN = false → Neighbours values pct low high →
        (low ∈ values ∧ high ∈ values ∧ low ≤ high) ∧
          ((percentile values pct).isNaN = true ↔ low.isInf = true) ∧
          (low.isInf = false →
            low ≤ percentile values pct ∧ (percentile values pct ≤ high ↔ ¬Overflows low high) ∧
              (Overflows low high → percentile values pct = positiveInfinity))) ∧
      (values.length ≤ 2 ^ 53 + 1 →
        RankFits values ∧
          (Reducer.median.point? values = none ↔
            ∃ middle, (ascending values)[((ascending values).length - 1) / 2]? = some middle ∧ middle.isInf = true)) :=
  ⟨neighbours_exist_iff values number held,
    fun _ _ _ numeric neighbours =>
      ⟨neighbours.members, neighbours.nan_iff held numeric, neighbours.bounds held numeric⟩,
    fun short => ⟨rank_fits values short, median_absent values number short⟩⟩

theorem spread_kept_within :
    ((∃ v ∈ [3.0, Binary64.notANumber, 1.0], v.isNaN = false) ∧ [3.0, Binary64.notANumber, 1.0].length < 2 ^ 63) ∧
      (percentile [3.0, Binary64.notANumber, 1.0] 30.0).isNaN = false ∧
      1.0 ≤ percentile [3.0, Binary64.notANumber, 1.0] 30.0 ∧ percentile [3.0, Binary64.notANumber, 1.0] 30.0 ≤ 3.0 ∧
      Reducer.median.point? [3.0, Binary64.notANumber, 1.0] ≠ none := by
  have number : ∃ v ∈ [3.0, Binary64.notANumber, 1.0], v.isNaN = false := ⟨3.0, .head _, rfl⟩
  have held : [3.0, Binary64.notANumber, 1.0].length < 2 ^ 63 := by decide
  have pairs : ∀ low ∈ [3.0, Binary64.notANumber, 1.0], ∀ high ∈ [3.0, Binary64.notANumber, 1.0], low ≤ high →
      low.isInf = false ∧ (high - low).isInf = false ∧ 1.0 ≤ low ∧ high ≤ 3.0 := by decide +kernel
  have finite : ∀ v ∈ [3.0, Binary64.notANumber, 1.0], v.isInf = false := by decide +kernel
  obtain ⟨inside, within, median⟩ := percentile_between_neighbours [3.0, Binary64.notANumber, 1.0] number held
  obtain ⟨fits, absent⟩ := median (by decide)
  obtain ⟨low, high, neighbours⟩ := inside.mpr fits 30.0 rfl
  obtain ⟨⟨first, second, ordered⟩, nan, bounds⟩ := within 30.0 low high rfl neighbours
  obtain ⟨bounded, small, least, greatest⟩ := pairs low first high second ordered
  obtain ⟨above, below, _⟩ := bounds bounded
  have under := below.mpr fun overflows => by rw [overflows.2] at small; cases small
  refine ⟨⟨number, held⟩, ?_, ?_, ?_, fun none => ?_⟩
  · exact Bool.eq_false_iff.mpr fun wrong => by rw [nan.mp wrong] at bounded; cases bounded
  · rw [le_iff_rank] at least above ⊢
    exact ⟨least.1, above.2.1, least.2.2.trans above.2.2⟩
  · rw [le_iff_rank] at under greatest ⊢
    exact ⟨under.1, greatest.2.1, under.2.2.trans greatest.2.2⟩
  · obtain ⟨middle, found, infinite⟩ := absent.mp none
    rw [finite middle ((mem_ascending _ _).mp (List.mem_of_getElem? found)).1] at infinite
    cases infinite

-- An infinite value alone has no percentile, and that of two finite values can be larger than both.
theorem percentile_leaves_values :
    ((∃ v ∈ [positiveInfinity], v.isNaN = false) ∧ (50.0 : Float).isNaN = false ∧
        (percentile [positiveInfinity] 50.0).isNaN = true ∧ Reducer.median.point? [positiveInfinity] = none) ∧
      (percentile [-1e308, 1e308] 50.0).isNaN = false ∧ ¬percentile [-1e308, 1e308] 50.0 ≤ 1e308 := by
  have lost : (percentile [positiveInfinity] 50.0).isNaN = true := by
    rw [percentile, sorted_ascending _ (by decide +kernel) (by decide +kernel)]
    decide +kernel
  have passed : percentile [-1e308, 1e308] 50.0 = positiveInfinity := by
    rw [percentile, sorted_ascending _ (by decide +kernel) (by decide +kernel)]
    decide +kernel
  rw [passed]
  exact ⟨⟨⟨_, .head _, rfl⟩, rfl, lost, if_pos lost⟩, rfl, by decide +kernel⟩

end TargetEval

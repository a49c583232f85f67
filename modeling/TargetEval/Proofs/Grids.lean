import Mathlib.Algebra.Order.Ring.Int
import Mathlib.Tactic.Linarith
import TargetEval.Series.Grid

set_option autoImplicit false

namespace TargetEval

theorem Bounded.of_int_some (n : Int) (x : Int64) : ofInt? n = some x ↔ x.toInt = n := by
  have low := x.le_toInt
  have high := x.toInt_lt
  unfold ofInt?
  constructor
  · intro some
    split at some
    next fits =>
      cases some
      exact to_int_of_int n fits.1 fits.2
    next => cases some
  · rintro rfl
    rw [if_pos (by simp only [least, greatest]; omega), Int64.ofInt_toInt]

theorem Bounded.fitting (n : Int) (low : least ≤ n) (high : n ≤ greatest) : ∃ x : Int64, x.toInt = n :=
  ⟨Int64.ofInt n, to_int_of_int n low high⟩

namespace Grid

def below (time width : Int) : Int := time - time % width

def above (time width : Int) : Int := -below (-time) width

theorem multiple_before (width m n : Int) (first : width ∣ m) (second : width ∣ n) (before : m < n) : m + width ≤ n := by
  have apart := Int.le_of_dvd (by omega) (Int.dvd_sub second first)
  omega

section

variable (time width : Int) (positive : 0 < width)

theorem below_divides : width ∣ below time width := Int.dvd_self_sub_emod

theorem above_divides : width ∣ above time width := Int.dvd_neg.mpr (below_divides _ width)

include positive

theorem below_le : below time width ≤ time := by
  have := Int.emod_nonneg time (Int.ne_of_gt positive)
  unfold below
  omega

theorem lt_below : time < below time width + width := by
  have := Int.emod_lt_of_pos time positive
  unfold below
  omega

theorem le_below (m : Int) (divides : width ∣ m) (early : m ≤ time) : m ≤ below time width := by
  by_contra late
  have := multiple_before width _ m (below_divides time width) divides (by omega)
  have := lt_below time width positive
  omega

theorem le_above : time ≤ above time width := by
  have := below_le (-time) width positive
  unfold above
  omega

theorem above_lt : above time width < time + width := by
  have := lt_below (-time) width positive
  unfold above
  omega

theorem above_le (m : Int) (divides : width ∣ m) (late : time ≤ m) : above time width ≤ m := by
  have := le_below (-time) width positive (-m) (Int.dvd_neg.mpr divides) (by omega)
  unfold above
  omega

theorem above_of_below : above time width = if below time width = time then time else below time width + width := by
  have early := below_le time width positive
  have late := le_above time width positive
  by_cases aligned : below time width = time
  · have least := above_le time width positive time (aligned ▸ below_divides time width) (Int.le_refl _)
    rw [if_pos aligned]
    omega
  · have near := lt_below time width positive
    have least := above_le time width positive (below time width + width)
      (Int.dvd_add (below_divides time width) (Int.dvd_refl width)) (by omega)
    have apart := multiple_before width _ _ (below_divides time width) (above_divides time width) (by omega)
    rw [if_neg aligned]
    omega

end

section

variable (time fine coarse : Int) (positive : 0 < fine) (wide : 0 < coarse) (nested : fine ∣ coarse)

include positive wide nested

theorem below_nested : below time coarse ≤ below time fine :=
  le_below time fine positive _ (Int.dvd_trans nested (below_divides time coarse)) (below_le time coarse wide)

theorem below_below : below (below time fine) coarse = below time coarse := by
  have inner := below_le time fine positive
  refine Int.le_antisymm ?_ ?_
  · have := below_le (below time fine) coarse wide
    exact le_below time coarse wide _ (below_divides _ coarse) (by omega)
  · exact le_below _ coarse wide _ (below_divides time coarse) (below_nested time fine coarse positive wide nested)

theorem above_above : above (above time fine) coarse = above time coarse := by
  have same := below_below (-time) fine coarse positive wide nested
  unfold above
  rw [Int.neg_neg, same]

theorem above_nested : above time fine ≤ above time coarse :=
  above_le time fine positive _ (Int.dvd_trans nested (above_divides time coarse)) (le_above time coarse wide)

end

theorem count_above (span width : Int) (positive : 0 < width) (forward : 0 ≤ span) :
    let n := if span.tmod width = 0 then span.tdiv width else span.tdiv width + 1
    0 ≤ n ∧ n * width = above span width := by
  have whole := Int.mul_ediv_add_emod span width
  have quotient := Int.ediv_nonneg forward (Int.le_of_lt positive)
  rw [above_of_below span width positive, Int.tdiv_eq_ediv_of_nonneg forward, Int.tmod_eq_emod_of_nonneg forward]
  unfold below
  by_cases exactly : span % width = 0
  · have aligned : span - span % width = span := by omega
    simp only [if_pos exactly, if_pos aligned]
    exact ⟨quotient, by rw [Int.mul_comm]; omega⟩
  · have inside : span - span % width ≠ span := by omega
    simp only [if_neg exactly, if_neg inside]
    exact ⟨by omega, by rw [Int.add_mul, Int.mul_comm]; omega⟩

section

variable (width : Seconds) (positive : 0 < width.toInt)

include positive

theorem nonzero : width ≠ 0 := by
  rintro rfl
  exact absurd positive (by decide)

theorem floor_below (time : Seconds) : floor? time width = Bounded.ofInt? (below time.toInt width.toInt) := by
  have low := time.le_toInt
  have high := time.toInt_lt
  have quotient : Bounded.least ≤ time.toInt / width.toInt ∧ time.toInt / width.toInt ≤ Bounded.greatest := by
    simp only [Bounded.least, Bounded.greatest]
    constructor
    · rw [Int.le_ediv_iff_mul_le positive]
      nlinarith
    · rw [Int.ediv_le_iff_le_mul positive]
      nlinarith
  simp only [floor?, remainder?, if_neg (nonzero width positive), Bounded.ofInt?, if_pos quotient, Option.map_some]
  rfl

theorem ceiling_some (time high : Seconds) :
    ceiling? time width = some high ↔
      Bounded.least ≤ below time.toInt width.toInt ∧ high.toInt = above time.toInt width.toInt := by
  have early := below_le time.toInt width.toInt positive
  have last := time.toInt_lt
  rw [above_of_below time.toInt width.toInt positive, ceiling?, floor_below width positive]
  cases floored : Bounded.ofInt? (below time.toInt width.toInt) with
  | none =>
      have unfit : ¬ Bounded.least ≤ below time.toInt width.toInt := by
        intro low
        have fits : below time.toInt width.toInt ≤ Bounded.greatest := by
          simp only [Bounded.greatest]
          omega
        simp [Bounded.ofInt?, low, fits] at floored
      simp [unfit]
  | some low =>
      have same := (Bounded.of_int_some _ _).mp floored
      have fits : Bounded.least ≤ below time.toInt width.toInt := same ▸ low.le_toInt
      have aligned : low = time ↔ below time.toInt width.toInt = time.toInt := by
        rw [← same, Int64.toInt_inj]
      by_cases on : low = time
      · rw [if_pos (aligned.mp on), Int64.toInt_inj]
        simp [on, fits, eq_comm]
      · rw [if_neg fun on' => on (aligned.mpr on'), ← same, ← Bounded.of_int_some]
        simp [on, same, fits]

theorem align_some (start stop low high : Seconds) :
    align? start stop width = some (low, high) ↔
      low.toInt = below start.toInt width.toInt ∧ Bounded.least ≤ below stop.toInt width.toInt ∧
        high.toInt = above stop.toInt width.toInt := by
  rw [← Bounded.of_int_some, ← floor_below width positive, ← ceiling_some width positive]
  unfold align?
  cases floor? start width with
  | none => simp
  | some first =>
      cases ceiling? stop width with
      | none => simp
      | some last => simp

theorem count_ok (start stop : Seconds) (n : Nat) :
    count start stop width = .ok n ↔
      stop.toInt ≤ start.toInt ∧ n = 0 ∨
        start.toInt < stop.toInt ∧ stop.toInt - start.toInt ≤ Bounded.greatest ∧
          n * width.toInt = above (stop.toInt - start.toInt) width.toInt := by
  unfold count
  by_cases inverted : stop ≤ start
  · have ordered := Int64.le_iff_toInt_le.mp inverted
    rw [if_pos inverted, Except.ok.injEq]
    omega
  · rw [if_neg inverted]
    rw [Int64.le_iff_toInt_le] at inverted
    have low : Bounded.least ≤ stop.toInt - start.toInt := by
      simp only [Bounded.least]
      omega
    cases spanned : Bounded.ofInt? (stop.toInt - start.toInt) with
    | none =>
        have far : ¬ stop.toInt - start.toInt ≤ Bounded.greatest := by
          intro near
          simp [Bounded.ofInt?, low, near] at spanned
        simp [far]
        omega
    | some span =>
        have same := (Bounded.of_int_some _ _).mp spanned
        have near : stop.toInt - start.toInt ≤ Bounded.greatest := by
          have := span.toInt_lt
          simp only [Bounded.greatest]
          omega
        obtain ⟨counted, buckets⟩ := count_above span.toInt width.toInt positive (by omega)
        simp only [if_neg (nonzero width positive), if_neg (Int.not_lt.mpr counted), Except.ok.injEq, ← same, ← buckets]
        have counts : ∀ m : Int, 0 ≤ m → (m.toNat = n ↔ n * width.toInt = m * width.toInt) := by
          intro m forward
          rw [mul_left_inj' (Int.ne_of_gt positive)]
          omega
        rw [counts _ counted]
        omega

theorem count_aligned (start stop : Seconds) (divides : width.toInt ∣ stop.toInt - start.toInt)
    (fits : stop.toInt - start.toInt ≤ Bounded.greatest) :
    ∃ n, count start stop width = .ok n ∧ (start.toInt < stop.toInt → n * width.toInt = stop.toInt - start.toInt) := by
  by_cases inverted : stop.toInt ≤ start.toInt
  · exact ⟨0, (count_ok width positive start stop 0).mpr (.inl ⟨inverted, rfl⟩), by omega⟩
  · obtain ⟨q, whole⟩ := divides
    have forward : 0 ≤ q := by
      by_contra negative
      have := mul_neg_of_pos_of_neg positive (Int.not_le.mp negative)
      omega
    have span : (q.toNat : Int) * width.toInt = stop.toInt - start.toInt := by
      rw [Int.toNat_of_nonneg forward, Int.mul_comm, whole]
    have rounded : above (stop.toInt - start.toInt) width.toInt = stop.toInt - start.toInt :=
      Int.le_antisymm (above_le _ _ positive _ ⟨q, whole⟩ (Int.le_refl _)) (le_above _ _ positive)
    refine ⟨q.toNat, ?_, fun _ => span⟩
    exact (count_ok width positive start stop q.toNat).mpr (.inr ⟨by omega, fits, by rw [span, rounded]⟩)

end

theorem align_in_stages (fine coarse : Seconds) (positive : 0 < fine.toInt) (wide : 0 < coarse.toInt)
    (nested : fine.toInt ∣ coarse.toInt) (start stop low high : Seconds) (n : Nat)
    (aligned : align? start stop coarse = some (low, high)) (counted : count low high coarse = .ok n) :
    ∃ first last m, align? start stop fine = some (first, last) ∧ count first last fine = .ok m ∧
      align? first last coarse = some (low, high) ∧
      (first.toInt < last.toInt → m * fine.toInt = last.toInt - first.toInt) := by
  obtain ⟨low_below, fits, high_above⟩ := (align_some coarse wide start stop low high).mp aligned
  have start_low := below_nested start.toInt fine.toInt coarse.toInt positive wide nested
  have stop_low := below_nested stop.toInt fine.toInt coarse.toInt positive wide nested
  have stop_high := above_nested stop.toInt fine.toInt coarse.toInt positive wide nested
  have start_below := below_le start.toInt fine.toInt positive
  have stop_above := le_above stop.toInt fine.toInt positive
  have low_fits : Bounded.least ≤ low.toInt := low.le_toInt
  have high_fits : high.toInt ≤ Bounded.greatest := Int.le_of_lt_add_one high.toInt_lt
  have start_fits : start.toInt ≤ Bounded.greatest := Int.le_of_lt_add_one start.toInt_lt
  have stop_fits : Bounded.least ≤ stop.toInt := stop.le_toInt
  obtain ⟨first, first_below⟩ := Bounded.fitting (below start.toInt fine.toInt) (by omega) (by omega)
  obtain ⟨last, last_above⟩ := Bounded.fitting (above stop.toInt fine.toInt) (by omega) (by omega)
  have divides : fine.toInt ∣ last.toInt - first.toInt := by
    rw [first_below, last_above]
    exact Int.dvd_sub (above_divides _ _) (below_divides _ _)
  have room : last.toInt - first.toInt ≤ Bounded.greatest := by
    have zero : (0 : Int) ≤ Bounded.greatest := by decide
    rcases (count_ok coarse wide low high n).mp counted with ⟨inverted, _⟩ | ⟨_, spans, _⟩
    · omega
    · omega
  obtain ⟨m, buckets, whole⟩ := count_aligned fine positive first last divides room
  have again : align? first last coarse = some (low, high) := by
    refine (align_some coarse wide first last low high).mpr ⟨?_, ?_, ?_⟩
    · rw [first_below, below_below start.toInt fine.toInt coarse.toInt positive wide nested, low_below]
    · have lowest := below_divides stop.toInt coarse.toInt
      have later := below_le stop.toInt coarse.toInt wide
      have := le_below last.toInt coarse.toInt wide _ lowest (by omega)
      omega
    · rw [last_above, above_above stop.toInt fine.toInt coarse.toInt positive wide nested, high_above]
  exact ⟨first, last, m, (align_some fine positive start stop first last).mpr ⟨first_below, by omega, last_above⟩,
    buckets, again, whole⟩

end Grid

end TargetEval

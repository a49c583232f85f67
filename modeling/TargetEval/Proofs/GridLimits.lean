import TargetEval.Proofs.BucketContents

set_option autoImplicit false

namespace TargetEval

theorem Bounded.fits_value (x : Int64) : Fits x.toInt := ⟨x.le_toInt, Int.le_of_lt_add_one x.toInt_lt⟩

theorem Bounded.of_int_none (n : Int) : ofInt? n = none ↔ ¬ Fits n := by
  unfold ofInt? Fits
  split
  next fits => simp [fits]
  next large => simp [large]

inductive Trap where
  | overflow
  | zeroDivisor
deriving DecidableEq, Repr

namespace Trap

def word (n : Int) : Except Trap Int64 :=
  match Bounded.ofInt? n with
  | some x => .ok x
  | none => .error .overflow

def sum (a b : Int64) : Except Trap Int64 := word (a.toInt + b.toInt)

def quotient (a b : Int64) : Except Trap Int64 := if b = 0 then .error .zeroDivisor else word (a.toInt.tdiv b.toInt)

def rest (a b : Int64) : Except Trap Int64 := do
  let _ ← quotient a b
  word (a.toInt.tmod b.toInt)

theorem word_ok (n : Int) (fits : Bounded.Fits n) : ∃ x : Int64, word n = .ok x ∧ x.toInt = n := by
  obtain ⟨x, value⟩ := Bounded.fitting n fits.1 fits.2
  have held := (Bounded.of_int_some n x).mpr value
  exact ⟨x, by rw [word, held], value⟩

section

variable (a b : Int64) (positive : 0 < b.toInt)

include positive

theorem quotient_ok : ∃ q : Int64, quotient a b = .ok q ∧ q.toInt = a.toInt.tdiv b.toInt := by
  have smaller := Int.natAbs_tdiv_le_natAbs a.toInt b.toInt
  have fits : Bounded.Fits (a.toInt.tdiv b.toInt) := by
    have low := a.le_toInt
    have high := a.toInt_lt
    simp only [Bounded.Fits, Bounded.least, Bounded.greatest]
    rcases Int.le_total 0 a.toInt with forward | backward
    · have := Int.tdiv_nonneg forward positive.le
      omega
    · have mirrored := Int.tdiv_nonneg (Int.neg_nonneg_of_nonpos backward) positive.le
      rw [Int.neg_tdiv] at mirrored
      omega
  obtain ⟨q, ok, value⟩ := word_ok _ fits
  exact ⟨q, by rw [quotient, if_neg (Grid.nonzero b positive), ok], value⟩

theorem rest_ok : ∃ r : Int64, rest a b = .ok r ∧ r.toInt = a.toInt.tmod b.toInt := by
  have fits : Bounded.Fits (a.toInt.tmod b.toInt) := by
    have size := Int.natAbs_tmod a.toInt b.toInt
    have less := Nat.mod_lt a.toInt.natAbs (Int.natAbs_pos.mpr (Int.ne_of_gt positive))
    have bound := b.toInt_lt
    simp only [Bounded.Fits, Bounded.least, Bounded.greatest]
    omega
  obtain ⟨q, divided, _⟩ := quotient_ok a b positive
  obtain ⟨r, ok, value⟩ := word_ok _ fits
  exact ⟨r, by rw [rest, divided]; exact ok, value⟩

end

end Trap

namespace Grid

namespace Words

def excess (time width : Seconds) : Except Trap Seconds := do
  let left ← Trap.rest time width
  if left < 0 then Trap.sum left width else return left

def floor (time width : Seconds) : Except Trap (Option Seconds) := do
  let excess ← excess time width
  return Bounded.ofInt? (time.toInt - excess.toInt)

def align (start stop width : Seconds) : Except Trap (Option (Seconds × Seconds)) := do
  let some low ← floor start width | return none
  let some below ← floor stop width | return none
  if below = stop then return some (low, below)
  return (Bounded.ofInt? (below.toInt + width.toInt)).map fun high => (low, high)

def count (start stop width : Seconds) : Except Trap (Option Nat) := do
  if stop ≤ start then return some 0
  let some span := Bounded.ofInt? (stop.toInt - start.toInt) | return none
  let whole ← Trap.quotient span width
  let left ← Trap.rest span width
  let n ← Trap.sum whole (if left = 0 then 0 else 1)
  return if n < 0 then none else some n.toInt.toNat

end Words

def bucketsIn (span width : Int) : Int :=
  if span.tmod width = 0 then span.tdiv width else span.tdiv width + 1

section

variable (width : Seconds) (positive : 0 < width.toInt)

include positive

theorem excess_ok (time : Seconds) :
    ∃ r : Seconds, Words.excess time width = .ok r ∧ r.toInt = time.toInt % width.toInt := by
  obtain ⟨left, ok, value⟩ := Trap.rest_ok time width positive
  have low := Int.emod_nonneg time.toInt (Int.ne_of_gt positive)
  have high := Int.emod_lt_of_pos time.toInt positive
  rw [Int.tmod_eq_emod] at value
  unfold Words.excess
  rw [ok]
  by_cases negative : left < 0
  · have sign := Int64.lt_iff_toInt_lt.mp negative
    rw [Int64.toInt_zero] at sign
    have sum : left.toInt + width.toInt = time.toInt % width.toInt := by
      split at value <;> omega
    have held := (Bounded.fits_value width).2
    have fits : Bounded.Fits (left.toInt + width.toInt) := by
      rw [sum]
      exact ⟨Int.le_trans (by decide) low, by omega⟩
    obtain ⟨r, summed, rest⟩ := Trap.word_ok _ fits
    exact ⟨r, (if_pos negative).trans summed, rest.trans sum⟩
  · have sign : ¬ left.toInt < 0 := fun less => negative (Int64.lt_iff_toInt_lt.mpr (Int64.toInt_zero ▸ less))
    exact ⟨left, if_neg negative, by split at value <;> omega⟩

theorem floor_ok (time : Seconds) : Words.floor time width = .ok (floor? time width) := by
  obtain ⟨r, ok, value⟩ := excess_ok width positive time
  rw [floor_below width positive, Words.floor, ok, below, ← value]
  rfl

theorem words_align (start stop : Seconds) : Words.align start stop width = .ok (align? start stop width) := by
  unfold Words.align align? ceiling?
  rw [floor_ok width positive, floor_ok width positive]
  cases floor? start width with
  | none => rfl
  | some low =>
      cases floor? stop width with
      | none => rfl
      | some below =>
          by_cases aligned : below = stop
          · simp [aligned, bind, Except.bind, pure, Except.pure]
          · simp [aligned, bind, Except.bind, pure, Except.pure, Option.map_eq_bind]

theorem buckets_bounds (span : Seconds) (forward : 0 ≤ span.toInt) :
    0 ≤ bucketsIn span.toInt width.toInt ∧ bucketsIn span.toInt width.toInt ≤ span.toInt := by
  obtain ⟨counted, buckets⟩ := count_above span.toInt width.toInt positive forward
  change 0 ≤ bucketsIn span.toInt width.toInt at counted
  change bucketsIn span.toInt width.toInt * width.toInt = _ at buckets
  have short := above_lt span.toInt width.toInt positive
  refine ⟨counted, ?_⟩
  by_contra many
  nlinarith

theorem words_buckets (span : Seconds) (forward : 0 ≤ span.toInt) :
    ∃ whole left n : Seconds, Trap.quotient span width = .ok whole ∧ Trap.rest span width = .ok left ∧
      Trap.sum whole (if left = 0 then 0 else 1) = .ok n ∧ n.toInt = bucketsIn span.toInt width.toInt := by
  obtain ⟨whole, divided, quotient⟩ := Trap.quotient_ok span width positive
  obtain ⟨left, remains, rest⟩ := Trap.rest_ok span width positive
  have full : left = 0 ↔ span.toInt.tmod width.toInt = 0 := by rw [← rest, ← Int64.toInt_inj, Int64.toInt_zero]
  have carried : whole.toInt + (if left = 0 then 0 else 1 : Seconds).toInt = bucketsIn span.toInt width.toInt := by
    rw [quotient, bucketsIn]
    by_cases exactly : left = 0
    · rw [if_pos exactly, if_pos (full.mp exactly), Int64.toInt_zero, Int.add_zero]
    · rw [if_neg exactly, if_neg (full.not.mp exactly)]
      rfl
  obtain ⟨counted, few⟩ := buckets_bounds width positive span forward
  have fits : Bounded.Fits (bucketsIn span.toInt width.toInt) :=
    ⟨Int.le_trans (by decide) counted, Int.le_trans few (Bounded.fits_value span).2⟩
  obtain ⟨n, summed, value⟩ := Trap.word_ok _ fits
  exact ⟨whole, left, n, divided, remains, by rw [Trap.sum, carried, summed], value⟩

theorem words_count (start stop : Seconds) : Words.count start stop width = .ok (count start stop width).toOption := by
  unfold Words.count count
  by_cases inverted : stop ≤ start
  · rw [if_pos inverted, if_pos inverted]
    rfl
  · rw [if_neg inverted, if_neg inverted]
    rw [Int64.le_iff_toInt_le] at inverted
    cases spanned : Bounded.ofInt? (stop.toInt - start.toInt) with
    | none => rfl
    | some span =>
        have length := (Bounded.of_int_some _ _).mp spanned
        have onward : 0 ≤ span.toInt := by omega
        obtain ⟨whole, left, n, divided, remains, summed, value⟩ := words_buckets width positive span onward
        have counted := (buckets_bounds width positive span onward).1
        have sign : ¬ n < 0 := by
          rw [Int64.lt_iff_toInt_lt, Int64.toInt_zero]
          omega
        simp only [divided, remains, summed, bind, Except.bind, if_neg (nonzero width positive), if_neg sign]
        change _ = Except.ok (if bucketsIn span.toInt width.toInt < 0 then .error .unrepresentable
          else .ok (bucketsIn span.toInt width.toInt).toNat : Except Fault Nat).toOption
        rw [if_neg (Int.not_lt.mpr counted), value]
        rfl

end

theorem count_unfit (start stop width : Seconds) (forward : start.toInt ≤ stop.toInt)
    (unfit : ¬ Bounded.Fits (stop.toInt - start.toInt)) : count start stop width = .error .unrepresentable := by
  have onward : ¬ stop ≤ start := by
    intro inverted
    have := Int64.le_iff_toInt_le.mp inverted
    have same : stop.toInt - start.toInt = 0 := by omega
    exact unfit (same ▸ by decide)
  rw [count, if_neg onward, (Bounded.of_int_none _).mpr unfit]

section

variable (start stop width : Seconds) (forward : start.toInt ≤ stop.toInt) (positive : 0 < width.toInt)

include forward positive

theorem below_forward : below start.toInt width.toInt ≤ below stop.toInt width.toInt := by
  have early := below_le start.toInt width.toInt positive
  exact le_below stop.toInt width.toInt positive _ (below_divides _ _) (by omega)

theorem align_iff (first last : Seconds) :
    align? start stop width = some (first, last) ↔
      first.toInt = below start.toInt width.toInt ∧ last.toInt = above stop.toInt width.toInt := by
  rw [align_some width positive]
  constructor
  · rintro ⟨low, _, high⟩
    exact ⟨low, high⟩
  · rintro ⟨low, high⟩
    have later := below_forward start stop width forward positive
    have least := (Bounded.fits_value first).1
    exact ⟨low, by omega, high⟩

theorem align_none :
    align? start stop width = none ↔
      ¬ (Bounded.Fits (below start.toInt width.toInt) ∧ Bounded.Fits (above stop.toInt width.toInt)) := by
  constructor
  · rintro failed ⟨low, high⟩
    obtain ⟨first, low⟩ := Bounded.fitting _ low.1 low.2
    obtain ⟨last, high⟩ := Bounded.fitting _ high.1 high.2
    rw [(align_iff start stop width forward positive first last).mpr ⟨low, high⟩] at failed
    cases failed
  · intro unfit
    cases aligned : align? start stop width with
    | none => rfl
    | some span =>
        obtain ⟨low, high⟩ := (align_iff start stop width forward positive span.1 span.2).mp aligned
        exact absurd ⟨low ▸ Bounded.fits_value span.1, high ▸ Bounded.fits_value span.2⟩ unfit

theorem aligned_forward (first last : Seconds) (aligned : align? start stop width = some (first, last)) :
    first.toInt ≤ last.toInt := by
  obtain ⟨low, high⟩ := (align_iff start stop width forward positive first last).mp aligned
  have := below_le start.toInt width.toInt positive
  have := le_above stop.toInt width.toInt positive
  omega

theorem align_again (first last : Seconds) (aligned : align? start stop width = some (first, last)) :
    align? first last width = some (first, last) := by
  have onward := aligned_forward start stop width forward positive first last aligned
  obtain ⟨low, high⟩ := (align_iff start stop width forward positive first last).mp aligned
  rw [align_iff first last width onward positive]
  constructor
  · rw [low, below_below _ _ _ positive positive (Int.dvd_refl _)]
  · rw [high, above_above _ _ _ positive positive (Int.dvd_refl _)]

theorem count_exact (divides : width.toInt ∣ stop.toInt - start.toInt) (fits : Bounded.Fits (stop.toInt - start.toInt)) :
    ∃ n, count start stop width = .ok n ∧ n * width.toInt = stop.toInt - start.toInt := by
  obtain ⟨n, counted, whole⟩ := count_aligned width positive start stop divides fits.2
  refine ⟨n, counted, ?_⟩
  rcases (count_ok width positive start stop n).mp counted with ⟨inverted, rfl⟩ | ⟨later, _⟩
  · rw [Int.natCast_zero, Int.zero_mul]
    omega
  · exact whole later

end

/-- A span that is not inverted is rounded outward to the nearest multiples of the width, unless 64 bits
do not hold both. Between those there are exactly as many buckets as the width goes into their distance,
unless 64 bits do not hold that; and rounding them again leaves them where they are. Words that stop on
overflow and on a zero divisor give the same as integers. -/
theorem aligned_to_limits (start stop width : Seconds) (forward : start ≤ stop) (positive : 0 < width) :
    ∃ low high : Int,
      IsGreatest {m : Int | width.toInt ∣ m ∧ m ≤ start.toInt} low ∧
      IsLeast {m : Int | width.toInt ∣ m ∧ stop.toInt ≤ m} high ∧
      (∀ first last, align? start stop width = some (first, last) ↔ first.toInt = low ∧ last.toInt = high) ∧
      (align? start stop width = none ↔ ¬ (Bounded.Fits low ∧ Bounded.Fits high)) ∧
      (∀ first last, align? start stop width = some (first, last) →
        (Bounded.Fits (high - low) → ∃ n, count first last width = .ok n ∧ n * width.toInt = high - low) ∧
        (¬ Bounded.Fits (high - low) → count first last width = .error .unrepresentable) ∧
        align? first last width = some (first, last)) ∧
      Words.align start stop width = .ok (align? start stop width) ∧
      ∀ first last, Words.count first last width = .ok (count first last width).toOption := by
  have ordered := Int64.le_iff_toInt_le.mp forward
  have wide : 0 < width.toInt := Int64.lt_iff_toInt_lt.mp positive
  refine ⟨below start.toInt width.toInt, above stop.toInt width.toInt, below_greatest _ _ wide, above_least _ _ wide,
    align_iff start stop width ordered wide, align_none start stop width ordered wide, ?_,
    words_align width wide start stop, words_count width wide⟩
  intro first last aligned
  have onward := aligned_forward start stop width ordered wide first last aligned
  have again := align_again start stop width ordered wide first last aligned
  obtain ⟨low, high⟩ := (align_iff start stop width ordered wide first last).mp aligned
  rw [← low, ← high]
  refine ⟨fun fits => ?_, count_unfit first last width onward, again⟩
  refine count_exact first last width onward wide ?_ fits
  rw [low, high]
  exact Int.dvd_sub (above_divides _ _) (below_divides _ _)

theorem widest_aligned :
    (-5 : Seconds) ≤ 9223372036854775793 ∧ (0 : Seconds) < 8 ∧
      align? (-5) 9223372036854775793 8 = some (-8, 9223372036854775800) ∧
      align? (-8) 9223372036854775800 8 = some (-8, 9223372036854775800) ∧
      count (-8) 9223372036854775800 8 = .error .unrepresentable ∧
      Words.count (-8) 9223372036854775800 8 = .ok none := by
  have aligned : align? (-5) 9223372036854775793 8 = some (-8, 9223372036854775800) := by decide
  obtain ⟨low, high, _, _, bounds, _, exactly, _, words⟩ :=
    aligned_to_limits (-5) 9223372036854775793 8 (by decide) (by decide)
  obtain ⟨_, unfit, again⟩ := exactly _ _ aligned
  obtain ⟨rfl, rfl⟩ := (bounds _ _).mp aligned
  have counted := unfit (by decide)
  exact ⟨by decide, by decide, aligned, again, counted, (words _ _).trans (by rw [counted]; rfl)⟩

end Grid

end TargetEval

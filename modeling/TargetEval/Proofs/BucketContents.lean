import Mathlib.Algebra.Order.Floor.Semiring
import Mathlib.Data.Rat.Floor
import Mathlib.Order.Bounds.Basic
import TargetEval.Proofs.Rollups

set_option autoImplicit false

namespace TargetEval

theorem Grid.below_greatest (time width : Int) (positive : 0 < width) :
    IsGreatest {m : Int | width ∣ m ∧ m ≤ time} (below time width) :=
  ⟨⟨below_divides time width, below_le time width positive⟩,
    fun m ⟨divides, early⟩ => le_below time width positive m divides early⟩

theorem Grid.above_least (time width : Int) (positive : 0 < width) :
    IsLeast {m : Int | width ∣ m ∧ time ≤ m} (above time width) :=
  ⟨⟨above_divides time width, le_above time width positive⟩,
    fun m ⟨divides, late⟩ => above_le time width positive m divides late⟩

theorem Grid.count_ceiling (width : Seconds) (positive : 0 < width.toInt) (start stop : Seconds) (n : Nat)
    (counted : count start stop width = .ok n) :
    n = ⌈((stop.toInt - start.toInt : Int) : ℚ) / width.toInt⌉₊ := by
  have wide : (0 : ℚ) < width.toInt := Int.cast_pos.mpr positive
  rcases (count_ok width positive start stop n).mp counted with ⟨inverted, rfl⟩ | ⟨forward, _, buckets⟩
  · have span : ((stop.toInt - start.toInt : Int) : ℚ) ≤ 0 := Int.cast_nonpos.mpr (by omega)
    exact (Nat.ceil_eq_zero.mpr (div_nonpos_of_nonpos_of_nonneg span wide.le)).symm
  · have covered := le_above (stop.toInt - start.toInt) width.toInt positive
    have short := above_lt (stop.toInt - start.toInt) width.toInt positive
    have occupied : n ≠ 0 := by
      rintro rfl
      rw [Int.natCast_zero, Int.zero_mul] at buckets
      omega
    have last : ((n - 1 : ℕ) : Int) * width.toInt < stop.toInt - start.toInt := by
      rw [Int.natCast_sub (Nat.one_le_iff_ne_zero.mpr occupied), Int.sub_mul]
      omega
    refine ((Nat.ceil_eq_iff occupied).mpr ⟨?_, ?_⟩).symm
    · rw [lt_div_iff₀ wide]
      exact_mod_cast last
    · rw [div_le_iff₀ wide]
      exact_mod_cast buckets ▸ covered

theorem Reducer.point_folded (r : Reducer) (values : List Float) : r.point? values = Series.folded r.reduce values := by
  cases values with
  | nil => exact r.point_of_nothing
  | cons v rest => rfl

namespace Series

def presentIn (s : Series) (low high : Int) : List Float :=
  (List.range s.size).filterMap fun i => if low ≤ s.time i ∧ s.time i < high then s.get? i else none

theorem between_indexed (low high step : Int) (points : List (Option Float)) :
    ∀ (time : Int) (n : Nat), points.length ≤ n →
      between low high (timed step time points) =
        (List.range n).filterMap fun i : Nat =>
          if low ≤ time + i * step ∧ time + i * step < high then (points[i]?).join else none := by
  induction points with
  | nil =>
      intro time n _
      rw [timed, between_none low high [] (by simp), eq_comm, List.filterMap_eq_nil_iff]
      intro i _
      simp
  | cons p rest ih =>
      intro time n room
      cases n with
      | zero => cases room
      | succ n =>
          have later := ih (time + step) n (Nat.le_of_succ_le_succ room)
          have behind : ∀ i : Nat, time + step + i * step = time + ((i + 1 : ℕ) : Int) * step := by
            intro i
            rw [Int.natCast_succ, Int.add_mul]
            omega
          simp only [behind] at later
          rw [between_point, later, List.range_succ_eq_map, List.filterMap_cons, List.filterMap_map]
          by_cases inside : low ≤ time ∧ time < high
          · cases p with
            | none => simp [inside]
            | some v => simp [inside]
          · simp [inside]

theorem present_in_entries (s : Series) (low high : Int) : s.presentIn low high = between low high s.entries := by
  rw [entries, between_indexed low high s.step.toInt s.points s.start.toInt s.size s.points_room]
  simp only [presentIn, time, get?_eq_points]

theorem buckets_joined (values : List (Int × Float)) (ordered : values.Pairwise fun first second => first.1 ≤ second.1)
    (start stop width : Int) (positive : 0 < width) (n : Nat) :
    ((List.range n).map fun k : Nat =>
        between (start + k * width) (min (start + (k + 1) * width) stop) values).flatten =
      between start (min (start + n * width) stop) values := by
  induction n with
  | zero =>
      rw [between_inverted start _ values (by rw [Int.natCast_zero, Int.zero_mul]; omega)]
      rfl
  | succ n ih =>
      have room : 0 ≤ (n : Int) * width := Int.mul_nonneg (Int.natCast_nonneg n) positive.le
      have next : ((n + 1 : ℕ) : Int) * width = n * width + width := by rw [Int.natCast_succ, Int.add_mul, Int.one_mul]
      have last : ((n : Int) + 1) * width = n * width + width := by rw [Int.add_mul, Int.one_mul]
      rw [List.range_succ, List.map_append, List.flatten_append, ih, next]
      simp only [List.map_cons, List.map_nil, List.flatten_cons, List.flatten_nil, List.append_nil, last]
      by_cases reached : start + n * width ≤ stop
      · rw [between_split values ordered start (start + n * width) (min (start + (n * width + width)) stop) (by omega)
          (by omega), Int.min_eq_left reached]
      · rw [between_inverted (start + n * width) _ values (by omega), List.append_nil, Int.min_eq_right (by omega),
          Int.min_eq_right (by omega)]

section

variable (s : Series) (shaped : s.Shaped) (width : Seconds) (fine : s.step ≤ width)

include shaped fine

theorem bucket_width_positive : 0 < width.toInt := by
  have forward := s.step_positive shaped
  have within := Int64.le_iff_toInt_le.mp fine
  omega

theorem grid_opens (fromStart : Bool) (start stop : Seconds) (spanned : s.bucketSpan? width fromStart = some (start, stop)) :
    start.toInt ≤ s.start.toInt ∧ s.start.toInt < start.toInt + width.toInt ∧
      (start.toInt < stop.toInt → s.start.toInt < stop.toInt) := by
  have positive := s.bucket_width_positive shaped width fine
  cases fromStart with
  | true =>
      cases spanned
      exact ⟨Int.le_refl _, by omega, id⟩
  | false =>
      obtain ⟨low, _, high⟩ := (Grid.align_some width positive _ _ _ _).mp spanned
      have opened := Grid.below_le s.start.toInt width.toInt positive
      have inside := Grid.lt_below s.start.toInt width.toInt positive
      refine ⟨by omega, by omega, fun forward => ?_⟩
      have apart := Grid.multiple_before width.toInt start.toInt stop.toInt (low ▸ Grid.below_divides _ _)
        (high ▸ Grid.above_divides _ _) forward
      omega

theorem grid_span (fromStart : Bool) (start stop : Seconds) (spanned : s.bucketSpan? width fromStart = some (start, stop)) :
    if fromStart then start = s.start ∧ stop = s.stop
    else
      IsGreatest {m : Int | width.toInt ∣ m ∧ m ≤ s.start.toInt} start.toInt ∧
        IsLeast {m : Int | width.toInt ∣ m ∧ s.stop.toInt ≤ m} stop.toInt := by
  have positive := s.bucket_width_positive shaped width fine
  cases fromStart with
  | true =>
      cases spanned
      exact ⟨rfl, rfl⟩
  | false =>
      obtain ⟨low, _, high⟩ := (Grid.align_some width positive _ _ _ _).mp spanned
      exact ⟨low ▸ Grid.below_greatest _ _ positive, high ▸ Grid.above_least _ _ positive⟩

theorem grid_points (fromStart : Bool) (start stop : Seconds) (spanned : s.bucketSpan? width fromStart = some (start, stop))
    (n : Nat) (counted : Grid.count start stop width = .ok n) (r : Reducer) :
    s.bucketPoints start stop width n r =
      (List.range n).map fun k : Nat =>
        folded r.reduce
          (s.presentIn (start.toInt + k * width.toInt) (min (start.toInt + (k + 1) * width.toInt) stop.toInt)) := by
  have positive := s.bucket_width_positive shaped width fine
  have forward := s.step_positive shaped
  obtain ⟨opened, inside, early⟩ := s.grid_opens shaped width fine fromStart start stop spanned
  simp only [present_in_entries, ← Reducer.point_folded]
  rcases (Grid.count_ok width positive start stop n).mp counted with ⟨_, rfl⟩ | ⟨before, _, _⟩
  · rw [bucket_points_held]
    rfl
  · exact s.bucket_points_fold start stop width n r forward (Int64.le_iff_toInt_le.mp fine) opened inside
      (.inl (early before))

theorem grid_holds (fromStart : Bool) (start stop : Seconds) (spanned : s.bucketSpan? width fromStart = some (start, stop))
    (n : Nat) (counted : Grid.count start stop width = .ok n) :
    ((List.range n).map fun k : Nat =>
        s.presentIn (start.toInt + k * width.toInt) (min (start.toInt + (k + 1) * width.toInt) stop.toInt)).flatten =
      s.presentIn s.start.toInt stop.toInt := by
  have positive := s.bucket_width_positive shaped width fine
  have forward := (s.step_positive shaped).le
  obtain ⟨opened, _, early⟩ := s.grid_opens shaped width fine fromStart start stop spanned
  have times := timed_from s.step.toInt s.start.toInt s.points forward
  simp only [present_in_entries]
  rw [buckets_joined s.entries (timed_ordered _ _ _ forward) start.toInt stop.toInt width.toInt positive n]
  rcases (Grid.count_ok width positive start stop n).mp counted with ⟨inverted, rfl⟩ | ⟨_, _, buckets⟩
  · rw [between_inverted _ _ _ (by omega), between_inverted _ _ _ (by omega)]
  · have covered := Grid.le_above (stop.toInt - start.toInt) width.toInt positive
    rw [Int.min_eq_right (by omega)]
    refine between_same _ _ _ _ _ fun entry member => ?_
    have := times entry member
    omega

end

/-- A series that is not coarser than the buckets is rolled up to the grid that covers its span, from
its own start or outward to multiples of the width. Each point of the result is the fold of the present
values whose times lie in its bucket and before the end of the grid, and is absent if there are none or
their fold is NaN. All buckets together hold the present values before the end of the grid, each once
and in order. -/
theorem points_in_their_buckets (s : Series) (shaped : s.absent.size = s.values.size ∧ 0 < s.step) (name : String)
    (width : Seconds) (fine : s.step ≤ width) (r : Reducer) (fromStart : Bool) (result : Series)
    (rolled : s.summarize name width r fromStart = .ok result) :
    let bucket (k : Nat) : List Float :=
      s.presentIn (result.start.toInt + k * width.toInt)
        (min (result.start.toInt + (k + 1) * width.toInt) result.stop.toInt)
    result.name = name ∧ result.step = width ∧
    (if fromStart then result.start = s.start ∧ result.stop = s.stop
      else
        IsGreatest {m : Int | width.toInt ∣ m ∧ m ≤ s.start.toInt} result.start.toInt ∧
          IsLeast {m : Int | width.toInt ∣ m ∧ s.stop.toInt ≤ m} result.stop.toInt) ∧
    result.size = ⌈((result.stop.toInt - result.start.toInt : Int) : ℚ) / width.toInt⌉₊ ∧
    result.points = (List.range result.size).map (fun k => folded r.reduce (bucket k)) ∧
    ((List.range result.size).map bucket).flatten = s.presentIn s.start.toInt result.stop.toInt := by
  have positive := s.bucket_width_positive shaped width fine
  rw [summarize_fine s name width r fromStart (Int64.not_lt.mpr fine)] at rolled
  cases spanned : s.bucketSpan? width fromStart with
  | none => simp [spanned] at rolled
  | some span =>
      obtain ⟨start, stop⟩ := span
      cases counted : Grid.count start stop width with
      | error fault => simp [spanned, counted] at rolled
      | ok n =>
          simp only [spanned, counted, Except.ok.injEq] at rolled
          subst rolled
          have size : (spanning name start stop width (s.bucketPoints start stop width n r)).size = n :=
            (spanning_sizes _ _ _ _ _).1.trans (s.bucket_points_length start stop width n r)
          refine ⟨rfl, rfl, s.grid_span shaped width fine fromStart start stop spanned, ?_, ?_, ?_⟩
          · exact size.trans (Grid.count_ceiling width positive start stop n counted)
          · rw [size, points_spanning]
            exact s.grid_points shaped width fine fromStart start stop spanned n counted r
          · rw [size]
            exact s.grid_holds shaped width fine fromStart start stop spanned n counted

def cutOff : Series := { ofPoints "a" 5 7 [some 1.0, some 2.0, none, some 4.0, some 8.0, some 16.0] with stop := 37 }

theorem cut_off_in_buckets :
    cutOff.summarize "tens" 10 .sum false = .ok (spanning "tens" 0 40 10 [some 1.0, some 2.0, some 4.0, some 8.0]) ∧
      (cutOff.absent.size = cutOff.values.size ∧ 0 < cutOff.step) ∧ cutOff.step ≤ 10 ∧
      IsLeast {m : Int | 10 ∣ m ∧ 37 ≤ m} 40 ∧ cutOff.presentIn 10 20 = [2.0] ∧
      cutOff.presentIn 5 40 = [1.0, 2.0, 4.0, 8.0] := by
  have rolled : cutOff.summarize "tens" 10 .sum false =
      .ok (spanning "tens" 0 40 10 [some 1.0, some 2.0, some 4.0, some 8.0]) := by
    decide +kernel
  have shaped : cutOff.absent.size = cutOff.values.size ∧ 0 < cutOff.step := by decide
  obtain ⟨_, _, span, _, _, held⟩ :=
    points_in_their_buckets cutOff shaped "tens" 10 (by decide) .sum false _ rolled
  exact ⟨rolled, shaped, by decide, span.2, by decide +kernel, held.symm.trans (by decide +kernel)⟩

end Series

end TargetEval

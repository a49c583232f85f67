import TargetEval.Proofs.Buckets
import TargetEval.Proofs.Timestamps

set_option autoImplicit false

namespace TargetEval.Series

theorem timed_ordered (step time : Int) (points : List (Option Float)) (forward : 0 ≤ step) :
    (timed step time points).Pairwise fun first second => first.1 ≤ second.1 := by
  induction points generalizing time with
  | nil => exact List.Pairwise.nil
  | cons p rest ih =>
      cases p with
      | none => exact ih (time + step)
      | some v =>
          refine List.Pairwise.cons (fun entry member => ?_) (ih (time + step))
          have := timed_from step (time + step) rest forward entry member
          change time ≤ entry.1
          omega

theorem between_split (values : List (Int × Float)) (ordered : values.Pairwise fun first second => first.1 ≤ second.1)
    (low middle high : Int) (lower : low ≤ middle) (upper : middle ≤ high) :
    between low high values = between low middle values ++ between middle high values := by
  induction values with
  | nil => rfl
  | cons entry rest ih =>
      obtain ⟨later, ordered⟩ := List.pairwise_cons.mp ordered
      by_cases early : entry.1 < middle
      · have same := ih ordered
        by_cases inside : low ≤ entry.1
        · have long : low ≤ entry.1 ∧ entry.1 < high := by omega
          have short : low ≤ entry.1 ∧ entry.1 < middle := by omega
          have second : ¬ (middle ≤ entry.1 ∧ entry.1 < high) := by omega
          simpa [between, long, short, second] using same
        · simpa [between, inside, Int.not_le.mpr early] using same
      · -- From here on everything lies in the second part.
        have first := between_none low middle (entry :: rest) fun other member => by
          rcases List.mem_cons.mp member with rfl | tail
          · omega
          · have := later other tail
            omega
        rw [first, List.nil_append]
        refine congrArg (List.map Prod.snd) (List.filter_congr fun other member => ?_)
        have onward : middle ≤ other.1 := by
          rcases List.mem_cons.mp member with rfl | tail
          · omega
          · have := later other tail
            omega
        simp [onward, Int.le_trans lower onward]

theorem between_same (low high low' high' : Int) (values : List (Int × Float))
    (same : ∀ entry ∈ values, low ≤ entry.1 ∧ entry.1 < high ↔ low' ≤ entry.1 ∧ entry.1 < high') :
    between low high values = between low' high' values := by
  refine congrArg (List.map Prod.snd) (List.filter_congr fun entry member => ?_)
  simp only [same entry member]

theorem between_inverted (low high : Int) (values : List (Int × Float)) (inverted : high ≤ low) :
    between low high values = [] :=
  between_none low high values fun entry _ => by omega

def starts (width : Int) : (first : Int) → Nat → List Int
  | _, 0 => []
  | first, n + 1 => first :: starts width (first + width) n

theorem starts_range (width first : Int) (n : Nat) :
    starts width first n = (List.range n).map fun k : Nat => first + k * width := by
  induction n generalizing first with
  | zero => rfl
  | succ n ih =>
      rw [starts, ih, List.range_succ_eq_map, List.map_cons, List.map_map]
      congr 1
      · simp
      · refine List.map_congr_left fun k _ => ?_
        simp [Int.add_mul]
        omega

section

variable (low high width : Int)

def inside (t : Int) : Bool := low ≤ t ∧ t < high

theorem between_starts (point : Int → Option Float) (first : Int) (n : Nat) :
    between low high (timed width first ((starts width first n).map point)) =
      ((starts width first n).filter (inside low high)).filterMap point := by
  induction n generalizing first with
  | zero => rfl
  | succ n ih =>
      rw [starts, List.map_cons, between_point, ih, List.filter_cons]
      by_cases here : low ≤ first ∧ first < high
      · cases folded : point first with
        | none => simp [inside, here, folded]
        | some v => simp [inside, here, folded]
      · simp [inside, here]

theorem buckets_between (values : List (Int × Float)) (ordered : values.Pairwise fun first second => first.1 ≤ second.1)
    (positive : 0 < width) (first : Int) (n : Nat) (from_low : width ∣ low - first) (to_high : width ∣ high - first) :
    (((starts width first n).filter (inside low high)).map fun t => between t (t + width) values).flatten =
      between (max low first) (min high (first + n * width)) values := by
  induction n generalizing first with
  | zero =>
      rw [between_inverted _ _ values (by rw [Int.natCast_zero, Int.zero_mul]; omega)]
      rfl
  | succ n ih =>
      have next := ih (first + width) (by simpa [Int.sub_sub] using Int.dvd_sub from_low (Int.dvd_refl width))
        (by simpa [Int.sub_sub] using Int.dvd_sub to_high (Int.dvd_refl width))
      have total : first + width + n * width = first + ((n + 1 : ℕ) : ℤ) * width := by
        rw [Int.natCast_succ, Int.add_mul]
        omega
      have room : 0 ≤ n * width := Int.mul_nonneg (Int.natCast_nonneg n) (Int.le_of_lt positive)
      rw [total] at next
      rw [starts, List.filter_cons]
      by_cases here : low ≤ first ∧ first < high
      · -- Both ends are a whole number of buckets away.
        have apart := Int.le_of_dvd (by omega) to_high
        have listed : inside low high first = true := by simp [inside, here]
        have split := between_split values ordered first (first + width)
          (min high (first + ((n + 1 : ℕ) : ℤ) * width)) (by omega) (by omega)
        rw [if_pos listed, List.map_cons, List.flatten_cons, next, Int.max_eq_right here.1, split,
          Int.max_eq_right (by omega)]
      · have unlisted : inside low high first = false := by simp [inside, here]
        rw [if_neg (by simp [unlisted]), next]
        by_cases later : first < low
        · have apart := Int.le_of_dvd (by omega) from_low
          rw [Int.max_eq_left (by omega), Int.max_eq_left (by omega)]
        · rw [between_inverted _ _ values (by omega), between_inverted _ _ values (by omega)]

end

def entries (s : Series) : List (Int × Float) := timed s.step.toInt s.start.toInt s.points

theorem timed_present (step time : Int) (points : List (Option Float)) :
    ∀ entry ∈ timed step time points, entry.2 ∈ points.filterMap id := by
  induction points generalizing time with
  | nil => simp [timed]
  | cons p rest ih =>
      cases p with
      | none => simpa [timed] using ih (time + step)
      | some v =>
          intro entry member
          rcases List.mem_cons.mp member with rfl | later
          · simp
          · have := ih (time + step) entry later
            simp only [id_eq] at this
            simp [this]

theorem timed_before (step time : Int) (points : List (Option Float)) (forward : 0 ≤ step) :
    ∀ entry ∈ timed step time points, entry.1 + step ≤ time + points.length * step := by
  induction points generalizing time with
  | nil => simp [timed]
  | cons p rest ih =>
      have spans : 0 ≤ (rest.length : Int) * step := Int.mul_nonneg (Int.natCast_nonneg _) forward
      have later : ∀ entry ∈ timed step (time + step) rest, entry.1 + step ≤ time + (p :: rest).length * step := by
        intro entry member
        have := ih (time + step) entry member
        rw [List.length_cons, Int.natCast_succ, Int.add_mul]
        omega
      cases p with
      | none => exact later
      | some v =>
          refine List.forall_mem_cons.mpr ⟨?_, later⟩
          rw [List.length_cons, Int.natCast_succ, Int.add_mul]
          omega

section

variable (s : Series) (shaped : s.Shaped) (covers : s.Covers)

include shaped covers

theorem covered_span : s.start.toInt < s.stop.toInt ∨ s.points = [] := by
  have positive := s.step_positive shaped
  rcases (Grid.count_ok s.step positive _ _ _).mp covers with ⟨_, empty⟩ | ⟨forward, _, _⟩
  · exact .inr (List.eq_nil_of_length_eq_zero ((s.flagged_length shaped.1.symm).trans empty))
  · exact .inl forward

theorem covered_times : ∀ entry ∈ s.entries, s.start.toInt ≤ entry.1 ∧ entry.1 < s.stop.toInt := by
  intro entry member
  have positive := s.step_positive shaped
  have early := timed_from _ _ _ (Int.le_of_lt positive) entry member
  have late := timed_before _ _ _ (Int.le_of_lt positive) entry member
  have length : s.points.length = s.values.size := s.flagged_length shaped.1.symm
  rw [length] at late
  refine ⟨early, ?_⟩
  rcases (Grid.count_ok s.step positive _ _ _).mp covers with ⟨_, empty⟩ | ⟨_, _, counted⟩
  · have none_left := List.eq_nil_of_length_eq_zero (length.trans empty)
    rw [entries, none_left] at member
    cases member
  · have := Grid.above_lt (s.stop.toInt - s.start.toInt) s.step.toInt positive
    omega

end

section

variable {r : Reducer} {numbers : Float → Prop} {join : Option Float → Option Float → Option Float}
  (composes : r.Composes numbers join)

include composes

theorem fold_of_buckets (values : List (Int × Float)) (all : ∀ entry ∈ values, numbers entry.2)
    (ordered : values.Pairwise fun first second => first.1 ≤ second.1) (low high width first : Int) (n : Nat)
    (positive : 0 < width) (from_low : width ∣ low - first) (to_high : width ∣ high - first)
    (covered : ∀ entry ∈ values, first ≤ entry.1 ∧ entry.1 < first + n * width) :
    r.point? (between low high (timed width first
        ((starts width first n).map fun t => r.point? (between t (t + width) values)))) =
      r.point? (between low high values) := by
  have whole := buckets_between low high width values ordered positive first n from_low to_high
  have clipped := between_same (max low first) (min high (first + n * width)) low high values fun entry member => by
    have := covered entry member
    omega
  -- The fine buckets whose start lies in the span are the parts of its values.
  have parts := Reducer.point_of_parts composes
    (((starts width first n).filter (inside low high)).map fun t => between t (t + width) values) ?_
  · rw [List.filterMap_map, whole, clipped] at parts
    rw [between_starts]
    exact parts
  · rw [whole, clipped]
    intro v member
    obtain ⟨entry, kept, rfl⟩ := List.mem_map.mp member
    exact all entry (List.mem_of_mem_filter kept)

end

theorem summarize_aligned (s : Series) (name : String) (width : Seconds) (r : Reducer) (result : Series)
    (fine : ¬ width < s.step) :
    s.summarize name width r false = .ok result ↔
      ∃ start stop n, Grid.align? s.start s.stop width = some (start, stop) ∧ Grid.count start stop width = .ok n ∧
        result = spanning name start stop width (s.bucketPoints start stop width n r) := by
  rw [summarize_fine s name width r false fine, bucketSpan?, if_neg Bool.false_ne_true]
  cases aligned : Grid.align? s.start s.stop width with
  | none => simp
  | some span =>
      obtain ⟨start, stop⟩ := span
      cases counted : Grid.count start stop width with
      | error fault => simp [counted]
      | ok n => simp [counted, eq_comm]

section

variable (s : Series) (shaped : s.Shaped) (covers : s.Covers) (width start stop : Seconds) (n : Nat) (r : Reducer)
  (within : s.step.toInt ≤ width.toInt) (aligned : Grid.align? s.start s.stop width = some (start, stop))

include shaped covers within aligned

theorem rolled_points :
    s.bucketPoints start stop width n r =
      (List.range n).map fun k : Nat =>
        r.point? (between (start.toInt + k * width.toInt) (min (start.toInt + (k + 1) * width.toInt) stop.toInt)
          s.entries) := by
  have forward := s.step_positive shaped
  obtain ⟨low, _, high⟩ := (Grid.align_some width (by omega) _ _ _ _).mp aligned
  have opened := Grid.below_le s.start.toInt width.toInt (by omega)
  have inside := Grid.lt_below s.start.toInt width.toInt (by omega)
  have closed := Grid.le_above s.stop.toInt width.toInt (by omega)
  refine s.bucket_points_fold start stop width n r forward within (by omega) (by omega) ?_
  exact (s.covered_span shaped covers).imp_left fun before => by omega

theorem rolled_starts :
    s.bucketPoints start stop width n r =
      (starts width.toInt start.toInt n).map fun t => r.point? (between t (t + width.toInt) s.entries) := by
  have forward := s.step_positive shaped
  obtain ⟨_, _, high⟩ := (Grid.align_some width (by omega) _ _ _ _).mp aligned
  have closed := Grid.le_above s.stop.toInt width.toInt (by omega)
  rw [s.rolled_points shaped covers width start stop n r within aligned, starts_range, List.map_map]
  refine List.map_congr_left fun k _ => congrArg r.point? (between_same _ _ _ _ _ fun entry member => ?_)
  have times := s.covered_times shaped covers entry member
  simp only [Int.add_mul]
  omega

end

theorem rolled_shape (name : String) (start stop width : Seconds) (points : List (Option Float))
    (positive : 0 < width) (counted : Grid.count start stop width = .ok points.length) :
    (spanning name start stop width points).Shaped ∧ (spanning name start stop width points).Covers :=
  ⟨shaped_spanning name start stop width points positive, covers_spanning name start stop width points counted⟩

theorem staged_points (s : Series) (shaped : s.Shaped) (covers : s.Covers) {r : Reducer} {numbers : Float → Prop}
    {join : Option Float → Option Float → Option Float} (composes : r.Composes numbers join)
    (all : ∀ v ∈ s.present, numbers v) (fine coarse : Seconds) (within : s.step.toInt ≤ fine.toInt)
    (wide : 0 < coarse.toInt) (nested : fine.toInt ∣ coarse.toInt) (start stop low high : Seconds) (m n : Nat)
    (fine_aligned : Grid.align? s.start s.stop fine = some (start, stop))
    (aligned : Grid.align? s.start s.stop coarse = some (low, high))
    (whole : start.toInt < stop.toInt → m * fine.toInt = stop.toInt - start.toInt)
    (middle : Series) (middle_shaped : middle.Shaped) (middle_covers : middle.Covers) (middle_step : middle.step = fine)
    (middle_start : middle.start = start) (middle_points : middle.points = s.bucketPoints start stop fine m r)
    (again : Grid.align? middle.start middle.stop coarse = some (low, high)) :
    middle.bucketPoints low high coarse n r = s.bucketPoints low high coarse n r := by
  have forward := s.step_positive shaped
  have smaller := Int.le_of_dvd wide nested
  obtain ⟨low_below, _, high_above⟩ := (Grid.align_some coarse wide _ _ _ _).mp aligned
  obtain ⟨start_below, _, stop_above⟩ := (Grid.align_some fine (by omega) _ _ _ _).mp fine_aligned
  have opened := Grid.below_le s.start.toInt fine.toInt (by omega)
  have closed := Grid.le_above s.stop.toInt fine.toInt (by omega)
  have from_start : fine.toInt ∣ start.toInt := start_below ▸ Grid.below_divides _ _
  have from_low : fine.toInt ∣ low.toInt := low_below ▸ Int.dvd_trans nested (Grid.below_divides _ _)
  have from_high : fine.toInt ∣ high.toInt := high_above ▸ Int.dvd_trans nested (Grid.above_divides _ _)
  have multiple : ∀ k : Int, fine.toInt ∣ low.toInt + k * coarse.toInt := fun k =>
    Int.dvd_add from_low (Int.dvd_trans nested (Int.dvd_mul_left _ _))
  have entries : middle.entries = timed fine.toInt start.toInt
      ((starts fine.toInt start.toInt m).map fun t => r.point? (between t (t + fine.toInt) s.entries)) := by
    rw [Series.entries, middle_step, middle_start, middle_points,
      s.rolled_starts shaped covers fine start stop m r within fine_aligned]
  rw [middle.rolled_points middle_shaped middle_covers coarse low high n r (middle_step ▸ smaller) again,
    s.rolled_points shaped covers coarse low high n r (by omega) aligned, entries]
  refine List.map_congr_left fun k _ => ?_
  refine fold_of_buckets composes s.entries (fun entry member => all _ (timed_present _ _ _ entry member))
    (timed_ordered _ _ _ (Int.le_of_lt forward)) _ _ _ _ m (by omega) (Int.dvd_sub (multiple k) from_start) ?_ ?_
  · refine Int.dvd_sub ?_ from_start
    rcases Int.le_total (low.toInt + (k + 1) * coarse.toInt) high.toInt with sooner | later
    · rw [Int.min_eq_left sooner]
      exact multiple (k + 1)
    · rw [Int.min_eq_right later]
      exact from_high
  · intro entry member
    have times := s.covered_times shaped covers entry member
    have spans := whole (by omega)
    omega

theorem rolled_in_stages (s : Series) (shaped : s.Shaped) (covers : s.Covers) {r : Reducer} {numbers : Float → Prop}
    {join : Option Float → Option Float → Option Float} (composes : r.Composes numbers join)
    (all : ∀ v ∈ s.present, numbers v) (fine coarse : Seconds) (within : s.step.toInt ≤ fine.toInt)
    (wide : 0 < coarse.toInt) (nested : fine.toInt ∣ coarse.toInt) (name first second : String) (direct : Series)
    (once : s.summarize name coarse r false = .ok direct) :
    ∃ middle, s.summarize first fine r false = .ok middle ∧
      middle.summarize second coarse r false = .ok (direct.renamed second) := by
  have forward := s.step_positive shaped
  have smaller := Int.le_of_dvd wide nested
  have positive : 0 < fine := Int64.lt_iff_toInt_lt.mpr (by rw [Int64.toInt_zero]; omega)
  have not_coarse : ¬ coarse < s.step := fun less => by
    have := Int64.lt_iff_toInt_lt.mp less
    omega
  have not_fine : ¬ fine < s.step := fun less => by
    have := Int64.lt_iff_toInt_lt.mp less
    omega
  have not_middle : ¬ coarse < fine := fun less => by
    have := Int64.lt_iff_toInt_lt.mp less
    omega
  obtain ⟨low, high, n, aligned, counted, rfl⟩ := (summarize_aligned s name coarse r direct not_coarse).mp once
  obtain ⟨start, stop, m, fine_aligned, fine_counted, again, whole⟩ :=
    Grid.align_in_stages fine coarse (by omega) wide nested s.start s.stop low high n aligned counted
  have length : (s.bucketPoints start stop fine m r).length = m := s.bucket_points_length start stop fine m r
  obtain ⟨middle_shaped, middle_covers⟩ :=
    rolled_shape first start stop fine (s.bucketPoints start stop fine m r) positive (length.symm ▸ fine_counted)
  have same := s.staged_points shaped covers composes all fine coarse within wide nested start stop low high m n
    fine_aligned aligned whole _ middle_shaped middle_covers rfl rfl (points_spanning _ _ _ _ _) again
  refine ⟨spanning first start stop fine (s.bucketPoints start stop fine m r), ?_, ?_⟩
  · exact (summarize_aligned s first fine r _ not_fine).mpr ⟨start, stop, m, fine_aligned, fine_counted, rfl⟩
  · refine (summarize_aligned _ second coarse r _ not_middle).mpr ⟨low, high, n, again, counted, ?_⟩
    rw [same]
    rfl

theorem rolled_renamed (s : Series) (width : Seconds) (r : Reducer) (name first second : String) (result : Series)
    (once : s.summarize name width r false = .ok result) :
    (s.renamed first).summarize second width r false = .ok (result.renamed second) := by
  by_cases coarse : width < s.step
  · have step : width < (s.renamed first).step := coarse
    rw [summarize, if_pos coarse] at once
    cases once
    rw [summarize, if_pos step]
    rfl
  · obtain ⟨start, stop, n, aligned, counted, rfl⟩ := (summarize_aligned s name width r result coarse).mp once
    exact (summarize_aligned (s.renamed first) second width r _ coarse).mpr ⟨start, stop, n, aligned, counted, rfl⟩

theorem rolled_composing (s : Series) (shaped : s.Shaped) (covers : s.Covers) {r : Reducer} {numbers : Float → Prop}
    {join : Option Float → Option Float → Option Float} (composes : r.Composes numbers join)
    (all : ∀ v ∈ s.present, numbers v) (fine coarse : Seconds) (positive : 0 < fine.toInt) (factor : Nat)
    (times : 0 < factor) (multiple : coarse.toInt = factor * fine.toInt) (name first second : String) (direct : Series)
    (once : s.summarize name coarse r false = .ok direct) :
    ∃ middle, s.summarize first fine r false = .ok middle ∧
      middle.summarize second coarse r false = .ok (direct.renamed second) := by
  by_cases pass : fine < s.step
  · -- The finer grid only renames, so the second stage is the direct one.
    refine ⟨s.renamed first, by rw [summarize, if_pos pass], ?_⟩
    exact rolled_renamed s coarse r name first second direct once
  · have within : s.step.toInt ≤ fine.toInt := Int.not_lt.mp fun less => pass (Int64.lt_iff_toInt_lt.mpr less)
    have wide : 0 < coarse.toInt := by
      rw [multiple]
      exact Int.mul_pos (Int.natCast_pos.mpr times) positive
    exact s.rolled_in_stages shaped covers composes all fine coarse within wide ⟨factor, by rw [multiple, Int.mul_comm]⟩
      name first second direct once

/-- Rolling up to buckets of a multiple of a width gives the same series, but for its name, whether at
once or from buckets of that width, for the extremes and, as long as no present value is NaN, for the
last value. -/
theorem rolled_up_in_two_stages (s : Series) (shaped : s.Shaped) (covers : s.Covers) (r : Reducer)
    (repeatable : r = .min ∨ r = .max ∨ r = .last ∧ ∀ v ∈ s.present, v.isNaN = false) (fine coarse : Seconds)
    (positive : 0 < fine) (factor : Nat) (times : 0 < factor) (multiple : coarse.toInt = factor * fine.toInt)
    (name first second : String) (direct : Series) (once : s.summarize name coarse r false = .ok direct) :
    ∃ middle, s.summarize first fine r false = .ok middle ∧
      middle.summarize second coarse r false = .ok (direct.renamed second) := by
  have forward := Int64.lt_iff_toInt_lt.mp positive
  rw [Int64.toInt_zero] at forward
  rcases repeatable with rfl | rfl | ⟨rfl, numbers⟩
  · exact s.rolled_composing shaped covers Reducer.min_composes (fun _ _ => trivial) fine coarse forward factor times
      multiple name first second direct once
  · exact s.rolled_composing shaped covers Reducer.max_composes (fun _ _ => trivial) fine coarse forward factor times
      multiple name first second direct once
  · exact s.rolled_composing shaped covers Reducer.last_composes numbers fine coarse forward factor times multiple name
      first second direct once

def gappy : Series :=
  .ofPoints "a" 5 5 [some 3.0, none, some Binary64.notANumber, some (-0.0), some 0.0, none, none]

theorem gappy_rolled_up :
    gappy.Shaped ∧ gappy.Covers ∧
      gappy.summarize "once" 30 .min false = .ok (spanning "once" 0 60 30 [some (-0.0), none]) ∧
      ∃ middle, gappy.summarize "fine" 10 .min false = .ok middle ∧
        middle.summarize "twice" 30 .min false = .ok (spanning "twice" 0 60 30 [some (-0.0), none]) := by
  have shaped : gappy.Shaped := ⟨rfl, by decide⟩
  have covers : gappy.Covers := rfl
  have once : gappy.summarize "once" 30 .min false = .ok (spanning "once" 0 60 30 [some (-0.0), none]) := by
    decide +kernel
  exact ⟨shaped, covers, once, rolled_up_in_two_stages gappy shaped covers .min (.inl rfl) 10 30 (by decide) 3
    (by decide) (by decide) "once" "fine" "twice" _ once⟩

end TargetEval.Series

import TargetEval.Proofs.GroupKeys
import TargetEval.Proofs.Timestamps

set_option autoImplicit false

namespace TargetEval.Series

def presentAt (xs : List Series) (i : Nat) : List Float := xs.filterMap fun s => (s.points[i]?).join

theorem combined_points (fold : List Float → Float) (xs : List Series) :
    combinedPoint fold xs = fun i => folded fold (presentAt xs i) := by
  funext i
  have same : xs.filterMap (fun s => s.get? i) = presentAt xs i := List.filterMap_congr fun s _ => s.get?_eq_points i
  rw [combinedPoint, same]
  rfl

theorem folded_point (fold : List Float → Float) (present : List Float) :
    folded fold present =
      if present = [] ∨ (fold present).isNaN = true then none else some (fold present) := by
  unfold folded
  by_cases nothing : present = []
  · rw [if_pos (List.isEmpty_iff.mpr nothing), if_pos (.inl nothing)]
  · rw [if_neg (List.isEmpty_iff.not.mpr nothing)]
    simp only [nothing, false_or]

def fill (fold : List Float → Float) (xs : List Series) : List Nat → Series → Write
  | [], s => .done s
  | i :: rest, s =>
      let present := presentAt xs i
      if present.isEmpty then fill fold xs rest s
      else if (fold present).isNaN then fill fold xs rest s
      else
        match s.set i (some (fold present)) with
        | .done next => fill fold xs rest next
        | .outOfRange partly => .outOfRange partly

section

variable (name : String) (start stop step : Seconds)

theorem set_spanning (front back : List (Option Float)) (old new : Option Float) :
    (spanning name start stop step (front ++ old :: back)).set front.length new =
      .done (spanning name start stop step (front ++ new :: back)) := by
  simp [set, spanning]

theorem fill_step (fold : List Float → Float) (xs : List Series) (i : Nat) (rest : List Nat)
    (front back : List (Option Float)) (reached : front.length = i) :
    fill fold xs (i :: rest) (spanning name start stop step (front ++ none :: back)) =
      fill fold xs rest (spanning name start stop step (front ++ folded fold (presentAt xs i) :: back)) := by
  subst reached
  simp only [fill, folded]
  by_cases nothing : (presentAt xs front.length).isEmpty = true
  · rw [if_pos nothing, if_pos nothing]
  · rw [if_neg nothing, if_neg nothing]
    by_cases undefined : (fold (presentAt xs front.length)).isNaN = true
    · rw [if_pos undefined, if_pos undefined]
    · rw [if_neg undefined, if_neg undefined, set_spanning]

theorem fill_from (fold : List Float → Float) (xs : List Series) (i count : Nat) (front : List (Option Float))
    (reached : front.length = i) :
    fill fold xs (List.range' i count) (spanning name start stop step (front ++ List.replicate count none)) =
      .done (spanning name start stop step (front ++ (List.range' i count).map fun j => folded fold (presentAt xs j))) := by
  -- The points in front of the index have been written, and all from it on are still absent.
  induction count generalizing i front with
  | zero => rfl
  | succ count ih =>
      have next := ih (i + 1) (front ++ [folded fold (presentAt xs i)]) (by simp [reached])
      rw [List.range'_succ, List.replicate_succ, fill_step name start stop step fold xs i _ front _ reached, List.map_cons]
      simpa using next

end

theorem fill_blank (name : String) (first : Series) (fold : List Float → Float) (xs : List Series) :
    fill fold xs (List.range first.size) (blank name first.start first.stop first.step first.size) =
      .done (spanning name first.start first.stop first.step
        ((List.range first.size).map fun i => folded fold (presentAt xs i))) := by
  rw [List.range_eq_range']
  exact fill_from name first.start first.stop first.step fold xs 0 first.size [] rfl

section

variable (name : String) (first : Series) (others : List Series) (fold : List Float → Float)

theorem aligned_iff (s : Series) : first.isAligned s = true ↔ s.step = first.step ∧ s.size = first.size := by
  rw [isAligned, Bool.and_eq_true, decide_eq_true_eq, decide_eq_true_eq, eq_comm, eq_comm (a := first.size)]

theorem combine_aligned (aligned : ∀ s ∈ others, s.step = first.step ∧ s.size = first.size) :
    combine name (first :: others) fold =
      .ok (spanning name first.start first.stop first.step
        ((List.range first.size).map fun i => folded fold (presentAt (first :: others) i))) := by
  have none : others.find? (fun other => !first.isAligned other) = none := by
    refine List.find?_eq_none.mpr fun s member => ?_
    simp [(first.aligned_iff s).mpr (aligned s member)]
  simp only [combine, none, combined_points]

theorem combine_misaligned (before after : List Series) (s : Series)
    (aligned : ∀ t ∈ before, t.step = first.step ∧ t.size = first.size) (odd : ¬ (s.step = first.step ∧ s.size = first.size)) :
    combine name (first :: (before ++ s :: after)) fold = .error (misalignment name first s) := by
  have found : (before ++ s :: after).find? (fun other => !first.isAligned other) = some s := by
    refine List.find?_eq_some_iff_append.mpr ⟨?_, before, after, rfl, fun t member => ?_⟩
    · rw [Bool.not_eq_true', ← Bool.not_eq_true, first.aligned_iff s]
      exact odd
    · simp [(first.aligned_iff t).mpr (aligned t member)]
  simp only [combine, found]

end

theorem misaligned_reported (name : String) (xs : List Series) (fold : List Float → Float) :
    (∃ text, combine name xs fold = .error (.shapeMismatch text)) ↔
      ∃ first others, xs = first :: others ∧ ∃ s ∈ others, s.step ≠ first.step ∨ s.size ≠ first.size := by
  constructor
  · rintro ⟨text, failed⟩
    cases xs with
    | nil => cases failed
    | cons first others =>
        refine ⟨first, others, rfl, ?_⟩
        by_contra none
        have aligned : ∀ s ∈ others, s.step = first.step ∧ s.size = first.size := by
          intro s member
          by_contra odd
          exact none ⟨s, member, not_and_or.mp odd⟩
        rw [combine_aligned name first others fold aligned] at failed
        cases failed
  · rintro ⟨first, others, rfl, s, member, odd⟩
    have fails : ¬ ∀ t ∈ others, t.step = first.step ∧ t.size = first.size :=
      fun all => not_and_or.mpr odd (all s member)
    obtain ⟨before, t, after, rfl, aligned, stands⟩ := Grouping.first_exception _ others fails
    exact ⟨_, combine_misaligned name first fold before after t aligned stands⟩

/-- Without any series there is no data, and series of different steps or numbers of values do not
combine. All others give one series with the timing of the first, which has at every index the fold
of what is present there. It is what the folds written one by one make of a blank series, and none of
those writes is out of range. -/
theorem combination_pointwise (name : String) (xs : List Series) (fold : List Float → Float) :
    (combine name xs fold = .error (.noData name) ↔ xs = []) ∧
    ((∃ text, combine name xs fold = .error (.shapeMismatch text)) ↔
      ∃ first others, xs = first :: others ∧ ∃ s ∈ others, s.step ≠ first.step ∨ s.size ≠ first.size) ∧
    (∀ first others, xs = first :: others → (∀ s ∈ others, s.step = first.step ∧ s.size = first.size) →
      ∃ result, combine name xs fold = .ok result ∧
        result.name = name ∧ result.start = first.start ∧ result.stop = first.stop ∧ result.step = first.step ∧
        result.size = first.size ∧ result.absent.size = first.size ∧ result.points.length = first.size ∧
        (∀ i < first.size, result.points[i]? =
          some (if presentAt xs i = [] ∨ (fold (presentAt xs i)).isNaN then none else some (fold (presentAt xs i)))) ∧
        fill fold xs (List.range first.size) (blank name first.start first.stop first.step first.size) =
          .done result) := by
  refine ⟨⟨fun failed => ?_, fun empty => ?_⟩, misaligned_reported name xs fold, ?_⟩
  · cases xs with
    | nil => rfl
    | cons first others =>
        unfold combine at failed
        dsimp only at failed
        split at failed
        next => cases failed
        next => cases failed
  · rw [empty]
    rfl
  · rintro first others rfl aligned
    have sizes := spanning_sizes name first.start first.stop first.step
      ((List.range first.size).map fun i => folded fold (presentAt (first :: others) i))
    rw [List.length_map, List.length_range] at sizes
    refine ⟨_, combine_aligned name first others fold aligned, rfl, rfl, rfl, rfl, sizes.1, sizes.2, ?_, ?_,
      fill_blank name first fold (first :: others)⟩
    · rw [points_spanning, List.length_map, List.length_range]
    · intro i inside
      rw [points_spanning, List.getElem?_map, List.getElem?_range inside, Option.map_some, folded_point]

def unflagged : Series := ⟨"unflagged", #[1.0, 2.0, 3.0], #[false, true], 0, 30, 10⟩

def rising : Series := .ofPoints "rising" 600 10 [some 4.0, none, some (1.0 / 0.0)]

def falling : Series := .ofPoints "falling" 0 10 [none, none, some (-1.0 / 0.0)]

theorem unflagged_combined_pointwise :
    (∀ s ∈ [rising, falling], s.step = unflagged.step ∧ s.size = unflagged.size) ∧
    ∃ result, combine "sum" [unflagged, rising, falling] Reducer.sum.reduce = .ok result ∧
      result.name = "sum" ∧ result.start = 0 ∧ result.stop = 30 ∧ result.step = 10 ∧
      result.points[0]? = some (some 5.0) ∧ result.points[1]? = some none ∧ result.points[2]? = some none ∧
      fill Reducer.sum.reduce [unflagged, rising, falling] [0, 1, 2] (blank "sum" 0 30 10 3) = .done result := by
  have aligned : ∀ s ∈ [rising, falling], s.step = unflagged.step ∧ s.size = unflagged.size := by decide
  obtain ⟨_, _, combines⟩ := combination_pointwise "sum" [unflagged, rising, falling] Reducer.sum.reduce
  obtain ⟨result, ok, name, start, stop, step, _, _, _, points, filled⟩ := combines unflagged [rising, falling] rfl aligned
  refine ⟨aligned, result, ok, name, start, stop, step, ?_, ?_, ?_, filled⟩
  · exact (points 0 (by decide)).trans (by decide +kernel)
  · exact (points 1 (by decide)).trans (by decide +kernel)
  · exact (points 2 (by decide)).trans (by decide +kernel)

end TargetEval.Series

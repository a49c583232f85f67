import TargetEval.Function.Threshold
import TargetEval.Proofs.Buckets
import TargetEval.Proofs.Combinations

set_option autoImplicit false

namespace TargetEval.Series

theorem get_some_iff (s : Series) (i : Nat) (v : Float) : s.get? i = some v ↔ s.points[i]? = some (some v) := by
  rw [get?_eq_points, Option.join_eq_some_iff]

theorem points_by_index (s : Series) :
    (List.range s.size).map s.get? = s.points ++ List.replicate (s.size - s.points.length) none := by
  have room := s.points_room
  refine List.ext_getElem? fun i => ?_
  by_cases inside : i < s.size
  · rw [List.getElem?_map, List.getElem?_range inside, Option.map_some, get?_eq_points]
    by_cases flagged : i < s.points.length
    · rw [List.getElem?_append_left flagged, List.getElem?_eq_getElem flagged]
      rfl
    · rw [List.getElem?_append_right (Nat.not_lt.mp flagged), List.getElem?_replicate, if_pos (by omega),
        List.getElem?_eq_none (Nat.not_lt.mp flagged)]
      rfl
  · rw [List.getElem?_eq_none (by simpa using inside), List.getElem?_eq_none]
    rw [List.length_append, List.length_replicate]
    omega

def indexed (s : Series) : Series := spanning s.name s.start s.stop s.step ((List.range s.size).map s.get?)

theorem indexed_size (s : Series) : s.indexed.size = s.size := by
  rw [size, indexed, (spanning_sizes _ _ _ _ _).1, List.length_map, List.length_range]

theorem indexed_points (s : Series) :
    s.indexed.points = s.points ++ List.replicate (s.size - s.points.length) none := by
  rw [indexed, points_spanning, points_by_index]

theorem indexed_get (s : Series) (i : Nat) : s.indexed.get? i = s.get? i := by
  by_cases inside : i < s.size
  · rw [get?_eq_points, indexed, points_spanning, List.getElem?_map, List.getElem?_range inside]
    rfl
  · have outside := Nat.not_lt.mp inside
    rw [get_beyond s i outside, get_beyond s.indexed i (s.indexed_size ▸ outside)]

theorem indexed_present (s : Series) : s.indexed.present = s.present := by
  rw [present, indexed_points, List.filterMap_append]
  simp [present]

theorem along_gap (m : MovingMean) (points : List (Option Float)) (count : Nat) :
    m.along (points ++ List.replicate count none) = m.along points ++ List.replicate count none := by
  induction points generalizing m with
  | nil =>
      induction count with
      | zero => rfl
      | succ count ih => exact congrArg (List.cons none) ih
  | cons p rest ih =>
      cases p with
      | none => exact congrArg (List.cons none) (ih m)
      | some value => exact congrArg (List.cons (some (m.next value))) (ih (m.push value))

theorem indexed_smooth (s : Series) (name : String) (weight : Float) :
    s.indexed.smooth name weight = s.smooth name weight := by
  have means := along_gap (.start weight) s.points (s.size - s.points.length)
  have length := along_length (.start weight) s.points
  have room := s.points_room
  have whole : s.size - ((MovingMean.start weight).along s.indexed.points).length = 0 := by
    rw [along_length, indexed_points, List.length_append, List.length_replicate]
    omega
  rw [smooth, smooth, indexed_size, whole, indexed_points, means, length, List.replicate_zero, List.append_nil]
  rfl

theorem bucketed_blank (step width stop : Seconds) (count : Nat) :
    ∀ (clock bound : Seconds) (held : List Float) (k : Nat),
      ((bucketed step width stop clock bound held (List.replicate count none))[k]?).getD [] = ([held][k]?).getD [] := by
  induction count with
  | zero => exact fun _ _ _ _ => rfl
  | succ count ih =>
      intro clock bound held k
      simp only [List.replicate_succ, bucketed, Option.toList_none, List.append_nil]
      by_cases stopped : stop ≤ clock.plus step
      · rw [if_pos stopped]
      · rw [if_neg stopped]
        by_cases closed : bound ≤ clock.plus step
        · rw [if_pos closed]
          cases k with
          | zero => rfl
          | succ k =>
              rw [List.getElem?_cons_succ, ih]
              cases k <;> rfl
        · rw [if_neg closed]
          exact ih _ _ held k

theorem bucketed_gap (step width stop : Seconds) (count : Nat) (points : List (Option Float)) :
    ∀ (clock bound : Seconds) (held : List Float) (k : Nat),
      ((bucketed step width stop clock bound held (points ++ List.replicate count none))[k]?).getD [] =
        ((bucketed step width stop clock bound held points)[k]?).getD [] := by
  induction points with
  | nil => exact bucketed_blank step width stop count
  | cons p rest ih =>
      intro clock bound held k
      simp only [List.cons_append, bucketed]
      by_cases stopped : stop ≤ clock.plus step
      · rw [if_pos stopped, if_pos stopped]
      · rw [if_neg stopped, if_neg stopped]
        by_cases closed : bound ≤ clock.plus step
        · rw [if_pos closed, if_pos closed]
          cases k with
          | zero => rfl
          | succ k => exact ih _ _ [] k
        · rw [if_neg closed, if_neg closed]
          exact ih _ _ _ k

theorem indexed_bucket_points (s : Series) (start stop width : Seconds) (buckets : Nat) (r : Reducer) :
    s.indexed.bucketPoints start stop width buckets r = s.bucketPoints start stop width buckets r := by
  simp only [bucket_points_held, indexed_points, bucketed_gap]
  rfl

theorem indexed_summarize (s : Series) (name : String) (width : Seconds) (r : Reducer) (fromStart : Bool)
    (fine : s.step ≤ width) : s.indexed.summarize name width r fromStart = s.summarize name width r fromStart := by
  have coarse : ¬ width < s.step := Int64.not_lt.mpr fine
  rw [summarize_fine s.indexed name width r fromStart coarse, summarize_fine s name width r fromStart coarse]
  simp only [indexed_bucket_points]
  rfl

theorem indexed_combine (name : String) (xs : List Series) (fold : List Float → Float) :
    combine name (xs.map indexed) fold = combine name xs fold := by
  have read : combinedPoint fold (xs.map indexed) = combinedPoint fold xs := by
    funext i
    simp only [combinedPoint, List.filterMap_map, Function.comp_def, indexed_get]
  cases xs with
  | nil => rfl
  | cons first others =>
      have aligned : (fun other => !first.indexed.isAligned other) ∘ indexed = fun other => !first.isAligned other := by
        funext other
        rw [Function.comp_apply, isAligned, isAligned, indexed_size, indexed_size]
        rfl
      rw [List.map_cons] at read
      rw [List.map_cons, combine, combine, List.find?_map, aligned, read, indexed_size]
      cases others.find? fun other => !first.isAligned other with
      | none => rfl
      | some other =>
          refine congrArg Except.error ?_
          simp only [misalignment, indexed_size]
          rfl

theorem indexed_passes (s : Series) (r : Reducer) (comparison : Comparison) (threshold : Float) :
    Threshold.passes r comparison threshold s.indexed = Threshold.passes r comparison threshold s := by
  rw [Threshold.passes, Threshold.passes, indexed_present]

def setAll : List (Nat × Option Float) → Series → Write
  | [], s => .done s
  | (i, p) :: rest, s =>
      match s.set i p with
      | .done next => setAll rest next
      | .outOfRange partly => .outOfRange partly

structure Framed (s t : Series) : Prop where
  name : t.name = s.name
  start : t.start = s.start
  stop : t.stop = s.stop
  step : t.step = s.step
  values : t.values.size = s.values.size
  absent : t.absent.size = s.absent.size

theorem Framed.refl (s : Series) : Framed s s := ⟨rfl, rfl, rfl, rfl, rfl, rfl⟩

theorem Framed.trans {s t u : Series} (first : Framed s t) (second : Framed t u) : Framed s u where
  name := second.name.trans first.name
  start := second.start.trans first.start
  stop := second.stop.trans first.stop
  step := second.step.trans first.step
  values := second.values.trans first.values
  absent := second.absent.trans first.absent

section

variable (s : Series) (flagged : s.absent.size = s.values.size) (i : Nat) (inside : i < s.size) (p : Option Float)

include flagged inside

theorem set_done :
    s.set i p = .done
      { s with values := s.values.setIfInBounds i (p.getD 0.0), absent := s.absent.setIfInBounds i p.isNone } := by
  have valued : i < s.values.size := inside
  have marked : i < s.absent.size := flagged ▸ inside
  rw [set, if_pos ⟨valued, marked⟩, if_pos valued]

theorem set_inside : ∃ t, s.set i p = .done t ∧ Framed s t ∧ ∀ j, t.get? j = if j = i then p else s.get? j := by
  refine ⟨_, s.set_done flagged i inside p, ⟨rfl, rfl, rfl, rfl, Array.size_setIfInBounds, Array.size_setIfInBounds⟩, ?_⟩
  intro j
  simp only [get?]
  by_cases same : j = i
  · subst same
    rw [if_pos rfl, Array.getElem?_setIfInBounds_self_of_lt (flagged ▸ inside),
      Array.getElem?_setIfInBounds_self_of_lt inside]
    cases p <;> rfl
  · rw [if_neg same, Array.getElem?_setIfInBounds_ne (Ne.symm same), Array.getElem?_setIfInBounds_ne (Ne.symm same)]

end

theorem set_all_inside (writes : List (Nat × Option Float)) :
    ∀ s : Series, s.absent.size = s.values.size → (∀ w ∈ writes, w.1 < s.size) →
      ∃ t, setAll writes s = .done t ∧ Framed s t ∧
        (∀ i, (∀ p, (i, p) ∉ writes) → t.get? i = s.get? i) ∧
        ∀ before i p after, writes = before ++ (i, p) :: after → (∀ q, (i, q) ∉ after) → t.get? i = p := by
  induction writes with
  | nil =>
      intro s _ _
      refine ⟨s, rfl, .refl s, fun _ _ => rfl, ?_⟩
      intro before i p after split
      exact absurd split.symm (by simp)
  | cons write rest ih =>
      intro s flagged inside
      obtain ⟨j, q⟩ := write
      obtain ⟨here, later⟩ := List.forall_mem_cons.mp inside
      obtain ⟨next, set, framed, read⟩ := s.set_inside flagged j here q
      have sizes : next.size = s.size := framed.values
      obtain ⟨t, run, frame, kept, last⟩ :=
        ih next (framed.absent.trans (flagged.trans framed.values.symm)) (sizes ▸ later)
      refine ⟨t, by rw [setAll, set]; exact run, framed.trans frame, ?_, ?_⟩
      · intro i unwritten
        have other : i ≠ j := by
          rintro rfl
          exact unwritten q List.mem_cons_self
        rw [kept i fun p member => unwritten p (List.mem_cons_of_mem _ member), read, if_neg other]
      · intro before i p after split final
        cases before with
        | nil =>
            obtain ⟨⟨rfl, rfl⟩, rfl⟩ : (j = i ∧ q = p) ∧ rest = after := by simpa using split
            rw [kept j final, read, if_pos rfl]
        | cons first before => exact last before i p after (List.cons.inj split).2 final

/-- Reading by index finds what the points hold, and absent points for values without a flag. A series
made anew from what is read by index is combined, smoothed, rolled up and filtered in the same way. Writes
in range to a series with one flag for each value leave at every index the last point written there, or
else the point that was there, and nothing else changes. A series made from points has these points. -/
theorem points_read_and_written :
    (∀ (s : Series) (i : Nat) (v : Float), s.get? i = some v ↔ s.points[i]? = some (some v)) ∧
    (∀ (name : String) (xs : List Series) (fold : List Float → Float),
      combine name (xs.map indexed) fold = combine name xs fold) ∧
    (∀ s : Series,
      (List.range s.size).map s.get? = s.points ++ List.replicate (s.size - s.points.length) none ∧
      (∀ name weight, s.indexed.smooth name weight = s.smooth name weight) ∧
      (∀ name width r fromStart, s.step ≤ width →
        s.indexed.summarize name width r fromStart = s.summarize name width r fromStart) ∧
      ∀ r comparison threshold,
        Threshold.passes r comparison threshold s.indexed = Threshold.passes r comparison threshold s) ∧
    (∀ (s : Series) (writes : List (Nat × Option Float)), s.absent.size = s.values.size → (∀ w ∈ writes, w.1 < s.size) →
      ∃ t, setAll writes s = .done t ∧ Framed s t ∧
        (∀ i, (∀ p, (i, p) ∉ writes) → t.get? i = s.get? i) ∧
        ∀ before i p after, writes = before ++ (i, p) :: after → (∀ q, (i, q) ∉ after) → t.get? i = p) ∧
    ∀ (name : String) (start step : Seconds) (points : List (Option Float)),
      (ofPoints name start step points).points = points := by
  refine ⟨get_some_iff, indexed_combine, ?_, ?_, ?_⟩
  · exact fun s => ⟨s.points_by_index, s.indexed_smooth, s.indexed_summarize, s.indexed_passes⟩
  · exact fun s writes flagged inside => set_all_inside writes s flagged inside
  · exact fun name start step points => points_spanning name start _ step points

theorem rising_rewritten :
    (unflagged.get? 0 = some 1.0 ∧ unflagged.points[0]? = some (some 1.0)) ∧
    (unflagged.step ≤ 20 ∧
      unflagged.indexed.summarize "sum" 20 .sum true = .ok (spanning "sum" 0 30 20 [some 1.0, none])) ∧
    rising.absent.size = rising.values.size ∧
    (∀ w ∈ [(1, some 2.0), (0, none), (1, some 5.0)], w.1 < rising.size) ∧
    ∃ t, setAll [(1, some 2.0), (0, none), (1, some 5.0)] rising = .done t ∧ Framed rising t ∧
      t.get? 0 = none ∧ t.get? 1 = some 5.0 ∧ t.get? 2 = rising.get? 2 := by
  obtain ⟨read, _, folds, written, _⟩ := points_read_and_written
  have found : unflagged.get? 0 = some 1.0 := by decide +kernel
  have fine : unflagged.step ≤ 20 := by decide
  have rolled : unflagged.summarize "sum" 20 .sum true = .ok (spanning "sum" 0 30 20 [some 1.0, none]) := by
    decide +kernel
  obtain ⟨_, _, summarized, _⟩ := folds unflagged
  have inside : ∀ w ∈ [(1, some 2.0), (0, none), (1, some 5.0)], w.1 < rising.size := by decide
  obtain ⟨t, done, framed, kept, last⟩ := written rising _ rfl inside
  refine ⟨⟨found, (read _ _ _).mp found⟩, ⟨fine, (summarized _ _ _ _ fine).trans rolled⟩, rfl, inside, t, done, framed,
    ?_, ?_, ?_⟩
  · exact last [(1, some 2.0)] 0 none [(1, some 5.0)] rfl (by simp)
  · exact last [(1, some 2.0), (0, none)] 1 (some 5.0) [] rfl (by simp)
  · exact kept 2 (by simp)

end TargetEval.Series

import TargetEval.Proofs.Grids
import TargetEval.Proofs.PartialFolds
import TargetEval.Proofs.Shape

set_option autoImplicit false

namespace TargetEval

theorem Bounded.clamp_value (n : Int) : (clamp n).toInt = max least (min n greatest) := by
  have inner : ∀ m : Int, least ≤ m → m ≤ greatest → (Int64.ofInt m).toInt = m := to_int_of_int
  unfold clamp
  by_cases low : n < least
  · rw [if_pos low, inner least (by decide) (by decide)]
    simp only [least, greatest] at low ⊢
    omega
  · rw [if_neg low]
    by_cases high : greatest < n
    · rw [if_pos high, inner greatest (by decide) (by decide)]
      simp only [least, greatest] at low high ⊢
      omega
    · rw [if_neg high, inner n (by omega) (by omega)]
      omega

namespace Series

def timed (step : Int) : (time : Int) → List (Option Float) → List (Int × Float)
  | _, [] => []
  | time, none :: rest => timed step (time + step) rest
  | time, some v :: rest => (time, v) :: timed step (time + step) rest

def between (low high : Int) (values : List (Int × Float)) : List Float :=
  (values.filter fun entry => low ≤ entry.1 ∧ entry.1 < high).map Prod.snd

theorem timed_from (step time : Int) (points : List (Option Float)) (forward : 0 ≤ step) :
    ∀ entry ∈ timed step time points, time ≤ entry.1 := by
  induction points generalizing time with
  | nil => simp [timed]
  | cons p rest ih =>
      have later : ∀ entry ∈ timed step (time + step) rest, time ≤ entry.1 := by
        intro entry member
        have := ih (time + step) entry member
        omega
      cases p with
      | none => exact later
      | some v => exact List.forall_mem_cons.mpr ⟨Int.le_refl time, later⟩

theorem between_none (low high : Int) (values : List (Int × Float))
    (outside : ∀ entry ∈ values, entry.1 < low ∨ high ≤ entry.1) : between low high values = [] := by
  unfold between
  rw [List.map_eq_nil_iff, List.filter_eq_nil_iff]
  intro entry member
  have := outside entry member
  simp only [decide_eq_true_eq]
  omega

theorem between_point (low high step time : Int) (p : Option Float) (rest : List (Option Float)) :
    between low high (timed step time (p :: rest)) =
      (if low ≤ time ∧ time < high then p.toList else []) ++ between low high (timed step (time + step) rest) := by
  cases p with
  | none => simp [timed]
  | some v =>
      by_cases inside : low ≤ time ∧ time < high
      · simp [timed, between, inside]
      · simp [timed, between, inside]

section

variable (step width stop : Seconds) (forward : 0 < step.toInt) (within : step.toInt ≤ width.toInt)

include forward within

theorem bucketed_values (points : List (Option Float)) :
    ∀ (clock bound : Seconds) (due : Int) (held : List Float), bound = Bounded.clamp due →
      clock.toInt < stop.toInt → due - width.toInt ≤ clock.toInt → clock.toInt < due → ∀ k : Nat,
        ((bucketed step width stop clock bound held points)[k]?).getD [] =
          (if k = 0 then held else []) ++
            between (due - width.toInt + k * width.toInt) (min (due + k * width.toInt) stop.toInt)
              (timed step.toInt clock.toInt points) := by
  -- The walk goes point by point; between two of them the clock is inside of the open bucket, which
  -- ends when `due` comes, and before the stop.
  induction points with
  | nil =>
      intro clock bound due held _ _ _ _ k
      cases k with
      | zero => simp [bucketed, timed, between]
      | succ k => simp [bucketed, timed, between]
  | cons p rest ih =>
      intro clock bound due held bounded early opened inside k
      have last := stop.toInt_lt
      have first := clock.le_toInt
      have tick : (clock.plus step).toInt = max Bounded.least (min (clock.toInt + step.toInt) Bounded.greatest) :=
        Bounded.clamp_value _
      have bell : bound.toInt = max Bounded.least (min due Bounded.greatest) := bounded ▸ Bounded.clamp_value due
      have ahead := timed_from step.toInt (clock.toInt + step.toInt) rest (Int.le_of_lt forward)
      simp only [Bounded.least, Bounded.greatest] at tick bell
      -- The point of the clock itself belongs to the open bucket alone.
      have here : ∀ k : Nat, (due - width.toInt + k * width.toInt ≤ clock.toInt ∧
          clock.toInt < min (due + k * width.toInt) stop.toInt) ↔ k = 0 := by
        intro k
        cases k with
        | zero => simp; omega
        | succ k =>
            have spans : 0 ≤ k * width.toInt := Int.mul_nonneg (Int.natCast_nonneg k) (by omega)
            rw [Int.natCast_succ, Int.add_mul]
            omega
      rw [between_point, if_congr (here k) rfl rfl, ← List.append_assoc]
      unfold bucketed
      by_cases stopped : stop ≤ clock.plus step
      · have passed := Int64.le_iff_toInt_le.mp stopped
        rw [between_none _ _ (timed step.toInt (clock.toInt + step.toInt) rest) fun entry member => by
          have := ahead entry member
          omega]
        simp only [if_pos stopped]
        cases k with
        | zero => simp
        | succ k => simp
      · have running := Int.not_le.mp fun passed => stopped (Int64.le_iff_toInt_le.mpr passed)
        have exactly : (clock.plus step).toInt = clock.toInt + step.toInt := by omega
        simp only [if_neg stopped]
        by_cases closed : bound ≤ clock.plus step
        · have passed := Int64.le_iff_toInt_le.mp closed
          have bell_due : bound.toInt = due := by omega
          simp only [if_pos closed]
          cases k with
          | zero =>
              rw [between_none _ _ (timed step.toInt (clock.toInt + step.toInt) rest) fun entry member => by
                have := ahead entry member
                rw [Int.natCast_zero, Int.zero_mul]
                omega]
              simp
          | succ k =>
              have next := ih (clock.plus step) (bound.plus width) (due + width.toInt) []
                (by rw [Seconds.plus, bell_due]) (by omega) (by omega) (by omega) k
              have low : due + width.toInt - width.toInt + k * width.toInt =
                  due - width.toInt + ((k + 1 : ℕ) : ℤ) * width.toInt := by
                rw [Int.natCast_succ, Int.add_mul]
                omega
              have high : due + width.toInt + k * width.toInt = due + ((k + 1 : ℕ) : ℤ) * width.toInt := by
                rw [Int.natCast_succ, Int.add_mul]
                omega
              rw [List.getElem?_cons_succ, next, exactly, low, high]
              simp
        · have before := Int.not_le.mp fun passed => closed (Int64.le_iff_toInt_le.mpr passed)
          simp only [if_neg closed]
          rw [ih (clock.plus step) bound due (held ++ p.toList) bounded (by omega) (by omega) (by omega) k, exactly]
          cases k with
          | zero => simp
          | succ k => simp

end

theorem bucket_points_held (s : Series) (start stop width : Seconds) (buckets : Nat) (r : Reducer) :
    s.bucketPoints start stop width buckets r =
      (List.range buckets).map fun k =>
        r.point? (((bucketed s.step width stop s.start (start.plus width) [] s.points)[k]?).getD []) := by
  unfold bucketPoints
  generalize bucketed s.step width stop s.start (start.plus width) [] s.points = held
  refine List.ext_getElem? fun k => ?_
  simp only [List.getElem?_append, List.getElem?_map, List.getElem?_replicate, List.length_map, List.length_take]
  by_cases listed : k < buckets
  · by_cases reached : k < held.length
    · have within : k < min buckets held.length := Nat.lt_min.mpr ⟨listed, reached⟩
      simp [listed, reached, within]
    · have beyond : ¬ k < min buckets held.length := fun within => reached (Nat.lt_min.mp within).2
      have room : k - min buckets held.length < buckets - min buckets held.length := by omega
      simp [listed, reached, beyond, room, Reducer.point_of_nothing]
  · have beyond : ¬ k < min buckets held.length := fun within => listed (Nat.lt_min.mp within).1
    have room : ¬ k - min buckets held.length < buckets - min buckets held.length := by omega
    simp [listed, beyond, room]

theorem bucket_points_fold (s : Series) (start stop width : Seconds) (buckets : Nat) (r : Reducer)
    (forward : 0 < s.step.toInt) (within : s.step.toInt ≤ width.toInt) (opened : start.toInt ≤ s.start.toInt)
    (inside : s.start.toInt < start.toInt + width.toInt) (early : s.start.toInt < stop.toInt ∨ s.points = []) :
    s.bucketPoints start stop width buckets r =
      (List.range buckets).map fun k : Nat =>
        r.point? (between (start.toInt + k * width.toInt) (min (start.toInt + (k + 1) * width.toInt) stop.toInt)
          (timed s.step.toInt s.start.toInt s.points)) := by
  rw [bucket_points_held]
  refine List.map_congr_left fun k _ => congrArg r.point? ?_
  rcases early with before | empty
  · have low : start.toInt + width.toInt - width.toInt + k * width.toInt = start.toInt + k * width.toInt := by omega
    have high : start.toInt + width.toInt + k * width.toInt = start.toInt + (k + 1) * width.toInt := by
      rw [Int.add_mul]
      omega
    rw [bucketed_values s.step width stop forward within s.points s.start (start.plus width)
      (start.toInt + width.toInt) [] rfl before (by omega) inside k, low, high]
    simp
  · rw [empty]
    cases k with
    | zero => rfl
    | succ k => rfl

end Series

end TargetEval

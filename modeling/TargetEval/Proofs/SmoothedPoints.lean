import TargetEval.Proofs.MovingMeans
import TargetEval.Proofs.Shape

set_option autoImplicit false

namespace TargetEval

namespace MovingMean

def means : MovingMean → List Float → List Float
  | _, [] => []
  | m, value :: rest => m.next value :: means (m.push value) rest

theorem means_head (weight : Float) (values : List Float) : ((start weight).means values).head? = values.head? := by
  cases values with
  | nil => rfl
  | cons value rest => rfl

variable (m : MovingMean) (points : List (Option Float))

theorem along_present : (m.along points).filterMap id = m.means (points.filterMap id) := by
  induction points generalizing m with
  | nil => rfl
  | cons p rest ih =>
      cases p with
      | none => exact ih m
      | some value => exact congrArg (List.cons (m.next value)) (ih (m.push value))

theorem along_gaps : (m.along points).map Option.isNone = points.map Option.isNone := by
  induction points generalizing m with
  | nil => rfl
  | cons p rest ih =>
      cases p with
      | none => exact congrArg (List.cons true) (ih m)
      | some value => exact congrArg (List.cons false) (ih (m.push value))

theorem along_take (n : Nat) : (m.along points).take n = m.along (points.take n) := by
  induction points generalizing m n with
  | nil => simp [along]
  | cons p rest ih =>
      cases n with
      | zero => rfl
      | succ n =>
          cases p with
          | none => exact congrArg (List.cons none) (ih m n)
          | some value => exact congrArg (List.cons (some (m.next value))) (ih (m.push value) n)

end MovingMean

namespace Series

section

variable (s : Series) (flagged : s.values.size = s.absent.size)

include flagged

theorem gaps_flagged : s.points.map Option.isNone = s.absent.toList := by
  have flag : Option.isNone ∘ Function.uncurry point = Prod.snd := by
    funext entry
    obtain ⟨value, isAbsent⟩ := entry
    cases isAbsent <;> rfl
  have sizes : s.absent.toList.length ≤ s.values.toList.length := by
    rw [Array.length_toList, Array.length_toList, flagged]
  rw [points, ← List.map_uncurry_zip_eq_zipWith, List.map_map, flag, List.map_snd_zip sizes]

theorem smooth_flagged (name : String) (weight : Float) :
    s.smooth name weight = spanning name s.start s.stop s.step ((MovingMean.start weight).along s.points) := by
  have whole : s.size - ((MovingMean.start weight).along s.points).length = 0 := by
    rw [along_length, s.flagged_length flagged, Nat.sub_self]
  rw [smooth, whole, List.replicate_zero, List.append_nil]

end

theorem smooth_present (s : Series) (name : String) (weight : Float) :
    (s.smooth name weight).present = (MovingMean.start weight).means s.present := by
  have nothing : ∀ count, (List.replicate count (none : Option Float)).filterMap id = [] := by simp
  rw [smooth, present_spanning, List.filterMap_append, nothing, List.append_nil, MovingMean.along_present]
  rfl

/-- Smoothing keeps the grid and the gaps, and pushes the present values in their order. So gaps do not
count, and the points up to an index are those of the points up to there. -/
theorem smoothed_over_gaps (s : Series) (name : String) (weight : Float) (flagged : s.values.size = s.absent.size) :
    ((s.smooth name weight).name = name ∧ (s.smooth name weight).start = s.start ∧
      (s.smooth name weight).stop = s.stop ∧ (s.smooth name weight).step = s.step ∧
      (s.smooth name weight).size = s.size ∧ (s.smooth name weight).absent = s.absent) ∧
    ((s.smooth name weight).present = (MovingMean.start weight).means s.present ∧
      (s.smooth name weight).present.head? = s.present.head?) ∧
    (∀ (t : Series) (other : String), t.present = s.present →
      (t.smooth other weight).present = (s.smooth name weight).present) ∧
    ∀ (t : Series) (other : String) (n : Nat), t.values.size = t.absent.size → t.points.take n = s.points.take n →
      (t.smooth other weight).points.take n = (s.smooth name weight).points.take n := by
  refine ⟨?_, ?_, ?_, ?_⟩
  · rw [s.smooth_flagged flagged]
    refine ⟨rfl, rfl, rfl, rfl, ?_, ?_⟩
    · rw [size, (spanning_sizes _ _ _ _ _).1, along_length, s.flagged_length flagged]
    · apply Array.toList_inj.mp
      rw [spanning, List.toList_toArray, MovingMean.along_gaps, s.gaps_flagged flagged]
  · rw [smooth_present]
    exact ⟨rfl, MovingMean.means_head weight s.present⟩
  · intro t other same
    rw [smooth_present, smooth_present, same]
  · intro t other n shaped same
    rw [t.smooth_flagged shaped, s.smooth_flagged flagged, points_spanning, points_spanning, MovingMean.along_take,
      MovingMean.along_take, same]

def interrupted : Series := .ofPoints "a" 0 1 [some 10.0, none, none, some 20.0]

def uninterrupted : Series := .ofValues "b" 0 1 [10.0, 20.0]

def redirected : Series := .ofPoints "c" 0 1 [some 10.0, none, none, some 40.0, some 50.0]

theorem interrupted_smoothed :
    interrupted.values.size = interrupted.absent.size ∧
      (interrupted.smooth "ewma(a,0.5)" 0.5).points = [some 10.0, none, none, some 15.0] ∧
      (interrupted.smooth "ewma(a,0.5)" 0.5).absent = interrupted.absent ∧
      (uninterrupted.smooth "ewma(b,0.5)" 0.5).present = (interrupted.smooth "ewma(a,0.5)" 0.5).present ∧
      (redirected.smooth "ewma(c,0.5)" 0.5).points.take 3 = (interrupted.smooth "ewma(a,0.5)" 0.5).points.take 3 := by
  obtain ⟨⟨_, _, _, _, _, gaps⟩, _, closed, causal⟩ := smoothed_over_gaps interrupted "ewma(a,0.5)" 0.5 rfl
  exact ⟨rfl, by decide +kernel, gaps, closed uninterrupted "ewma(b,0.5)" (by decide +kernel),
    causal redirected "ewma(c,0.5)" 3 rfl (by decide +kernel)⟩

end Series

end TargetEval

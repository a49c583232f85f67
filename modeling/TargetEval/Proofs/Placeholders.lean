import TargetEval.Proofs.Sources

set_option autoImplicit false

namespace TargetEval

namespace Series

structure Agree (s t : Series) : Prop where
  name : s.name = t.name
  start : s.start = t.start
  stop : s.stop = t.stop
  step : s.step = t.step
  size : s.size = t.size
  absent : s.absent = t.absent
  present : ∀ i : Nat, s.absent[i]? = some false → s.values[i]? = t.values[i]?

namespace Agree

variable {s t : Series}

theorem refl (s : Series) : Agree s s := ⟨rfl, rfl, rfl, rfl, rfl, rfl, fun _ _ => rfl⟩

theorem get_eq (same : Agree s t) (i : Nat) : s.get? i = t.get? i := by
  unfold get?
  rw [← same.absent]
  split
  next flag => exact same.present i flag
  next => rfl

theorem points_eq (same : Agree s t) : s.points = t.points := by
  refine List.ext_getElem? fun i => ?_
  simp only [points, List.getElem?_zipWith, Array.getElem?_toList, ← same.absent]
  cases flag : s.absent[i]? with
  | none => cases s.values[i]? <;> cases t.values[i]? <;> rfl
  | some isAbsent =>
      cases isAbsent with
      | false => rw [same.present i flag]
      | true =>
          -- Here only the number of values matters.
          have sizes : s.values.size = t.values.size := same.size
          by_cases inside : i < s.values.size
          · simp [inside, sizes ▸ inside, point]
          · simp [inside, sizes ▸ inside]

theorem renamed (same : Agree s t) (name : String) : Agree (s.renamed name) (t.renamed name) :=
  ⟨rfl, same.start, same.stop, same.step, same.size, same.absent, same.present⟩

theorem smooth_eq (same : Agree s t) (name : String) (weight : Float) :
    s.smooth name weight = t.smooth name weight := by
  unfold smooth
  rw [same.points_eq, same.start, same.stop, same.step, same.size]

theorem bucket_points_eq (same : Agree s t) (start stop width : Seconds) (buckets : Nat) (r : Reducer) :
    s.bucketPoints start stop width buckets r = t.bucketPoints start stop width buckets r := by
  unfold bucketPoints
  rw [same.points_eq, same.start, same.step]

theorem summarize (same : Agree s t) (name : String) (width : Seconds) (r : Reducer) (fromStart : Bool) :
    Alike Agree (s.summarize name width r fromStart) (t.summarize name width r fromStart) := by
  unfold Series.summarize
  simp only [same.start, same.stop, same.step, same.bucket_points_eq]
  -- A coarse series is handed on with its placeholders, any other is made anew from the points.
  split
  · exact .ok (same.renamed name)
  · exact .refl_of Agree refl _

theorem is_aligned_eq {first other : Series} (same : Agree s t) (others : Agree first other) :
    first.isAligned s = other.isAligned t := by
  unfold isAligned
  rw [same.step, same.size, others.step, others.size]

theorem misalignment_eq {first other : Series} (same : Agree s t) (others : Agree first other) (name : String) :
    misalignment name first s = misalignment name other t := by
  simp only [misalignment, same.name, same.step, same.size, others.name, others.step, others.size]

theorem combined_point_eq {xs ys : List Series} (inputs : List.Forall₂ Agree xs ys) (fold : List Float → Float) :
    combinedPoint fold xs = combinedPoint fold ys := by
  funext i
  have values : xs.filterMap (fun s => s.get? i) = ys.filterMap fun s => s.get? i := by
    induction inputs with
    | nil => rfl
    | cons same _ ih => rw [List.filterMap_cons, List.filterMap_cons, same.get_eq i, ih]
  unfold combinedPoint
  rw [values]

theorem find_misaligned {first other : Series} (same : Agree first other) {xs ys : List Series}
    (inputs : List.Forall₂ Agree xs ys) :
    Option.Rel Agree (xs.find? fun s => !first.isAligned s) (ys.find? fun t => !other.isAligned t) := by
  induction inputs with
  | nil => exact .none
  | cons head _ ih =>
      rw [List.find?_cons, List.find?_cons, head.is_aligned_eq same]
      split
      · exact .some head
      · exact ih

theorem combine_eq (name : String) {xs ys : List Series} (inputs : List.Forall₂ Agree xs ys)
    (fold : List Float → Float) : combine name xs fold = combine name ys fold := by
  cases inputs with
  | nil => rfl
  | @cons first other xs ys same rest =>
      have points := combined_point_eq (.cons same rest) fold
      have found := find_misaligned same rest
      simp only [combine, points, same.start, same.stop, same.step, same.size]
      generalize xs.find? (fun s => !first.isAligned s) = left at found ⊢
      generalize ys.find? (fun t => !other.isAligned t) = right at found ⊢
      cases found with
      | none => rfl
      | some odd => exact congrArg Except.error (odd.misalignment_eq same name)

theorem passes_eq (same : Agree s t) (r : Reducer) (comparison : Comparison) (threshold : Float) :
    Threshold.passes r comparison threshold s = Threshold.passes r comparison threshold t := by
  unfold Threshold.passes Series.present
  rw [same.points_eq]

end Agree

end Series

theorem respected_agree : Respected Series.Agree where
  name := fun _ _ same => same.name
  renamed := fun _ _ name same => same.renamed name
  combine := fun name _ _ fold inputs => by
    rw [Series.Agree.combine_eq name inputs fold]
    exact .refl_of _ Series.Agree.refl _
  summarize := fun _ _ name width r fromStart same => same.summarize name width r fromStart
  smooth := fun _ _ name weight same => by
    rw [same.smooth_eq name weight]
    exact .refl _
  passes := fun _ _ r comparison threshold same => same.passes_eq r comparison threshold

/-- Indexes that agree under every key give the same failure, or answers that agree. -/
theorem answers_ignore_placeholders (ev : Evaluator) (builtin : ev.registry = Builtin.registry) (e : Expr)
    (window : Window) (index other : SeriesIndex)
    (same : ∀ key, List.Forall₂ Series.Agree (index.get key) (other.get key)) :
    (∃ failure, (ev.evaluate e window index).outcome = .error failure ∧
      (ev.evaluate e window other).outcome = .error failure) ∨
    ∃ xs ys, (ev.evaluate e window index).outcome = .ok xs ∧ (ev.evaluate e window other).outcome = .ok ys ∧
      List.Forall₂ (fun s t => s.Agree t ∧ s.points = t.points) xs ys := by
  have twin := node_twin respected_agree ev builtin window window (ev.settings.maxDepth + 1) index other e
    fun m _ => same ⟨m, window⟩
  unfold Evaluator.evaluate
  obtain ⟨outcomes, _⟩ := twin
  revert outcomes
  generalize (ev.node window (ev.settings.maxDepth + 1) index e).outcome = a
  generalize (ev.node window (ev.settings.maxDepth + 1) other e).outcome = b
  rintro (⟨each⟩ | ⟨failure⟩)
  · exact .inr ⟨_, _, rfl, rfl, each.imp fun s t same => ⟨same, same.points_eq⟩⟩
  · exact .inl ⟨failure, rfl, rfl⟩

def gapped (kept : Float) : Series := ⟨"hosts.a", #[1.0, kept], #[false, true], 0, 2, 1⟩

theorem gapped_agree (kept other : Float) : (gapped kept).Agree (gapped other) where
  name := rfl
  start := rfl
  stop := rfl
  step := rfl
  size := rfl
  absent := rfl
  present := fun i flag => by
    match i with
    | 0 => rfl
    | 1 => cases flag
    | _ + 2 => rfl

theorem gapped_single (kept other : Float) (key : FetchKey) :
    List.Forall₂ Series.Agree ((SeriesIndex.single ⟨"hosts.*", ⟨0, 2⟩⟩ [gapped kept]).get key)
      ((SeriesIndex.single ⟨"hosts.*", ⟨0, 2⟩⟩ [gapped other]).get key) := by
  rw [SeriesIndex.get_single, SeriesIndex.get_single]
  split
  · exact .cons (gapped_agree kept other) .nil
  · exact .nil

theorem by_host_ignores_placeholder :
    ((∃ failure,
        (Builtin.evaluator.evaluate byHost ⟨0, 2⟩ (.single ⟨"hosts.*", ⟨0, 2⟩⟩ [gapped 0.0])).outcome =
          .error failure ∧
        (Builtin.evaluator.evaluate byHost ⟨0, 2⟩ (.single ⟨"hosts.*", ⟨0, 2⟩⟩ [gapped Binary64.notANumber])).outcome =
          .error failure) ∨
      ∃ xs ys,
        (Builtin.evaluator.evaluate byHost ⟨0, 2⟩ (.single ⟨"hosts.*", ⟨0, 2⟩⟩ [gapped 0.0])).outcome = .ok xs ∧
        (Builtin.evaluator.evaluate byHost ⟨0, 2⟩ (.single ⟨"hosts.*", ⟨0, 2⟩⟩ [gapped Binary64.notANumber])).outcome =
          .ok ys ∧
        List.Forall₂ (fun s t => s.Agree t ∧ s.points = t.points) xs ys) ∧
    (Builtin.evaluator.evaluate byHost ⟨0, 2⟩ (.single ⟨"hosts.*", ⟨0, 2⟩⟩ [gapped Binary64.notANumber])).outcome =
      .ok [(gapped 0.0).renamed "a"] :=
  ⟨answers_ignore_placeholders Builtin.evaluator rfl byHost _ _ _ (gapped_single 0.0 Binary64.notANumber),
    by decide +kernel⟩

end TargetEval

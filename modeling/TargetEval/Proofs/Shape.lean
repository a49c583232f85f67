import TargetEval.Proofs.Invariants
import TargetEval.Proofs.Sources

set_option autoImplicit false

namespace TargetEval

namespace Series

def Covers (s : Series) : Prop := Grid.count s.start s.stop s.step = .ok s.values.size

theorem spanning_sizes (name : String) (start stop step : Seconds) (points : List (Option Float)) :
    (spanning name start stop step points).values.size = points.length ∧
      (spanning name start stop step points).absent.size = points.length := by
  simp [spanning]

theorem shaped_spanning (name : String) (start stop step : Seconds) (points : List (Option Float))
    (positive : 0 < step) : (spanning name start stop step points).Shaped := by
  obtain ⟨values, absent⟩ := spanning_sizes name start stop step points
  exact ⟨absent.trans values.symm, positive⟩

theorem covers_spanning (name : String) (start stop step : Seconds) (points : List (Option Float))
    (counted : Grid.count start stop step = .ok points.length) : (spanning name start stop step points).Covers := by
  unfold Covers
  rw [(spanning_sizes name start stop step points).1]
  exact counted

theorem along_length (m : MovingMean) (points : List (Option Float)) : (m.along points).length = points.length := by
  induction points generalizing m with
  | nil => rfl
  | cons p rest ih => cases p <;> simp [MovingMean.along, ih]

theorem points_room (s : Series) : s.points.length ≤ s.size := by
  rw [points, List.length_zipWith, Array.length_toList]
  exact Nat.min_le_left _ _

theorem flagged_length (s : Series) (flagged : s.values.size = s.absent.size) : s.points.length = s.size := by
  rw [points, List.length_zipWith, Array.length_toList, Array.length_toList, ← flagged, Nat.min_self]
  rfl

theorem smooth_spanning (s : Series) (name : String) (weight : Float) :
    ∃ points, s.smooth name weight = spanning name s.start s.stop s.step points ∧ points.length = s.values.size := by
  refine ⟨_, rfl, ?_⟩
  have room : s.points.length ≤ s.values.size := s.points_room
  simp only [List.length_append, List.length_replicate, along_length, size]
  omega

theorem combine_spanning (name : String) (xs : List Series) (fold : List Float → Float) (result : Series)
    (combined : combine name xs fold = .ok result) :
    ∃ first ∈ xs, ∃ points, result = spanning name first.start first.stop first.step points ∧
      points.length = first.values.size := by
  cases xs with
  | nil => cases combined
  | cons first others =>
      unfold combine at combined
      cases odd : others.find? fun other => !first.isAligned other with
      | some other => simp only [odd] at combined; cases combined
      | none =>
          simp only [odd] at combined
          cases combined
          exact ⟨first, List.mem_cons_self, _, rfl, by simp [size]⟩

theorem bucket_points_length (s : Series) (start stop width : Seconds) (buckets : Nat) (r : Reducer) :
    (s.bucketPoints start stop width buckets r).length = buckets := by
  simp only [bucketPoints, List.length_append, List.length_map, List.length_take, List.length_replicate]
  omega

def bucketSpan? (s : Series) (width : Seconds) (fromStart : Bool) : Option (Seconds × Seconds) :=
  if fromStart then some (s.start, s.stop) else Grid.align? s.start s.stop width

theorem summarize_fine (s : Series) (name : String) (width : Seconds) (r : Reducer) (fromStart : Bool)
    (fine : ¬ width < s.step) :
    s.summarize name width r fromStart =
      match s.bucketSpan? width fromStart with
      | none => .error .unrepresentable
      | some (start, stop) =>
          match Grid.count start stop width with
          | .error fault => .error fault
          | .ok buckets => .ok (spanning name start stop width (s.bucketPoints start stop width buckets r)) := by
  unfold summarize
  rw [if_neg fine]
  rfl

theorem summarize_cases (s : Series) (name : String) (width : Seconds) (r : Reducer) (fromStart : Bool)
    (result : Series) (rolled : s.summarize name width r fromStart = .ok result) :
    result = s.renamed name ∨
      ¬ width < s.step ∧ ∃ start stop points, result = spanning name start stop width points ∧
        Grid.count start stop width = .ok points.length := by
  by_cases coarse : width < s.step
  · simp only [summarize, if_pos coarse] at rolled
    cases rolled
    exact .inl rfl
  · rw [summarize_fine s name width r fromStart coarse] at rolled
    cases spanned : s.bucketSpan? width fromStart with
    | none => simp only [spanned] at rolled; cases rolled
    | some span =>
        cases counted : Grid.count span.1 span.2 width with
        | error fault => simp only [spanned, counted] at rolled; cases rolled
        | ok buckets =>
            simp only [spanned, counted] at rolled
            cases rolled
            exact .inr ⟨coarse, _, _, _, rfl, by rw [bucket_points_length]; exact counted⟩

end Series

theorem preserved_shaped : Preserved Series.Shaped where
  renamed := fun _ _ shaped => shaped
  combine := fun name xs fold result all combined => by
    obtain ⟨first, member, points, rfl, _⟩ := Series.combine_spanning name xs fold result combined
    exact Series.shaped_spanning _ _ _ _ _ (all first member).2
  summarize := fun s name width r fromStart result shaped rolled => by
    -- The width of the buckets is positive because it is no less than the step.
    rcases Series.summarize_cases s name width r fromStart result rolled with rfl | ⟨fine, start, stop, points, rfl, _⟩
    · exact shaped
    · exact Series.shaped_spanning _ _ _ _ _ (Int64.lt_of_lt_of_le shaped.2 (Int64.not_lt.mp fine))
  smooth := fun s name weight shaped => by
    obtain ⟨points, smoothed, _⟩ := s.smooth_spanning name weight
    rw [smoothed]
    exact Series.shaped_spanning _ _ _ _ _ shaped.2

theorem preserved_covers : Preserved Series.Covers where
  renamed := fun _ _ covers => covers
  combine := fun name xs fold result all combined => by
    obtain ⟨first, member, points, rfl, length⟩ := Series.combine_spanning name xs fold result combined
    exact Series.covers_spanning _ _ _ _ _ (length ▸ all first member)
  summarize := fun s name width r fromStart result covers rolled => by
    rcases Series.summarize_cases s name width r fromStart result rolled with rfl | ⟨_, _, _, _, rfl, counted⟩
    · exact covers
    · exact Series.covers_spanning _ _ _ _ _ counted
  smooth := fun s name weight covers => by
    obtain ⟨points, smoothed, length⟩ := s.smooth_spanning name weight
    rw [smoothed]
    exact Series.covers_spanning _ _ _ _ _ (length ▸ covers)

theorem checked_shaped (series : List Series) (passed : series.forM Series.check = .ok ()) :
    ∀ s ∈ series, s.Shaped := by
  induction series with
  | nil => simp
  | cons head rest ih =>
      change (head.check >>= fun _ => rest.forM Series.check) = .ok () at passed
      cases checked : head.check with
      | error e => rw [checked] at passed; cases passed
      | ok done =>
          rw [checked] at passed
          exact List.forall_mem_cons.mpr ⟨head.check_ok.mp checked, ih passed⟩

theorem after_inserts_shaped (calls : List (FetchKey × List Series)) (key : FetchKey) :
    ∀ s ∈ (SeriesIndex.afterInserts calls).get key, s.Shaped := by
  have kept : ∀ index : SeriesIndex, (∀ s ∈ index.get key, s.Shaped) →
      ∀ s ∈ (calls.foldl (fun index call => (index.insert call.1 call.2).1) index).get key, s.Shaped := by
    induction calls with
    | nil => exact fun _ shaped => shaped
    | cons call rest ih =>
        intro index shaped
        refine ih _ fun s member => ?_
        rcases index.get_insert call.1 key call.2 with same | ⟨_, passed, grown⟩
        · exact shaped s (same ▸ member)
        · rw [grown] at member
          exact (List.mem_append.mp member).elim (shaped s) (checked_shaped call.2 passed s)
  exact kept .empty (by simp [SeriesIndex.get, SeriesIndex.empty])

/-- Evaluation against an index that insertions have made gives series with one flag for each value
and a positive step. If the series of the index cover their spans, those of the answer do. -/
theorem answers_keep_shape_and_grid (ev : Evaluator) (builtin : ev.registry = Builtin.registry)
    (calls : List (FetchKey × List Series)) (e : Expr) (window : Window) (result : List Series)
    (evaluated : (ev.evaluate e window (.afterInserts calls)).outcome = .ok result) :
    (∀ s ∈ result, s.absent.size = s.values.size ∧ 0 < s.step) ∧
    ((∀ key, ∀ s ∈ (SeriesIndex.afterInserts calls).get key, Grid.count s.start s.stop s.step = .ok s.values.size) →
      ∀ s ∈ result, Grid.count s.start s.stop s.step = .ok s.values.size) := by
  constructor
  · exact evaluate_preserves preserved_shaped ev builtin e window _
      (fun m _ => after_inserts_shaped calls ⟨m, window⟩) result evaluated
  · intro covers
    exact evaluate_preserves preserved_covers ev builtin e window _ (fun m _ => covers ⟨m, window⟩) result evaluated

def uneven : List (FetchKey × List Series) :=
  [(⟨"hosts.*", ⟨0, 10⟩⟩, [⟨"hosts.bad", #[1.0], #[], 0, 1, 1⟩]),
    (⟨"hosts.*", ⟨0, 10⟩⟩,
      [.ofValues "hosts.a" 1 1 [1.0, 2.0, 3.0, 4.0, 5.0], .ofValues "hosts.b" 0 7 [6.0]])]

def summarized : Expr :=
  .call ⟨"summarize", [.metric "hosts.*" 10, .string "2s", .string "max", .boolean true], [],
    "hosts.*,'2s','max',true", 0⟩

def summaries : List Series :=
  [.spanning "summarize(hosts.a,'2s','max',true)" 1 6 2 [some 2.0, some 4.0, some 5.0],
    .spanning "summarize(hosts.b,'2s','max',true)" 0 7 7 [some 6.0]]

theorem summaries_keep_shape_and_grid :
    (Builtin.evaluator.evaluate summarized ⟨0, 10⟩ (.afterInserts uneven)).outcome = .ok summaries ∧
    (∀ s ∈ summaries, s.absent.size = s.values.size ∧ 0 < s.step) ∧
    ∀ s ∈ summaries, Grid.count s.start s.stop s.step = .ok s.values.size := by
  have evaluated : (Builtin.evaluator.evaluate summarized ⟨0, 10⟩ (.afterInserts uneven)).outcome = .ok summaries := by
    decide +kernel
  obtain ⟨shaped, covers⟩ :=
    answers_keep_shape_and_grid Builtin.evaluator rfl uneven summarized ⟨0, 10⟩ summaries evaluated
  refine ⟨evaluated, shaped, covers fun key => ?_⟩
  have found : (SeriesIndex.afterInserts uneven).get key =
      if (⟨"hosts.*", ⟨0, 10⟩⟩ : FetchKey) = key then
        [.ofValues "hosts.a" 1 1 [1.0, 2.0, 3.0, 4.0, 5.0], .ofValues "hosts.b" 0 7 [6.0]]
      else [] := SeriesIndex.get_single _ key _
  rw [found]
  split
  · decide +kernel
  · simp

end TargetEval

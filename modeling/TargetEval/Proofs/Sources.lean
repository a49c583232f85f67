import TargetEval.Proofs.TwoRuns

set_option autoImplicit false

namespace TargetEval

theorem each_eq_iff (xs ys : List Series) : List.Forall₂ Eq xs ys ↔ xs = ys := by
  rw [List.forall₂_eq_eq_eq]

theorem respected_eq : Respected Eq where
  name := fun _ _ same => congrArg Series.name same
  renamed := fun _ _ name same => congrArg (Series.renamed · name) same
  combine := fun name xs ys fold same => by
    rw [(each_eq_iff xs ys).mp same]
    exact .refl_of Eq (fun _ => rfl) _
  summarize := fun _ _ _ _ _ _ same => same ▸ .refl_of Eq (fun _ => rfl) _
  smooth := fun _ _ name weight same => congrArg (Series.smooth · name weight) same
  passes := fun _ _ r comparison threshold same => congrArg (Threshold.passes r comparison threshold) same

theorem eq_of_twin (a b : Answer (List Series)) (twin : Answer.Twin (List.Forall₂ Eq) a b) : a = b := by
  obtain ⟨outcome, events⟩ := a
  obtain ⟨other, others⟩ := b
  obtain ⟨same, rfl⟩ := twin
  have equal : outcome = other := (same.mono fun xs ys each => (each_eq_iff xs ys).mp each).eq_of_eq
  rw [equal]

theorem evaluate_of_sources (ev : Evaluator) (builtin : ev.registry = Builtin.registry) (e : Expr)
    (first second : Window) (index other : SeriesIndex)
    (same : ∀ m ∈ e.sources, index.get ⟨m, first⟩ = other.get ⟨m, second⟩) :
    ev.evaluate e first index = ev.evaluate e second other :=
  eq_of_twin _ _ (node_twin respected_eq ev builtin first second _ index other e fun m source =>
    (each_eq_iff _ _).mpr (same m source))

def SeriesIndex.rekeyed (index : SeriesIndex) (window : Window) : SeriesIndex :=
  ⟨index.entries.map fun entry => (⟨entry.1.metric, window⟩, entry.2)⟩

theorem get_rekeyed (index : SeriesIndex) (first second : Window)
    (all : ∀ entry ∈ index.entries, entry.1.window = first) (m : String) :
    (index.rekeyed second).get ⟨m, second⟩ = index.get ⟨m, first⟩ := by
  obtain ⟨entries⟩ := index
  simp only [SeriesIndex.rekeyed, SeriesIndex.get] at all ⊢
  congr 1
  induction entries with
  | nil => rfl
  | cons entry rest ih =>
      obtain ⟨⟨metric, window⟩, series⟩ := entry
      have here : window = first := all _ List.mem_cons_self
      subst here
      rw [List.map_cons, SeriesIndex.lookup_cons, SeriesIndex.lookup_cons,
        ih fun entry member => all entry (List.mem_cons_of_mem _ member)]
      simp only [FetchKey.mk.injEq, and_true]

def Builtin.evaluator : Evaluator := evaluatorWith Settings.default.evaluator

/-- The answer to an expression depends on the window and the index only through the series found
for its sources. So it does not change with series added under keys that are no sources, nor with a
move of the whole index to another window. -/
theorem answer_depends_on_sources (ev : Evaluator) (builtin : ev.registry = Builtin.registry) (e : Expr) :
    (∀ (first second : Window) (index other : SeriesIndex),
      (∀ m ∈ e.sources, index.get ⟨m, first⟩ = other.get ⟨m, second⟩) →
        ev.evaluate e first index = ev.evaluate e second other) ∧
    (∀ (window : Window) (index : SeriesIndex) (key : FetchKey) (series : List Series),
      (∀ m ∈ e.sources, key ≠ ⟨m, window⟩) →
        ev.evaluate e window (index.insert key series).1 = ev.evaluate e window index) ∧
    (∀ (first second : Window) (index : SeriesIndex),
      (∀ entry ∈ index.entries, entry.1.window = first) →
        ev.evaluate e second (index.rekeyed second) = ev.evaluate e first index) := by
  refine ⟨evaluate_of_sources ev builtin e, ?_, ?_⟩
  · intro window index key series unrelated
    refine evaluate_of_sources ev builtin e window window _ index fun m source => ?_
    rcases index.get_insert key ⟨m, window⟩ series with same | ⟨hit, _⟩
    · exact same
    · exact absurd hit (unrelated m source)
  · intro first second index all
    exact evaluate_of_sources ev builtin e second first _ _ fun m _ => get_rekeyed index first second all m

def hosts : List Series := [.ofValues "hosts.a" 0 1 [1.0, 2.0], .ofValues "hosts.b" 0 1 [3.0, 4.0]]

def byHost : Expr :=
  .call ⟨"groupByNode", [.metric "hosts.*" 12, .number 1.0, .string "sum"], [], "hosts.*, 1, 'sum'", 0⟩

def total : Expr := .call ⟨"sumSeries", [byHost, .metric "hosts.*" 31], [], "groupByNode(hosts.*, 1, 'sum'), hosts.*", 0⟩

-- The index also has a key that is the name of a group.
def crowded : SeriesIndex := ⟨[(⟨"hosts.*", ⟨0, 2⟩⟩, hosts), (⟨"a", ⟨0, 2⟩⟩, hosts)]⟩

theorem by_host_sources (m : String) (source : m ∈ byHost.sources) : m = "hosts.*" :=
  List.mem_singleton.mp source

theorem by_host_depends_on_hosts :
    Builtin.evaluator.evaluate byHost ⟨0, 2⟩ crowded =
        Builtin.evaluator.evaluate byHost ⟨5, 7⟩ (.single ⟨"hosts.*", ⟨5, 7⟩⟩ hosts) ∧
      Builtin.evaluator.evaluate byHost ⟨0, 2⟩ ⟨crowded.entries ++ [(⟨"b", ⟨0, 2⟩⟩, hosts)]⟩ =
        Builtin.evaluator.evaluate byHost ⟨0, 2⟩ crowded ∧
      Builtin.evaluator.evaluate byHost ⟨5, 7⟩ (crowded.rekeyed ⟨5, 7⟩) =
        Builtin.evaluator.evaluate byHost ⟨0, 2⟩ crowded ∧
      (Builtin.evaluator.evaluate byHost ⟨0, 2⟩ crowded).outcome =
        .ok [hosts[0].renamed "a", hosts[1].renamed "b"] := by
  obtain ⟨sources, unrelated, rekeyed⟩ := answer_depends_on_sources Builtin.evaluator rfl byHost
  have added : (crowded.insert ⟨"b", ⟨0, 2⟩⟩ hosts).1 = ⟨crowded.entries ++ [(⟨"b", ⟨0, 2⟩⟩, hosts)]⟩ := rfl
  refine ⟨sources _ _ _ _ ?_, added ▸ unrelated _ _ ⟨"b", ⟨0, 2⟩⟩ hosts ?_, rekeyed _ _ _ ?_, ?_⟩
  · intro m source
    rw [by_host_sources m source]
    decide
  · intro m source
    rw [by_host_sources m source]
    decide
  · decide
  · decide +kernel

end TargetEval

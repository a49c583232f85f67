import TargetEval.Proofs.TwoRuns

set_option autoImplicit false

namespace TargetEval

structure Preserved (property : Series → Prop) : Prop where
  renamed : ∀ s name, property s → property (s.renamed name)
  combine : ∀ name xs fold result, (∀ s ∈ xs, property s) → Series.combine name xs fold = .ok result →
    property result
  summarize : ∀ s name width r fromStart result, property s →
    s.summarize name width r fromStart = .ok result → property result
  smooth : ∀ s name weight, property s → property (s.smooth name weight)

variable {property : Series → Prop}

theorem each_itself_iff (xs ys : List Series) :
    List.Forall₂ (fun s t => s = t ∧ property s) xs ys ↔ xs = ys ∧ ∀ s ∈ xs, property s := by
  constructor
  · intro inputs
    induction inputs with
    | nil => simp
    | cons head _ ih =>
        obtain ⟨rfl, holds⟩ := head
        obtain ⟨rfl, all⟩ := ih
        exact ⟨rfl, List.forall_mem_cons.mpr ⟨holds, all⟩⟩
  · rintro ⟨rfl, all⟩
    exact List.forall₂_same.mpr fun s member => ⟨rfl, all s member⟩

theorem alike_itself {ε : Type} (a : Except ε Series) (holds : ∀ result, a = .ok result → property result) :
    Alike (fun s t => s = t ∧ property s) a a := by
  cases a with
  | ok result => exact .ok ⟨rfl, holds result rfl⟩
  | error e => exact .error e

theorem respected_of_preserved (preserved : Preserved property) :
    Respected fun s t => s = t ∧ property s where
  name := fun _ _ same => congrArg Series.name same.1
  renamed := fun s _ name ⟨same, holds⟩ => ⟨congrArg (Series.renamed · name) same, preserved.renamed s name holds⟩
  combine := fun name xs ys fold inputs => by
    obtain ⟨rfl, all⟩ := (each_itself_iff xs ys).mp inputs
    exact alike_itself _ fun result combined => preserved.combine name xs fold result all combined
  summarize := fun s _ name width r fromStart ⟨same, holds⟩ => by
    subst same
    exact alike_itself _ fun result rolled => preserved.summarize s name width r fromStart result holds rolled
  smooth := fun s _ name weight ⟨same, holds⟩ =>
    ⟨congrArg (Series.smooth · name weight) same, preserved.smooth s name weight holds⟩
  passes := fun _ _ r comparison threshold same => congrArg (Threshold.passes r comparison threshold) same.1

theorem evaluate_preserves (preserved : Preserved property) (ev : Evaluator)
    (builtin : ev.registry = Builtin.registry) (e : Expr) (window : Window) (index : SeriesIndex)
    (all : ∀ m ∈ e.sources, ∀ s ∈ index.get ⟨m, window⟩, property s) (result : List Series)
    (evaluated : (ev.evaluate e window index).outcome = .ok result) : ∀ s ∈ result, property s := by
  have twin := node_twin (respected_of_preserved preserved) ev builtin window window (ev.settings.maxDepth + 1)
    index index e fun m source => (each_itself_iff _ _).mpr ⟨rfl, all m source⟩
  have outcomes := twin.outcomes
  change (ev.node window (ev.settings.maxDepth + 1) index e).outcome = .ok result at evaluated
  rw [evaluated] at outcomes
  cases outcomes with
  | ok each => exact ((each_itself_iff _ _).mp each).2

end TargetEval

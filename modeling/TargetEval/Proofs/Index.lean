import TargetEval.Series.Index

set_option autoImplicit false

namespace TargetEval.SeriesIndex

theorem lookup_cons (key other : FetchKey) (series : List Series) (rest : List (FetchKey × List Series)) :
    ((key, series) :: rest).lookup other = if key = other then some series else rest.lookup other := by
  by_cases same : key = other
  · simp [same]
  · simp [List.lookup_cons, same, beq_false_of_ne (Ne.symm same)]

theorem get_single (key other : FetchKey) (series : List Series) :
    (single key series).get other = if key = other then series else [] := by
  simp only [single, get, lookup_cons]
  split <;> rfl

theorem lookup_append (key other : FetchKey) (series : List Series) (entries : List (FetchKey × List Series)) :
    ((append key series entries).lookup other).getD [] =
      (entries.lookup other).getD [] ++ if key = other then series else [] := by
  induction entries with
  | nil =>
      rw [append, lookup_cons]
      split <;> simp
  | cons entry rest ih =>
      obtain ⟨k, old⟩ := entry
      by_cases same : k = key
      · subst k
        rw [append, if_pos rfl, lookup_cons, lookup_cons]
        split <;> simp
      · rw [append, if_neg same, lookup_cons, lookup_cons]
        by_cases hit : k = other
        · have different : key ≠ other := fun eq => same (hit.trans eq.symm)
          simp [hit, different]
        · simpa [hit] using ih

theorem insert_cases (index : SeriesIndex) (key : FetchKey) (series : List Series) :
    series.forM Series.check = .ok () ∧ index.insert key series = (⟨append key series index.entries⟩, none) ∨
      ∃ e, series.forM Series.check = .error e ∧ index.insert key series = (index, some e) := by
  unfold insert
  cases series.forM Series.check with
  | ok done => exact .inl ⟨rfl, rfl⟩
  | error e => exact .inr ⟨e, rfl, rfl⟩

theorem get_insert (index : SeriesIndex) (key other : FetchKey) (series : List Series) :
    (index.insert key series).1.get other = index.get other ∨
      key = other ∧ series.forM Series.check = .ok () ∧
        (index.insert key series).1.get other = index.get other ++ series := by
  rcases index.insert_cases key series with ⟨checked, inserted⟩ | ⟨e, _, refused⟩
  · rw [inserted]
    have found := lookup_append key other series index.entries
    by_cases same : key = other
    · rw [if_pos same] at found
      exact .inr ⟨same, checked, found⟩
    · rw [if_neg same, List.append_nil] at found
      exact .inl found
  · rw [refused]
    exact .inl rfl

def afterInserts (calls : List (FetchKey × List Series)) : SeriesIndex :=
  calls.foldl (fun index call => (index.insert call.1 call.2).1) empty

end TargetEval.SeriesIndex

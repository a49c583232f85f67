import Mathlib.Data.List.Induction
import Mathlib.Data.List.Nodup
import TargetEval.Function.Grouping

set_option autoImplicit false

namespace TargetEval.Grouping

def nodeAt (nodes : List String) (number : Int64) : String :=
  nodes.getD (if number.toInt < 0 then nodes.length + number.toInt else number.toInt).toNat ""

def keyAt (numbers : List Int64) (name : String) : String :=
  ".".intercalate (numbers.map (nodeAt (MetricName.nodes name)))

theorem node_present (nodes : List String) (number : Int64) (present : HasNode nodes.length number) :
    MetricName.node? nodes number = some (nodeAt nodes number) := by
  obtain ⟨low, high⟩ := present
  have negative : number < 0 ↔ number.toInt < 0 := Int64.lt_iff_toInt_lt
  unfold MetricName.node? nodeAt
  simp only [negative]
  generalize chosen : (if number.toInt < 0 then (nodes.length : Int) + number.toInt else number.toInt) = n
  have bounds : 0 ≤ n ∧ n < nodes.length := by
    split at chosen <;> omega
  have inside : n.toNat < nodes.length := by omega
  rw [if_neg (by omega), List.getD_eq_getElem?_getD, List.getElem?_eq_getElem inside, Option.getD_some]

theorem node_missing (nodes : List String) (number : Int64) (missing : ¬ HasNode nodes.length number) :
    MetricName.node? nodes number = none := by
  have negative : number < 0 ↔ number.toInt < 0 := Int64.lt_iff_toInt_lt
  unfold MetricName.node?
  simp only [negative]
  generalize chosen : (if number.toInt < 0 then (nodes.length : Int) + number.toInt else number.toInt) = n
  have outside : n < 0 ∨ (nodes.length : Int) ≤ n := by
    unfold HasNode at missing
    split at chosen <;> omega
  by_cases below : n < 0
  · rw [if_pos below]
  · rw [if_neg below, List.getElem?_eq_none (by omega)]

theorem chosen_present (nodes : List String) (offset : Nat) (numbers : List Int64)
    (present : ∀ n ∈ numbers, HasNode nodes.length n) :
    MetricName.chosen nodes offset numbers = .ok (numbers.map (nodeAt nodes)) := by
  induction numbers generalizing offset with
  | nil => rfl
  | cons number rest ih =>
      obtain ⟨here, later⟩ := List.forall_mem_cons.mp present
      rw [MetricName.chosen, node_present nodes number here, ih (offset + 1) later]
      rfl

theorem chosen_missing (nodes : List String) (offset : Nat) (before after : List Int64) (number : Int64)
    (present : ∀ n ∈ before, HasNode nodes.length n) (missing : ¬ HasNode nodes.length number) :
    MetricName.chosen nodes offset (before ++ number :: after) =
      .error ⟨offset + before.length, number, nodes.length⟩ := by
  induction before generalizing offset with
  | nil =>
      rw [List.nil_append, MetricName.chosen, node_missing nodes number missing]
      rfl
  | cons head rest ih =>
      obtain ⟨here, later⟩ := List.forall_mem_cons.mp present
      rw [List.cons_append, MetricName.chosen, node_present nodes head here, ih (offset + 1) later]
      simp only [Except.map, List.length_cons]
      congr 2
      omega

theorem key_of_present (c : Call Expr) (o : Options) (s : Series) (present : HasKey o s) :
    keyOf c o s = .ok (keyAt o.nodes s.name) := by
  unfold keyOf MetricName.key
  rw [chosen_present _ _ _ present]
  rfl

def missingNode (c : Call Expr) (o : Options) (s : Series) (offset : Nat) (number : Int64) : Error :=
  .argument
    { function := c.name, index := o.firstNode + offset, name := o.nodeName, expected := .integer
      problem := .invalid ("node " ++ toString number.toInt ++ " is out of range for '" ++ s.name ++ "' ("
        ++ toString (MetricName.nodes s.name).length ++ " nodes)") }

theorem key_of_missing (c : Call Expr) (o : Options) (s : Series) (before after : List Int64) (number : Int64)
    (split : o.nodes = before ++ number :: after)
    (present : ∀ n ∈ before, HasNode (MetricName.nodes s.name).length n)
    (missing : ¬ HasNode (MetricName.nodes s.name).length number) :
    keyOf c o s = .error (missingNode c o s before.length number) := by
  unfold keyOf MetricName.key
  rw [split, chosen_missing _ _ _ _ _ present missing]
  simp only [Except.map, Nat.zero_add]
  rfl

theorem erase_dups_snoc (keys : List String) (key : String) :
    (keys ++ [key]).eraseDups = if key ∈ keys then keys.eraseDups else keys.eraseDups ++ [key] := by
  rw [List.eraseDups_append]
  by_cases seen : key ∈ keys <;> simp [List.removeAll, seen, List.eraseDups_cons]

theorem erase_dups_nodup (keys : List String) : keys.eraseDups.Nodup := by
  induction keys using List.reverseRecOn with
  | nil => simp
  | append_singleton keys key ih =>
      rw [erase_dups_snoc]
      split
      · exact ih
      · next fresh =>
          rw [← List.concat_eq_append]
          exact ih.concat fun old => fresh (List.mem_eraseDups.mp old)

def grouped (key : Series → String) (series : List Series) : List Group :=
  (series.map key).eraseDups.map fun k => (k, series.filter fun s => key s = k)

theorem file_absent (key : String) (s : Series) (found : List Group) (absent : ∀ group ∈ found, group.1 ≠ key) :
    file key s found = found ++ [(key, [s])] := by
  induction found with
  | nil => rfl
  | cons group rest ih =>
      obtain ⟨here, later⟩ := List.forall_mem_cons.mp absent
      rw [file, if_neg here, ih later, List.cons_append]

theorem file_present (key : String) (s : Series) (keys : List String) (members : String → List Series)
    (distinct : keys.Nodup) (present : key ∈ keys) :
    file key s (keys.map fun k => (k, members k)) =
      keys.map fun k => (k, if k = key then members k ++ [s] else members k) := by
  induction keys with
  | nil => cases present
  | cons k rest ih =>
      obtain ⟨notLater, distinctRest⟩ := List.nodup_cons.mp distinct
      by_cases hit : k = key
      · subst k
        rw [List.map_cons, file, if_pos rfl, List.map_cons, if_pos rfl]
        congr 1
        refine List.map_congr_left fun k member => ?_
        have different : k ≠ key := fun same => notLater (same ▸ member)
        rw [if_neg different]
      · rcases List.mem_cons.mp present with same | later
        · exact absurd same.symm hit
        · rw [List.map_cons, file, if_neg hit, List.map_cons, if_neg hit, ih distinctRest later]

theorem file_grouped (key : Series → String) (series : List Series) (s : Series) :
    file (key s) s (grouped key series) = grouped key (series ++ [s]) := by
  unfold grouped
  rw [List.map_append, List.map_cons, List.map_nil, erase_dups_snoc]
  -- A key seen before keeps its place and a new one goes to the end.
  by_cases seen : key s ∈ series.map key
  · rw [if_pos seen, file_present _ _ _ _ (erase_dups_nodup _) (List.mem_eraseDups.mpr seen)]
    refine List.map_congr_left fun k _ => ?_
    by_cases hit : k = key s
    · subst hit
      simp
    · simp [hit, Ne.symm hit]
  · rw [if_neg seen, file_absent, List.map_append, List.map_cons, List.map_nil]
    · congr 1
      · refine List.map_congr_left fun k listed => ?_
        have different : key s ≠ k := by
          rintro rfl
          exact seen (List.mem_eraseDups.mp listed)
        simp [different]
      · have none : ∀ t ∈ series, key t ≠ key s := fun t member same =>
          seen (List.mem_map.mpr ⟨t, member, same⟩)
        have empty : series.filter (fun t => key t = key s) = [] :=
          List.filter_eq_nil_iff.mpr fun t member => by simpa using none t member
        simp [empty]
    · intro group member
      obtain ⟨k, listed, rfl⟩ := List.mem_map.mp member
      rintro rfl
      exact seen (List.mem_eraseDups.mp listed)

theorem first_exception {α : Type} (holds : α → Prop) (items : List α) (fails : ¬ ∀ x ∈ items, holds x) :
    ∃ before x after, items = before ++ x :: after ∧ (∀ y ∈ before, holds y) ∧ ¬ holds x := by
  induction items with
  | nil => exact absurd (List.forall_mem_nil _) fails
  | cons head rest ih =>
      by_cases here : holds head
      · have later : ¬ ∀ x ∈ rest, holds x := fun all => fails (List.forall_mem_cons.mpr ⟨here, all⟩)
        obtain ⟨before, x, after, rfl, fine, exception⟩ := ih later
        exact ⟨head :: before, x, after, rfl, List.forall_mem_cons.mpr ⟨here, fine⟩, exception⟩
      · exact ⟨[], head, rest, rfl, List.forall_mem_nil _, here⟩

theorem groups_present (c : Call Expr) (o : Options) (series : List Series) (present : ∀ s ∈ series, HasKey o s) :
    groups c o series = .ok (grouped (fun s => keyAt o.nodes s.name) series) := by
  -- The groups found so far are the grouping of the series read so far.
  have filed : ∀ earlier, series.foldlM (fun found s => return file (← keyOf c o s) s found)
        (grouped (fun s => keyAt o.nodes s.name) earlier) =
      Except.ok (ε := Error) (grouped (fun s => keyAt o.nodes s.name) (earlier ++ series)) := by
    induction series with
    | nil => simp [pure, Except.pure]
    | cons s rest ih =>
        obtain ⟨here, later⟩ := List.forall_mem_cons.mp present
        intro earlier
        rw [List.foldlM_cons, key_of_present c o s here]
        change List.foldlM _ (file _ s _) rest = _
        rw [file_grouped (fun s => keyAt o.nodes s.name), ih later, List.append_assoc, List.cons_append,
          List.nil_append]
  exact filed []

theorem groups_missing (c : Call Expr) (o : Options) (series : List Series) (missing : ¬ ∀ s ∈ series, HasKey o s) :
    ∃ before s after earlier number later,
      series = before ++ s :: after ∧ (∀ t ∈ before, HasKey o t) ∧
        o.nodes = earlier ++ number :: later ∧ (∀ n ∈ earlier, HasNode (MetricName.nodes s.name).length n) ∧
        ¬ HasNode (MetricName.nodes s.name).length number ∧
        groups c o series = .error (missingNode c o s earlier.length number) := by
  obtain ⟨before, s, after, rfl, present, keyless⟩ := first_exception (HasKey o) series missing
  obtain ⟨earlier, number, later, split, fine, lacking⟩ := first_exception _ o.nodes keyless
  refine ⟨before, s, after, earlier, number, later, rfl, present, split, fine, lacking, ?_⟩
  -- The series in front all have keys, so the grouping gets as far as the first one without.
  have first := groups_present c o before present
  unfold groups at first ⊢
  rw [List.foldlM_append, first]
  simp only [List.foldlM_cons, key_of_missing c o s earlier later number split fine lacking]
  rfl

theorem groups_members (c : Call Expr) (o : Options) (series : List Series) (found : List Group)
    (ok : groups c o series = .ok found) : ∀ group ∈ found, ∀ s ∈ group.2, s ∈ series := by
  by_cases present : ∀ s ∈ series, HasKey o s
  · rw [groups_present c o series present] at ok
    cases ok
    intro group listed s inside
    obtain ⟨key, _, rfl⟩ := List.mem_map.mp listed
    exact List.mem_of_mem_filter inside
  · obtain ⟨_, s, _, earlier, number, _, _, _, _, _, _, refused⟩ := groups_missing c o series present
    rw [refused] at ok
    cases ok

end TargetEval.Grouping

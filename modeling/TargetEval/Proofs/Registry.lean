import Mathlib.Data.List.Pairwise
import TargetEval.Function.Builtin

set_option autoImplicit false

namespace TargetEval

namespace ByName

variable {α : Type}

theorem find_mem (name : String) (value : α) (entries : ByName α) (found : find? name entries = some value) :
    (name, value) ∈ entries := by
  induction entries with
  | nil => cases found
  | cons entry rest ih =>
      obtain ⟨key, old⟩ := entry
      by_cases hit : key = name
      · subst hit
        simp only [find?, ↓reduceIte] at found
        cases found
        exact List.mem_cons_self
      · rw [find?, if_neg hit] at found
        exact List.mem_cons_of_mem _ (ih found)

theorem mem_insert (name : String) (value : α) (entries : ByName α) (entry : String × α)
    (member : entry ∈ insert name value entries) : entry = (name, value) ∨ entry ∈ entries := by
  induction entries with
  | nil => exact .inl (List.mem_singleton.mp member)
  | cons head rest ih =>
      obtain ⟨key, old⟩ := head
      by_cases same : key = name
      · rw [insert, if_pos same] at member
        exact (List.mem_cons.mp member).imp_right (List.mem_cons_of_mem _)
      · by_cases before : name < key
        · rw [insert, if_neg same, if_pos before] at member
          exact List.mem_cons.mp member
        · rw [insert, if_neg same, if_neg before] at member
          rcases List.mem_cons.mp member with rfl | later
          · simp
          · exact (ih later).imp_right (List.mem_cons_of_mem _)

end ByName

namespace Registry

variable {ι : Type}

theorem register_all_bindings (r : Registry ι) (implementation : ι) (names : List String) :
    ∀ entry ∈ (r.registerAll implementation names).1.bindings,
      entry ∈ r.bindings ∨ entry.1 ∈ names ∧ entry.2 = implementation := by
  induction names generalizing r with
  | nil => exact fun entry member => .inl member
  | cons name rest ih =>
      intro entry member
      by_cases taken : r.contains name
      · simp only [registerAll, register, if_pos taken] at member
        exact .inl member
      · simp only [registerAll, register, if_neg taken] at member
        rcases ih _ entry member with earlier | ⟨listed, same⟩
        · rcases ByName.mem_insert _ _ _ entry earlier with rfl | old
          · exact .inr ⟨by simp, rfl⟩
          · exact .inl old
        · exact .inr ⟨by simp [listed], same⟩

theorem resolve_mem (r : Registry ι) (name : String) (position : Nat) (implementation : ι)
    (resolved : r.resolve name position = .ok implementation) : (name, implementation) ∈ r.bindings := by
  unfold resolve at resolved
  split at resolved
  next found =>
    cases resolved
    exact ByName.find_mem name _ _ found
  next => cases resolved

end Registry

namespace Builtin

theorem resolve_row (name : String) (position : Nat) (f : Function)
    (resolved : registry.resolve name position = .ok f) : ∃ row ∈ table, name ∈ row.1 ∧ f = row.2 := by
  -- Rows are registered one after the other, each on top of what the earlier ones bound.
  have collected : ∀ (rows : List (List String × Function)) (r : Registry Function),
      ∀ entry ∈ (rows.foldl (fun r row => (r.registerAll row.2 row.1).1) r).bindings,
        entry ∈ r.bindings ∨ ∃ row ∈ rows, entry.1 ∈ row.1 ∧ entry.2 = row.2 := by
    intro rows
    induction rows with
    | nil => exact fun r entry member => .inl member
    | cons row rest ih =>
        intro r entry member
        rcases ih _ entry member with earlier | ⟨later, listed, same⟩
        · rcases r.register_all_bindings row.2 row.1 entry earlier with old | fresh
          · exact .inl old
          · exact .inr ⟨row, by simp, fresh⟩
        · exact .inr ⟨later, by simp [listed], same⟩
  rcases collected table .empty _ (registry.resolve_mem name position f resolved) with impossible | row
  · cases impossible
  · exact row

theorem rows_registered : ∀ row ∈ table, ∀ name ∈ row.1, registry.contains name = true := by
  decide +kernel

theorem rows_disjoint : table.Pairwise fun row other => ∀ name ∈ row.1, name ∉ other.1 := by
  decide +kernel

theorem row_unique (row other : List String × Function) (here : row ∈ table) (there : other ∈ table) (name : String)
    (listed : name ∈ row.1) (again : name ∈ other.1) : row = other := by
  have symmetric : Std.Symm fun row other : List String × Function => ∀ name ∈ row.1, name ∉ other.1 :=
    ⟨fun _ _ apart name first second => apart name second first⟩
  by_contra different
  exact rows_disjoint.forall here there different name listed again

theorem resolve_listed (row : List String × Function) (here : row ∈ table) (name : String) (listed : name ∈ row.1)
    (position : Nat) : registry.resolve name position = .ok row.2 := by
  have bound : registry.contains name = true := rows_registered row here name listed
  unfold Registry.contains ByName.contains at bound
  obtain ⟨f, found⟩ := Option.isSome_iff_exists.mp bound
  have resolved : registry.resolve name position = .ok f := by rw [Registry.resolve, found]
  obtain ⟨other, there, again, rfl⟩ := resolve_row name position f resolved
  rw [resolved, row_unique row other here there name listed again]

end Builtin

end TargetEval

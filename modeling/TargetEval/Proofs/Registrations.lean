import Mathlib.Data.List.Induction
import TargetEval.Proofs.Registry

set_option autoImplicit false

namespace TargetEval

namespace ByName

variable {α : Type}

def Ascending (entries : ByName α) : Prop := (keys entries).Pairwise (· < ·)

theorem mem_keys (name : String) (entries : ByName α) : name ∈ keys entries ↔ contains name entries = true := by
  induction entries with
  | nil => simp [keys, contains, find?]
  | cons entry rest ih =>
      obtain ⟨key, value⟩ := entry
      change name ∈ key :: keys rest ↔ _
      rw [List.mem_cons, ih]
      by_cases hit : key = name
      · simp [contains, find?, hit]
      · simp [contains, find?, hit, Ne.symm hit]

theorem mem_keys_insert (name other : String) (value : α) (entries : ByName α) :
    other ∈ keys (insert name value entries) ↔ other = name ∨ other ∈ keys entries := by
  rw [mem_keys, mem_keys, contains, find_insert]
  by_cases hit : name = other
  · simp [hit]
  · simp [contains, hit, Ne.symm hit]

theorem insert_ascending (name : String) (value : α) (entries : ByName α) (ascending : Ascending entries) :
    Ascending (insert name value entries) := by
  induction entries with
  | nil => exact List.pairwise_singleton _ _
  | cons entry rest ih =>
      obtain ⟨key, old⟩ := entry
      obtain ⟨first, later⟩ := List.pairwise_cons.mp ascending
      by_cases same : key = name
      · subst same
        rw [insert, if_pos rfl]
        exact ascending
      · by_cases before : name < key
        · rw [insert, if_neg same, if_pos before]
          refine List.pairwise_cons.mpr ⟨fun other member => ?_, ascending⟩
          rcases List.mem_cons.mp member with rfl | behind
          · exact before
          · exact String.lt_trans before (first other behind)
        · rw [insert, if_neg same, if_neg before]
          refine List.pairwise_cons.mpr ⟨fun other member => ?_, ih later⟩
          have after : key < name := Std.lt_of_le_of_ne (String.not_lt.mp before) same
          rcases (mem_keys_insert name other value rest).mp member with rfl | behind
          · exact after
          · exact first other behind

end ByName

inductive Registration (ι : Type) where
  | one (name : String) (implementation : ι)
  | several (names : List String) (implementation : ι)

def Registration.names {ι : Type} : Registration ι → List String
  | .one name _ => [name]
  | .several names _ => names

def Registration.implementation {ι : Type} : Registration ι → ι
  | .one _ implementation => implementation
  | .several _ implementation => implementation

namespace Registry

variable {ι : Type}

def afterCall (r : Registry ι) : Registration ι → Registry ι
  | .one name implementation => (r.register name implementation).1
  | .several names implementation => (r.registerAll implementation names).1

def afterCalls (calls : List (Registration ι)) : Registry ι := calls.foldl afterCall empty

theorem after_calls_snoc (calls : List (Registration ι)) (call : Registration ι) :
    afterCalls (calls ++ [call]) = (afterCalls calls).afterCall call := by
  rw [afterCalls, List.foldl_append]
  rfl

theorem after_call_names (r : Registry ι) (call : Registration ι) :
    r.afterCall call = (r.registerAll call.implementation call.names).1 := by
  cases call with
  | several names implementation => rfl
  | one name implementation =>
      by_cases bound : r.contains name <;>
        simp [afterCall, Registration.names, Registration.implementation, registerAll, register, bound]

theorem contains_find (r : Registry ι) (name : String) : r.contains name = (r.bindings.find? name).isSome := rfl

theorem register_taken (r : Registry ι) (name : String) (implementation : ι) (bound : r.contains name = true) :
    r.register name implementation = (r, some (taken name)) := by
  rw [register, if_pos bound]

theorem register_free (r : Registry ι) (name : String) (implementation : ι) (free : r.contains name = false) :
    r.register name implementation = (⟨r.bindings.insert name implementation⟩, none) := by
  rw [register, if_neg (Bool.eq_false_iff.mp free)]

theorem register_all_added (r : Registry ι) (implementation : ι) (names : List String) :
    ∃ added rest, names = added ++ rest ∧ added.Nodup ∧ (∀ name ∈ added, r.contains name = false) ∧
      (∀ name, (r.registerAll implementation names).1.bindings.find? name =
        (r.bindings.find? name).or (if name ∈ added then some implementation else none)) ∧
      (rest = [] ∧ (r.registerAll implementation names).2 = none ∨
        ∃ conflict more, rest = conflict :: more ∧ (conflict ∈ added ∨ r.contains conflict = true) ∧
          (r.registerAll implementation names).2 = some (taken conflict)) := by
  -- The registry grows with each name, so that a name conflicts with earlier ones of the list too.
  induction names generalizing r with
  | nil => exact ⟨[], [], rfl, .nil, by simp, by simp [registerAll], .inl ⟨rfl, rfl⟩⟩
  | cons name names ih =>
      cases bound : r.contains name with
      | true =>
          have refused := register_taken r name implementation bound
          refine ⟨[], name :: names, rfl, .nil, by simp, by simp [registerAll, refused], .inr ?_⟩
          exact ⟨name, names, rfl, .inr bound, by simp [registerAll, refused]⟩
      | false =>
          have registered := register_free r name implementation bound
          obtain ⟨added, rest, split, distinct, free, found, fault⟩ := ih ⟨r.bindings.insert name implementation⟩
          have apart : ∀ other ∈ added, name ≠ other ∧ r.contains other = false := by
            intro other member
            have absent := free other member
            rw [contains_find, ByName.find_insert] at absent
            by_cases hit : name = other
            · simp [hit] at absent
            · exact ⟨hit, by simpa [hit, contains_find] using absent⟩
          have ran : r.registerAll implementation (name :: names) =
              registerAll ⟨r.bindings.insert name implementation⟩ implementation names := by
            simp only [registerAll, registered]
          refine ⟨name :: added, rest, by rw [split, List.cons_append], ?_, ?_, ?_, ?_⟩
          · exact List.nodup_cons.mpr ⟨fun again => (apart name again).1 rfl, distinct⟩
          · exact List.forall_mem_cons.mpr ⟨bound, fun other member => (apart other member).2⟩
          · intro other
            have unbound : r.bindings.find? name = none := by simpa [contains_find] using bound
            rw [ran, found, ByName.find_insert]
            by_cases hit : name = other
            · subst hit
              simp [unbound]
            · simp [hit, Ne.symm hit]
          · rw [ran]
            refine fault.imp_right ?_
            rintro ⟨conflict, more, here, clash, reported⟩
            refine ⟨conflict, more, here, ?_, reported⟩
            rw [contains_find, ByName.find_insert] at clash
            by_cases hit : name = conflict
            · exact .inl (by simp [hit])
            · exact clash.imp (List.mem_cons_of_mem _) fun old => by simpa [hit, contains_find] using old

theorem find_after_call (r : Registry ι) (call : Registration ι) (name : String) :
    (r.afterCall call).bindings.find? name = r.bindings.find? name ∨
      r.contains name = false ∧ (r.afterCall call).bindings.find? name = some call.implementation := by
  obtain ⟨added, _, _, _, free, found, _⟩ := r.register_all_added call.implementation call.names
  rw [after_call_names, found name]
  by_cases member : name ∈ added
  · have absent := free name member
    refine .inr ⟨absent, ?_⟩
    have unbound : r.bindings.find? name = none := by simpa [contains_find] using absent
    simp [unbound, member]
  · exact .inl (by simp [member])

theorem register_all_ascending (r : Registry ι) (implementation : ι) (names : List String)
    (ascending : r.bindings.Ascending) : (r.registerAll implementation names).1.bindings.Ascending := by
  induction names generalizing r with
  | nil => exact ascending
  | cons name rest ih =>
      cases bound : r.contains name with
      | true => simpa only [registerAll, register_taken r name implementation bound] using ascending
      | false =>
          simp only [registerAll, register_free r name implementation bound]
          exact ih _ (ByName.insert_ascending name implementation r.bindings ascending)

theorem after_calls_ascending (calls : List (Registration ι)) : (afterCalls calls).bindings.Ascending := by
  induction calls using List.reverseRecOn with
  | nil => exact List.Pairwise.nil
  | append_singleton calls call ih =>
      rw [after_calls_snoc, after_call_names]
      exact register_all_ascending _ _ _ ih

theorem resolve_ok (r : Registry ι) (name : String) (position : Nat) (implementation : ι) :
    r.resolve name position = .ok implementation ↔ r.bindings.find? name = some implementation := by
  unfold resolve
  cases r.bindings.find? name with
  | none => simp
  | some found => simp

theorem resolve_unbound (r : Registry ι) (name : String) (position : Nat) (free : r.contains name = false) :
    r.resolve name position = .error (.unknownFunction name position) := by
  have unbound : r.bindings.find? name = none := by simpa [contains_find] using free
  rw [resolve, unbound]

theorem found_first_binding (calls : List (Registration ι)) (name : String) (implementation : ι) :
    (afterCalls calls).bindings.find? name = some implementation ↔
      ∃ earlier call later, calls = earlier ++ call :: later ∧ (afterCalls earlier).contains name = false ∧
        (afterCalls (earlier ++ [call])).contains name = true ∧ call.implementation = implementation := by
  induction calls using List.reverseRecOn with
  | nil => simp [afterCalls, empty, ByName.find?]
  | append_singleton calls last ih =>
      have changed := (afterCalls calls).find_after_call last name
      rw [← after_calls_snoc] at changed
      constructor
      · intro found
        rcases changed with same | ⟨free, bound⟩
        · obtain ⟨earlier, call, later, rfl, before, after, which⟩ := ih.mp (same ▸ found)
          exact ⟨earlier, call, later ++ [last], by simp, before, after, which⟩
        · refine ⟨calls, last, [], rfl, free, ?_, Option.some.inj (bound.symm.trans found)⟩
          rw [contains_find, bound]
          rfl
      · rintro ⟨earlier, call, later, split, before, after, rfl⟩
        rcases later.eq_nil_or_concat with rfl | ⟨shorter, final, rfl⟩
        · obtain ⟨rfl, same⟩ := List.append_inj' split rfl
          cases same
          rcases changed with same | ⟨_, bound⟩
          · rw [contains_find, same, ← contains_find, before] at after
            cases after
          · exact bound
        · obtain ⟨rfl, same⟩ : calls = earlier ++ call :: shorter ∧ [last] = [final] :=
            List.append_inj' (by simpa using split) rfl
          have found := ih.mpr ⟨earlier, call, shorter, rfl, before, after, rfl⟩
          rcases changed with same | ⟨free, _⟩
          · exact same.trans found
          · rw [contains_find, found] at free
            cases free

section

variable (calls : List (Registration ι))

theorem register_after (name : String) (implementation : ι) :
    ((∃ e, ((afterCalls calls).register name implementation).2 = some e) ↔
      (afterCalls calls).contains name = true) ∧
    ((afterCalls calls).contains name = true →
      (afterCalls calls).register name implementation = (afterCalls calls, some (taken name))) ∧
    ((afterCalls calls).contains name = false → ∀ other,
      (afterCalls (calls ++ [.one name implementation])).contains other = true ↔
        other = name ∨ (afterCalls calls).contains other = true) := by
  refine ⟨?_, register_taken _ name implementation, fun free other => ?_⟩
  · cases bound : (afterCalls calls).contains name with
    | true => simp [register_taken _ name implementation bound]
    | false => simp [register_free _ name implementation bound]
  · rw [after_calls_snoc, afterCall, register_free _ name implementation free]
    change ((afterCalls calls).bindings.insert name implementation).contains other = true ↔ _
    rw [← ByName.mem_keys, ByName.mem_keys_insert, ByName.mem_keys]
    rfl

theorem register_all_after (names : List String) (implementation : ι) :
    ∃ added rest, names = added ++ rest ∧ added.Nodup ∧
      (∀ name ∈ added, (afterCalls calls).contains name = false) ∧
      (∀ name, (afterCalls (calls ++ [.several names implementation])).contains name = true ↔
        name ∈ added ∨ (afterCalls calls).contains name = true) ∧
      (rest = [] ∧ ((afterCalls calls).registerAll implementation names).2 = none ∨
        ∃ conflict more, rest = conflict :: more ∧
          (conflict ∈ added ∨ (afterCalls calls).contains conflict = true) ∧
          ((afterCalls calls).registerAll implementation names).2 = some (taken conflict)) := by
  obtain ⟨added, rest, split, distinct, free, found, fault⟩ :=
    (afterCalls calls).register_all_added implementation names
  refine ⟨added, rest, split, distinct, free, fun name => ?_, fault⟩
  rw [after_calls_snoc, afterCall, contains_find, contains_find, found name, Option.isSome_or, Bool.or_eq_true]
  by_cases member : name ∈ added <;> simp [member]

theorem contains_resolve (r : Registry ι) (name : String) (position : Nat) :
    r.contains name = true ↔ ∃ implementation, r.resolve name position = .ok implementation := by
  simp only [contains_find, resolve_ok, Option.isSome_iff_exists]

/-- Registrations in any order, refused ones among them. A name is refused exactly if it is bound,
and the registry beside the error is the old one; of a list, the names before the first conflict are
bound. Every name stays with the implementation of the call that bound it first, and the observers
agree. -/
theorem first_registration_stays :
    (∀ name implementation,
      ((∃ e, ((afterCalls calls).register name implementation).2 = some e) ↔
        (afterCalls calls).contains name = true) ∧
      ((afterCalls calls).contains name = true →
        (afterCalls calls).register name implementation = (afterCalls calls, some (taken name))) ∧
      ((afterCalls calls).contains name = false → ∀ other,
        (afterCalls (calls ++ [.one name implementation])).contains other = true ↔
          other = name ∨ (afterCalls calls).contains other = true)) ∧
    (∀ names implementation, ∃ added rest, names = added ++ rest ∧ added.Nodup ∧
      (∀ name ∈ added, (afterCalls calls).contains name = false) ∧
      (∀ name, (afterCalls (calls ++ [.several names implementation])).contains name = true ↔
        name ∈ added ∨ (afterCalls calls).contains name = true) ∧
      (rest = [] ∧ ((afterCalls calls).registerAll implementation names).2 = none ∨
        ∃ conflict more, rest = conflict :: more ∧
          (conflict ∈ added ∨ (afterCalls calls).contains conflict = true) ∧
          ((afterCalls calls).registerAll implementation names).2 = some (taken conflict))) ∧
    (∀ name position implementation,
      (afterCalls calls).resolve name position = .ok implementation ↔
        ∃ earlier call later, calls = earlier ++ call :: later ∧ (afterCalls earlier).contains name = false ∧
          (afterCalls (earlier ++ [call])).contains name = true ∧ call.implementation = implementation) ∧
    (∀ name position,
      ((afterCalls calls).contains name = true ↔
        ∃ implementation, (afterCalls calls).resolve name position = .ok implementation) ∧
      ((afterCalls calls).contains name = false →
        (afterCalls calls).resolve name position = .error (.unknownFunction name position))) ∧
    (afterCalls calls).names.Pairwise (· < ·) ∧
    (∀ name, name ∈ (afterCalls calls).names ↔ (afterCalls calls).contains name = true) ∧
    (afterCalls calls).size = (afterCalls calls).names.length := by
  refine ⟨register_after calls, register_all_after calls, fun name position implementation => ?_,
    fun name position => ⟨contains_resolve _ name position, resolve_unbound _ name position⟩,
    after_calls_ascending calls, fun name => ByName.mem_keys name _, (List.length_map _).symm⟩
  rw [resolve_ok]
  exact found_first_binding calls name implementation

end

end Registry

end TargetEval

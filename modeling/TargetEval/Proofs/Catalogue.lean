import TargetEval.Proofs.Registrations

set_option autoImplicit false

namespace TargetEval

theorem ByName.mem_iff_find {α : Type} (entries : ByName α) (ascending : Ascending entries) (name : String) (value : α) :
    (name, value) ∈ entries ↔ find? name entries = some value := by
  refine ⟨fun member => ?_, find_mem name value entries⟩
  induction entries with
  | nil => cases member
  | cons entry rest ih =>
      obtain ⟨first, later⟩ := List.pairwise_cons.mp ascending
      rcases List.mem_cons.mp member with rfl | behind
      · exact if_pos rfl
      · have before : entry.1 < name := first name (List.mem_map_of_mem (f := Prod.fst) behind)
        rw [find?, if_neg (Std.ne_of_lt before)]
        exact ih later behind

namespace Registry

variable {ι : Type}

-- The catalogue, with the bindings listed in some order.
def catalogueFrom (r : Registry ι) (describe : ι → List Descriptor) (order : List (String × ι)) : ByName Descriptor :=
  let described := order.flatMap fun binding => describe binding.2
  ByName.ofList ((described.filter fun d => r.contains d.name).map fun d => (d.name, d))

theorem catalogue_from_bindings (r : Registry ι) (describe : ι → List Descriptor) :
    r.catalogue describe = r.catalogueFrom describe r.bindings := rfl

-- What an implementation says of a name in the end.
def lastDescriptor (describe : ι → List Descriptor) (name : String) (implementation : ι) : Option Descriptor :=
  (describe implementation).reverse.find? fun d => d.name = name

def Runs (r : Registry ι) (name : String) (f : ι) : Prop := ∀ position, r.resolve name position = .ok f

/-- The name has an entry exactly if the function that a call of it runs describes it, and the entry is
one that this function gives. -/
def Documents (r : Registry ι) (describe : ι → List Descriptor) (entries : ByName Descriptor) (name : String) : Prop :=
  (entries.contains name = true ↔ ∃ f, r.Runs name f ∧ ∃ d ∈ describe f, d.name = name) ∧
  ∀ d, entries.find? name = some d → ∃ f, r.Runs name f ∧ d ∈ describe f ∧ d.name = name

theorem last_descriptor_mem (describe : ι → List Descriptor) (name : String) (f : ι) (d : Descriptor)
    (last : lastDescriptor describe name f = some d) : d ∈ describe f ∧ d.name = name :=
  ⟨List.mem_reverse.mp (List.mem_of_find?_eq_some last), by simpa using List.find?_some last⟩

theorem last_descriptor_some (describe : ι → List Descriptor) (name : String) (f : ι) :
    (∃ d, lastDescriptor describe name f = some d) ↔ ∃ d ∈ describe f, d.name = name := by
  rw [← Option.isSome_iff_exists, lastDescriptor, List.find?_isSome]
  simp

theorem last_value_catalogued (r : Registry ι) (described : List Descriptor) (name : String) :
    ByName.lastValue name ((described.filter fun d => r.contains d.name).map fun d => (d.name, d)) =
      if r.contains name = true then described.reverse.find? (fun d => d.name = name) else none := by
  have kept : ∀ d : Descriptor, decide (r.contains d.name = true ∧ decide (d.name = name) = true) =
      (r.contains name && decide (d.name = name)) := by
    intro d
    by_cases hit : d.name = name <;> simp [hit]
  rw [ByName.lastValue, ← List.map_reverse, ← List.filter_reverse, List.find?_map, List.find?_filter, Option.map_map]
  simp only [Function.comp_def, kept]
  cases r.contains name <;> simp

theorem find_catalogue_from (r : Registry ι) (describe : ι → List Descriptor) (order : List (String × ι)) (name : String) :
    (r.catalogueFrom describe order).find? name =
      if r.contains name = true then order.reverse.findSome? (fun binding => lastDescriptor describe name binding.2)
      else none := by
  rw [catalogueFrom, ByName.find_of_list, last_value_catalogued, List.reverse_flatMap, List.find?_flatMap]
  rfl

section

variable (r : Registry ι) (describe : ι → List Descriptor) (name : String)

theorem entry_of_binding (order : List (String × ι)) (listed : order.Perm r.bindings) (d : Descriptor)
    (found : (r.catalogueFrom describe order).find? name = some d) :
    r.contains name = true ∧ ∃ binding ∈ r.bindings, lastDescriptor describe name binding.2 = some d := by
  rw [find_catalogue_from] at found
  split at found
  next bound =>
    obtain ⟨binding, member, last⟩ := List.exists_of_findSome?_eq_some found
    exact ⟨bound, binding, listed.subset (List.mem_reverse.mp member), last⟩
  next => cases found

theorem order_for_binding (bound : r.contains name = true) (binding : String × ι) (member : binding ∈ r.bindings)
    (d : Descriptor) (last : lastDescriptor describe name binding.2 = some d) :
    ∃ order, order.Perm r.bindings ∧ (r.catalogueFrom describe order).find? name = some d := by
  obtain ⟨before, after, split⟩ := List.append_of_mem member
  refine ⟨before ++ after ++ [binding], ?_, ?_⟩
  · rw [split]
    exact (List.perm_append_singleton binding (before ++ after)).trans List.perm_middle.symm
  · rw [find_catalogue_from, if_pos bound, List.reverse_append, List.reverse_singleton, List.singleton_append,
      List.findSome?_cons, last]

theorem entry_exists (order : List (String × ι)) (listed : order.Perm r.bindings) :
    (r.catalogueFrom describe order).contains name = true ↔
      r.contains name = true ∧ ∃ binding ∈ r.bindings, ∃ d ∈ describe binding.2, d.name = name := by
  rw [ByName.contains, find_catalogue_from]
  split
  next bound =>
    rw [List.findSome?_isSome_iff]
    simp only [bound, true_and, List.mem_reverse, Option.isSome_iff_exists, last_descriptor_some, listed.mem_iff]
  next free => simp [free]

omit describe name in
theorem runs_iff (ascending : r.bindings.Ascending) (name : String) (f : ι) :
    r.Runs name f ↔ (name, f) ∈ r.bindings := by
  rw [ByName.mem_iff_find _ ascending]
  exact ⟨fun resolved => (r.resolve_ok name 0 f).mp (resolved 0),
    fun found position => (r.resolve_ok name position f).mpr found⟩

theorem same_in_all_orders :
    (∀ order other : List (String × ι), order.Perm r.bindings → other.Perm r.bindings →
      (r.catalogueFrom describe order).find? name = (r.catalogueFrom describe other).find? name) ↔
      (r.contains name = true → ∀ binding ∈ r.bindings, ∀ second ∈ r.bindings, ∀ d e,
        lastDescriptor describe name binding.2 = some d → lastDescriptor describe name second.2 = some e → d = e) := by
  constructor
  · intro same bound binding here second there d e last word
    obtain ⟨order, listed, entry⟩ := r.order_for_binding describe name bound binding here d last
    obtain ⟨other, again, differing⟩ := r.order_for_binding describe name bound second there e word
    rw [same order other listed again] at entry
    exact Option.some.inj (entry.symm.trans differing)
  · intro agree order other listed again
    have exist := (r.entry_exists describe name order listed).trans (r.entry_exists describe name other again).symm
    rw [ByName.contains, ByName.contains] at exist
    cases entry : (r.catalogueFrom describe order).find? name with
    | none =>
        rw [entry] at exist
        exact (Option.not_isSome_iff_eq_none.mp fun some => by simpa using exist.mpr some).symm
    | some d =>
        rw [entry] at exist
        obtain ⟨e, differing⟩ := Option.isSome_iff_exists.mp (exist.mp rfl)
        obtain ⟨bound, binding, here, last⟩ := r.entry_of_binding describe name order listed d entry
        obtain ⟨_, second, there, word⟩ := r.entry_of_binding describe name other again e differing
        rw [differing, agree bound binding here second there d e last word]

theorem documents_iff (ascending : r.bindings.Ascending) :
    (∀ order : List (String × ι), order.Perm r.bindings → r.Documents describe (r.catalogueFrom describe order) name) ↔
      ∀ f, (name, f) ∈ r.bindings → ∀ binding ∈ r.bindings, ∀ d,
        lastDescriptor describe name binding.2 = some d → d ∈ describe f := by
  simp only [Documents, r.runs_iff ascending]
  constructor
  · intro documents f here binding member d last
    have found := (ByName.mem_iff_find _ ascending name f).mp here
    have bound : r.contains name = true := Option.isSome_iff_exists.mpr ⟨f, found⟩
    obtain ⟨order, listed, entry⟩ := r.order_for_binding describe name bound binding member d last
    obtain ⟨g, there, given, _⟩ := (documents order listed).2 d entry
    have same := (ByName.mem_iff_find _ ascending name g).mp there
    rw [Option.some.inj (found.symm.trans same)]
    exact given
  · intro covered order listed
    have owned : ∀ d, (r.catalogueFrom describe order).find? name = some d →
        ∃ f, (name, f) ∈ r.bindings ∧ d ∈ describe f ∧ d.name = name := by
      intro d entry
      obtain ⟨bound, binding, member, last⟩ := r.entry_of_binding describe name order listed d entry
      obtain ⟨f, found⟩ := Option.isSome_iff_exists.mp bound
      have here := (ByName.mem_iff_find _ ascending name f).mpr found
      exact ⟨f, here, covered f here binding member d last, (last_descriptor_mem describe name _ d last).2⟩
    refine ⟨⟨fun entry => ?_, ?_⟩, owned⟩
    · obtain ⟨d, found⟩ := Option.isSome_iff_exists.mp entry
      obtain ⟨f, here, given, named⟩ := owned d found
      exact ⟨f, here, d, given, named⟩
    · rintro ⟨f, here, d, given, named⟩
      have found := (ByName.mem_iff_find _ ascending name f).mp here
      exact (r.entry_exists describe name order listed).mpr
        ⟨Option.isSome_iff_exists.mpr ⟨f, found⟩, (name, f), here, d, given, named⟩

end

/-- After registrations in any order, the catalogue is that of some order of the implementations.
With the implementations listed in any order, a name has an entry exactly if it is bound and some
bound implementation describes it; the entries that it can have are the last words of those
implementations, so the order makes no difference exactly if these are the same; and it has the
entry of the function that a call of it runs, in whatever order, exactly if every last word on it is
also a word of that function. -/
theorem catalogue_entries (calls : List (Registration ι)) (describe : ι → List Descriptor) (name : String) :
    let r := afterCalls calls
    let entry (order : List (String × ι)) : Option Descriptor := (r.catalogueFrom describe order).find? name
    let lastWord (d : Descriptor) : Prop := ∃ other f, r.Runs other f ∧ lastDescriptor describe name f = some d
    (∃ order : List (String × ι), order.Perm r.bindings ∧ r.catalogue describe = r.catalogueFrom describe order) ∧
    (∀ order : List (String × ι), order.Perm r.bindings →
      ((∃ d, entry order = some d) ↔
        r.contains name = true ∧ ∃ other f, r.Runs other f ∧ ∃ d ∈ describe f, d.name = name)) ∧
    (∀ d, (∃ order : List (String × ι), order.Perm r.bindings ∧ entry order = some d) ↔
      r.contains name = true ∧ lastWord d) ∧
    ((∀ order other : List (String × ι), order.Perm r.bindings → other.Perm r.bindings → entry order = entry other) ↔
      (r.contains name = true → ∀ d e, lastWord d → lastWord e → d = e)) ∧
    ((∀ order : List (String × ι), order.Perm r.bindings → r.Documents describe (r.catalogueFrom describe order) name) ↔
      ∀ f, r.Runs name f → ∀ d, lastWord d → d ∈ describe f) := by
  intro r entry lastWord
  have runs := r.runs_iff (after_calls_ascending calls)
  have listed : ∀ P : ι → Prop, (∃ other f, r.Runs other f ∧ P f) ↔ ∃ binding ∈ r.bindings, P binding.2 := by
    intro P
    simp only [runs]
    exact ⟨fun ⟨other, f, member, holds⟩ => ⟨(other, f), member, holds⟩,
      fun ⟨binding, member, holds⟩ => ⟨binding.1, binding.2, member, holds⟩⟩
  have words : ∀ d, lastWord d ↔ ∃ binding ∈ r.bindings, lastDescriptor describe name binding.2 = some d :=
    fun d => listed _
  refine ⟨⟨r.bindings, .rfl, r.catalogue_from_bindings describe⟩, fun order perm => ?_, fun d => ?_, ?_, ?_⟩
  · rw [listed, ← Option.isSome_iff_exists]
    exact r.entry_exists describe name order perm
  · rw [words]
    constructor
    · rintro ⟨order, perm, found⟩
      exact r.entry_of_binding describe name order perm d found
    · rintro ⟨bound, binding, member, last⟩
      exact r.order_for_binding describe name bound binding member d last
  · simp only [words]
    refine (r.same_in_all_orders describe name).trans (imp_congr_right fun bound => ?_)
    exact ⟨fun agree d e ⟨binding, here, last⟩ ⟨second, there, word⟩ => agree binding here second there d e last word,
      fun agree binding here second there d e last word => agree d e ⟨binding, here, last⟩ ⟨second, there, word⟩⟩
  · rw [r.documents_iff describe name (after_calls_ascending calls)]
    simp only [words, runs]
    exact ⟨fun covered f here d ⟨binding, member, last⟩ => covered f here binding member d last,
      fun covered f here binding member d last => covered f here d ⟨binding, member, last⟩⟩

def described (name signature : String) : Descriptor := ⟨name, signature, "Test", "", []⟩

-- In the first registry, the entry of `b` is of the function `c`, while calls of `b` run one that
-- describes nothing. In the second one, both functions describe `b`, and their order decides.
def strayDescriptor : List (Registration (List Descriptor)) := [.one "c" [described "b" "b()"], .one "b" []]

def twoDescriptors : List (Registration (List Descriptor)) :=
  [.one "b" [described "b" "b(x)"], .one "c" [described "b" "b(y)"]]

theorem stray_descriptor_catalogued :
    ((afterCalls strayDescriptor).catalogue id).find? "b" = some (described "b" "b()") ∧
      (afterCalls strayDescriptor).resolve "b" 0 = .ok [] ∧
      ¬ (afterCalls strayDescriptor).Documents id ((afterCalls strayDescriptor).catalogue id) "b" ∧
      ((afterCalls twoDescriptors).catalogueFrom id (afterCalls twoDescriptors).bindings).find? "b" =
        some (described "b" "b(y)") ∧
      ((afterCalls twoDescriptors).catalogueFrom id (afterCalls twoDescriptors).bindings.reverse).find? "b" =
        some (described "b" "b(x)") := by
  have entry : ((afterCalls strayDescriptor).catalogue id).find? "b" = some (described "b" "b()") := by decide +kernel
  have runs : (afterCalls strayDescriptor).resolve "b" 0 = .ok [] := by decide +kernel
  refine ⟨entry, runs, fun documents => ?_, by decide +kernel, by decide +kernel⟩
  obtain ⟨f, same, given, _⟩ := documents.2 _ entry
  cases runs.symm.trans (same 0)
  cases given

end Registry

namespace Builtin

theorem descriptors_listed : ∀ row ∈ table, ∀ d ∈ row.2.descriptors, d.name ∈ row.1 := by
  decide +kernel

theorem registry_ascending : registry.bindings.Ascending := by
  have calls := Registry.after_calls_ascending (table.map fun row => Registration.several row.1 row.2)
  rw [Registry.afterCalls, List.foldl_map] at calls
  exact calls

theorem catalogue_documents (order : List (String × Function)) (listed : order.Perm registry.bindings) (name : String) :
    registry.Documents Function.descriptors (registry.catalogueFrom Function.descriptors order) name := by
  refine (registry.documents_iff Function.descriptors name registry_ascending).mpr ?_ order listed
  intro f here binding member d last
  obtain ⟨given, rfl⟩ := Registry.last_descriptor_mem Function.descriptors name binding.2 d last
  have first := (registry.runs_iff registry_ascending d.name f).mpr here 0
  have second := (registry.runs_iff registry_ascending binding.1 binding.2).mpr member 0
  obtain ⟨row, there, named, rfl⟩ := resolve_row d.name 0 f first
  obtain ⟨other, again, _, same⟩ := resolve_row binding.1 0 binding.2 second
  rw [same] at given
  rw [row_unique row other there again d.name named (descriptors_listed other again d given)]
  exact given

end Builtin

end TargetEval

import TargetEval.Descriptor.Document
import TargetEval.Proofs.JsonTexts
import Mathlib.Data.List.Nodup

set_option autoImplicit false

namespace TargetEval

namespace Json

/-- What a record has under each of the names. In an object none of them may repeat; an array has
the values of the leading ones. -/
inductive Holds (names : List String) : Json → (String → Option Json) → Prop where
  | object (members : List (String × Json)) (once : ∀ name ∈ names, (members.map Prod.fst).count name ≤ 1) :
      Holds names (.ofMembers members) fun name => members.lookup name
  | array (items : List Json) (few : items.length ≤ names.length) :
      Holds names (.array items) fun name => items[names.idxOf name]?

inductive Filled {α : Type} (given? : Option Json) (form : α → Json) (fallback : α) : α → Prop where
  | missing (absent : given? = none) : Filled given? form fallback fallback
  | given (value : α) (present : given? = some (form value)) : Filled given? form fallback value

theorem filled_none {α : Type} (form : α → Json) (fallback value : α) :
    Filled none form fallback value ↔ value = fallback := by
  constructor
  · rintro (_ | ⟨_, present⟩)
    · rfl
    · cases present
  · rintro rfl
    exact .missing rfl

theorem filled_some {α : Type} (json : Json) (form : α → Json) (fallback value : α) :
    Filled (some json) form fallback value ↔ json = form value := by
  constructor
  · rintro (absent | ⟨_, present⟩)
    · cases absent
    · exact Option.some.inj present
  · rintro rfl
    exact .given value rfl

theorem nodup_iff_once (names present : List String) :
    (present.filter fun name => name ∈ names).Nodup ↔ ∀ name ∈ names, present.count name ≤ 1 := by
  rw [List.nodup_iff_count_le_one]
  constructor
  · intro once name among
    have counted := once name
    rwa [List.count_filter (by simpa using among)] at counted
  · intro once name
    by_cases among : name ∈ names
    · rw [List.count_filter (by simpa using among)]
      exact once name among
    · rw [List.count_eq_zero_of_not_mem fun found => among (by simpa using (List.mem_filter.mp found).2)]
      exact Nat.zero_le 1

theorem named_members (members : List (String × Json)) :
    (members.map fun (name, value) => (some name, value)).filterMap (fun (name, value) => name.map fun n => (n, value)) =
      members := by
  rw [List.filterMap_map]
  exact List.filterMap_some ..

theorem members_named (members : List (Option String × Json))
    (whole : (members.filterMap fun (name, value) => name.map fun n => (n, value)).length = members.length) :
    (members.filterMap fun (name, value) => name.map fun n => (n, value)).map (fun (name, value) => (some name, value)) =
      members := by
  induction members with
  | nil => rfl
  | cons m members ih =>
      obtain ⟨name?, json⟩ := m
      cases name? with
      | none =>
          have fewer : (members.filterMap fun (name, value) => name.map fun n => (n, value)).length ≤ members.length :=
            List.length_filterMap_le ..
          rw [List.filterMap_cons_none rfl, List.length_cons] at whole
          omega
      | some name =>
          simp only [List.filterMap_cons, Option.map_some, List.length_cons, Nat.add_right_cancel_iff] at whole
          simp only [List.filterMap_cons, Option.map_some, List.map_cons, ih whole]

theorem array_fields (names : List String) (distinct : names.Nodup) (items : List Json) (few : items.length ≤ names.length) :
    items.map some ++ List.replicate (names.length - items.length) none = names.map fun name => items[names.idxOf name]? := by
  refine List.ext_getElem (by simp; omega) fun i before after => ?_
  have inside : i < names.length := by simpa using after
  rw [List.getElem_map, distinct.idxOf_getElem i inside]
  by_cases given : i < items.length
  · rw [List.getElem_append_left (by simpa using given), List.getElem_map, List.getElem?_eq_getElem given]
  · rw [List.getElem_append_right (by simpa using given), List.getElem_replicate, List.getElem?_eq_none (by omega)]

theorem fields_iff (names : List String) (distinct : names.Nodup) (json : Json) (fields : List (Option Json)) :
    json.fields? names = some fields ↔ ∃ held, Holds names json held ∧ fields = names.map held := by
  constructor
  · intro found
    cases json with
    | object members =>
        simp only [fields?, Option.ite_none_right_eq_some, Bool.and_eq_true, decide_eq_true_eq, nodup_iff_once] at found
        obtain ⟨⟨whole, once⟩, same⟩ := found
        cases same
        refine ⟨_, ?_, rfl⟩
        have restored := Holds.object _ once
        rwa [ofMembers, members_named members whole] at restored
    | array items =>
        simp only [fields?, Option.ite_none_right_eq_some] at found
        obtain ⟨few, same⟩ := found
        cases same
        exact ⟨_, .array items few, array_fields names distinct items few⟩
    | null => cases found
    | boolean b => cases found
    | number n => cases found
    | string s => cases found
  · rintro ⟨held, holds, rfl⟩
    cases holds with
    | object members once =>
        have known := (nodup_iff_once names _).mpr once
        simp only [ofMembers, fields?, named_members, List.length_map, decide_true, Bool.true_and, known, if_true]
    | array items few =>
        rw [fields?, if_pos few, array_fields names distinct items few]

theorem record_iff {α : Type} (names : List String) (distinct : names.Nodup) (json : Json) (ofJson? : Json → Option α) (v : α)
    {Given : (String → Option Json) → Prop} (unread : json.fields? names = none → ofJson? json = none)
    (read : ∀ held, json.fields? names = some (names.map held) → (ofJson? json = some v ↔ Given held)) :
    ofJson? json = some v ↔ ∃ held, Holds names json held ∧ Given held := by
  constructor
  · intro taken
    cases found : json.fields? names with
    | none =>
        rw [unread found] at taken
        cases taken
    | some fields =>
        obtain ⟨held, holds, rfl⟩ := (fields_iff names distinct json fields).mp found
        exact ⟨held, holds, (read held found).mp taken⟩
  · rintro ⟨held, holds, given⟩
    exact (read held ((fields_iff names distinct json _).mpr ⟨held, holds, rfl⟩)).mpr given

end Json

def ParameterType.Written (json : Json) (t : ParameterType) : Prop :=
  json = .ofText t.word ∨ json = .object [(some t.word, .null)]

structure Parameter.Given (held : String → Option Json) (p : Parameter) : Prop where
  name : held "name" = some (.ofText p.name)
  type : ∃ json, held "type" = some json ∧ p.type.Written json
  required : Json.Filled (held "required") .boolean false p.required
  repeats : Json.Filled (held "multiple") .boolean false p.repeats
  default : Json.Filled (held "default") (fun default => default.elim .null .ofText) none p.default
  options : Json.Filled (held "options") (fun options => .array (options.map .ofText)) [] p.options

def Parameter.Described (json : Json) (p : Parameter) : Prop :=
  ∃ held, Json.Holds Parameter.fieldNames json held ∧ p.Given held

structure Descriptor.Given (held : String → Option Json) (d : Descriptor) : Prop where
  name : held "name" = some (.ofText d.name)
  signature : held "function" = some (.ofText d.signature)
  group : held "group" = some (.ofText d.group)
  description : held "description" = some (.ofText d.description)
  parameters : ∃ items, held "params" = some (.array items) ∧ List.Forall₂ Parameter.Described items d.parameters

def Descriptor.Described (json : Json) (d : Descriptor) : Prop :=
  ∃ held, Json.Holds Descriptor.fieldNames json held ∧ d.Given held

theorem map_m_iff {α β : Type} (f : α → Option β) (items : List α) (values : List β) :
    items.mapM f = some values ↔ List.Forall₂ (fun item value => f item = some value) items values := by
  induction items generalizing values with
  | nil =>
      rw [List.mapM_nil, List.forall₂_nil_left_iff]
      exact ⟨fun same => (Option.some.inj same).symm, fun same => congrArg some same.symm⟩
  | cons item items ih =>
      rw [List.mapM_cons, List.forall₂_cons_left_iff]
      simp only [Option.bind_eq_bind, Option.bind_eq_some_iff, ih]
      constructor
      · rintro ⟨value, first, more, others, same⟩
        cases same
        exact ⟨value, more, first, others, rfl⟩
      · rintro ⟨value, more, first, others, rfl⟩
        exact ⟨value, first, more, others, rfl⟩

namespace Json

theorem text_iff (json : Json) (s : String) : json.text? = some s ↔ json = ofText s := by
  constructor
  · intro read
    cases json with
    | string text =>
        cases read
        rfl
    | null => cases read
    | boolean b => cases read
    | number n => cases read
    | array items => cases read
    | object members => cases read
  · rintro rfl
    rfl

theorem boolean_iff (json : Json) (b : Bool) : json.boolean? = some b ↔ json = .boolean b := by
  cases json <;> simp [boolean?]

theorem items_iff (json : Json) (items : List Json) : json.items? = some items ↔ json = .array items := by
  cases json <;> simp [items?]

end Json

namespace ParameterType

theorem of_word_iff (text : String) (t : ParameterType) : ofWord? text = some t ↔ text = t.word := by
  constructor
  · intro found
    rw [ofWord?] at found
    exact (of_decide_eq_true (List.find?_some found :)).symm
  · rintro rfl
    cases t <;> decide

theorem of_json_iff (json : Json) (t : ParameterType) : ofJson? json = some t ↔ t.Written json := by
  unfold Written
  constructor
  · intro read
    unfold ofJson? at read
    split at read
    case h_1 text =>
      rw [(of_word_iff text t).mp read]
      exact .inl rfl
    case h_2 text =>
      rw [(of_word_iff text t).mp read]
      exact .inr rfl
    case h_3 => cases read
  · rintro (rfl | rfl)
    · exact (of_word_iff _ t).mpr rfl
    · exact (of_word_iff _ t).mpr rfl

end ParameterType

namespace Parameter

theorem flag_of_iff (given? : Option Json) (b : Bool) : flagOf? given? = some b ↔ Json.Filled given? .boolean false b := by
  cases given? with
  | none => rw [flagOf?, Json.filled_none, Option.some_inj, eq_comm]
  | some json => rw [flagOf?, Json.filled_some, Json.boolean_iff]

theorem default_of_iff (given? : Option Json) (default? : Option String) :
    defaultOf? given? = some default? ↔ Json.Filled given? (fun default => default.elim .null .ofText) none default? := by
  cases given? with
  | none => rw [defaultOf?, Json.filled_none, Option.some_inj, eq_comm]
  | some json =>
      rw [Json.filled_some]
      cases default? with
      | none => cases json <;> simp [defaultOf?]
      | some s =>
          rw [Option.elim_some, ← Json.text_iff]
          cases json <;> simp [defaultOf?, Json.text?]

theorem options_of_iff (given? : Option Json) (options : List String) :
    optionsOf? given? = some options ↔ Json.Filled given? (fun options => .array (options.map .ofText)) [] options := by
  cases given? with
  | none => rw [optionsOf?, Json.filled_none, Option.some_inj, eq_comm]
  | some json =>
      have texts (items : List Json) : items.mapM Json.text? = some options ↔ items = options.map .ofText := by
        rw [map_m_iff]
        simp only [Json.text_iff]
        rw [← List.forall₂_eq_eq_eq, List.forall₂_map_right_iff]
      simp only [optionsOf?, Option.bind_eq_bind, Option.bind_eq_some_iff, Json.items_iff, texts, Json.filled_some]
      exact exists_eq_right

theorem of_json_iff (json : Json) (p : Parameter) : ofJson? json = some p ↔ p.Described json := by
  refine Json.record_iff fieldNames (by decide) json ofJson? p (fun unread => by rw [ofJson?, unread]) fun held found => ?_
  rw [ofJson?, found]
  simp only [fieldNames, List.map_cons, List.map_nil]
  constructor
  · intro read
    split at read
    case h_1 name type required repeats default options same =>
      simp only [Option.some.injEq, List.cons.injEq] at same
      obtain ⟨hasName, hasType, rfl, rfl, rfl, rfl, _⟩ := same
      simp only [Option.bind_eq_bind, Option.bind_eq_some_iff, Json.text_iff, ParameterType.of_json_iff, flag_of_iff,
        default_of_iff, options_of_iff] at read
      obtain ⟨_, rfl, t, written, _, required, _, repeats, _, default, _, options, same⟩ := read
      cases same
      exact ⟨hasName, ⟨_, hasType, written⟩, required, repeats, default, options⟩
    case h_2 => cases read
  · rintro ⟨name, ⟨json, type, written⟩, required, repeats, default, options⟩
    rw [name, type]
    simp only [Option.bind_eq_bind, (Json.text_iff _ _).mpr rfl, (ParameterType.of_json_iff _ _).mpr written,
      (flag_of_iff _ _).mpr required, (flag_of_iff _ _).mpr repeats, (default_of_iff _ _).mpr default,
      (options_of_iff _ _).mpr options, Option.bind_some]
    rfl

theorem to_json_described (p : Parameter) : p.Described p.toJson := by
  obtain ⟨name, type, required, repeats, default, options⟩ := p
  have shown : List.Sublist
      (([("name", Json.ofText name), ("type", .ofText type.word), ("required", .boolean required), ("multiple", .boolean repeats)]
        ++ (default.map fun d => ("default", Json.ofText d)).toList
        ++ if options.isEmpty then [] else [("options", Json.array (options.map .ofText))]).map Prod.fst) fieldNames := by
    rw [List.map_append, List.map_append]
    change List.Sublist _ (["name", "type", "required", "multiple"] ++ ["default"] ++ ["options"])
    refine .append (.append (.refl _) ?_) ?_
    · cases default with
      | none => exact List.nil_sublist _
      | some d => exact .refl _
    · cases options with
      | nil => exact List.nil_sublist _
      | cons first rest => exact .refl _
  refine ⟨_, .object _ fun n _ => Nat.le_trans (shown.count_le n) (List.nodup_iff_count_le_one.mp (by decide) n), rfl,
    ⟨_, rfl, .inl rfl⟩, .given _ rfl, .given _ rfl, ?_, ?_⟩
  · cases default with
    | some d => exact .given (some d) rfl
    | none =>
        cases options with
        | nil => exact .missing rfl
        | cons first rest => exact .missing rfl
  · cases default with
    | none =>
        cases options with
        | nil => exact .missing rfl
        | cons first rest => exact .given _ rfl
    | some d =>
        cases options with
        | nil => exact .missing rfl
        | cons first rest => exact .given _ rfl

theorem to_json_textual (p : Parameter) : p.toJson.Textual := by
  refine .object _ (fun m among => ?_) (fun m among => ?_)
  · obtain ⟨_, _, rfl⟩ := List.mem_map.mp among
    rfl
  · obtain ⟨⟨name, json⟩, shown, rfl⟩ := List.mem_map.mp among
    have texts : (Json.array (p.options.map .ofText)).Textual := .array _ fun item listed => by
      obtain ⟨s, _, rfl⟩ := List.mem_map.mp listed
      exact .string s
    simp only [List.mem_append, List.mem_cons, List.not_mem_nil, or_false, Prod.mk.injEq] at shown
    rcases shown with ((⟨_, rfl⟩ | ⟨_, rfl⟩ | ⟨_, rfl⟩ | ⟨_, rfl⟩) | optional) | optional
    · exact .string _
    · exact .string _
    · exact .boolean _
    · exact .boolean _
    · obtain ⟨d, _, same⟩ := Option.map_eq_some_iff.mp (Option.mem_toList.mp optional)
      cases same
      exact .string d
    · split at optional
      · cases optional
      · cases List.mem_singleton.mp optional
        exact texts

end Parameter

namespace Descriptor

theorem of_json_iff (json : Json) (d : Descriptor) : ofJson? json = some d ↔ d.Described json := by
  refine Json.record_iff fieldNames (by decide) json ofJson? d (fun unread => by rw [ofJson?, unread]) fun held found => ?_
  rw [ofJson?, found]
  simp only [fieldNames, List.map_cons, List.map_nil]
  constructor
  · intro read
    split at read
    case h_1 name signature group description parameters same =>
      simp only [Option.some.injEq, List.cons.injEq] at same
      obtain ⟨hasName, hasSignature, hasGroup, hasDescription, hasParameters, _⟩ := same
      simp only [Option.bind_eq_bind, Option.bind_eq_some_iff, Json.text_iff, Json.items_iff, map_m_iff,
        Parameter.of_json_iff] at read
      obtain ⟨_, rfl, _, rfl, _, rfl, _, rfl, items, rfl, _, described, same⟩ := read
      cases same
      exact ⟨hasName, hasSignature, hasGroup, hasDescription, items, hasParameters, described⟩
    case h_2 => cases read
  · rintro ⟨name, signature, group, description, items, parameters, described⟩
    have read : items.mapM Parameter.ofJson? = some d.parameters := by
      simpa only [map_m_iff, Parameter.of_json_iff] using described
    rw [name, signature, group, description, parameters]
    simp only [Option.bind_eq_bind, (Json.text_iff _ _).mpr rfl, (Json.items_iff _ _).mpr rfl, read, Option.bind_some]
    rfl

theorem to_json_described (d : Descriptor) : d.Described d.toJson := by
  refine ⟨_, .object _ ?_, rfl, rfl, rfl, rfl, _, rfl, ?_⟩
  · exact fun name _ => List.nodup_iff_count_le_one.mp (by decide : fieldNames.Nodup) name
  · rw [List.forall₂_map_left_iff, List.forall₂_same]
    exact fun p _ => p.to_json_described

theorem to_json_textual (d : Descriptor) : d.toJson.Textual := by
  refine .object _ (fun m among => ?_) (fun m among => ?_)
  · obtain ⟨_, _, rfl⟩ := List.mem_map.mp among
    rfl
  · obtain ⟨⟨name, json⟩, shown, rfl⟩ := List.mem_map.mp among
    simp only [List.mem_cons, List.not_mem_nil, or_false, Prod.mk.injEq] at shown
    rcases shown with ⟨_, rfl⟩ | ⟨_, rfl⟩ | ⟨_, rfl⟩ | ⟨_, rfl⟩ | ⟨_, rfl⟩
    · exact .string _
    · exact .string _
    · exact .string _
    · exact .string _
    · refine .array _ fun item listed => ?_
      obtain ⟨p, _, rfl⟩ := List.mem_map.mp listed
      exact p.to_json_textual

theorem read_iff (text : String) (d : Descriptor) :
    read? text = some d ↔ ∃ json, Json.read? text = some json ∧ d.Described json := by
  simp only [read?, Option.bind_eq_bind, Option.bind_eq_some_iff, of_json_iff]

theorem read_of_write (d : Descriptor) : read? d.write = some d :=
  (read_iff _ d).mpr ⟨d.toJson, Json.read_of_chars .compact d.toJson d.to_json_textual, d.to_json_described⟩

end Descriptor

/-- Descriptors survive their texts. What is written of one is read as the same one, and every text
that describes one, however it is laid out, is written anew once and for all. -/
theorem descriptors_survive :
    (∀ d : Descriptor, Descriptor.read? d.write = some d) ∧
      (∀ text d, Descriptor.read? text = some d ↔ ∃ json, Json.read? text = some json ∧ d.Described json) ∧
      ∀ text d, Descriptor.read? text = some d →
        Descriptor.read? d.write = some d ∧ (Descriptor.read? d.write).map Descriptor.write = some d.write := by
  refine ⟨Descriptor.read_of_write, Descriptor.read_iff, fun text d _ => ⟨d.read_of_write, ?_⟩⟩
  rw [d.read_of_write, Option.map_some]

def shuffledText : String :=
  "\x7b\"params\": [\x7b\"type\":\"aggFunc\",\"extra\":[1,\x7b\x7d],\"default\":null,\"name\":\"reducer\"\x7d],\n" ++
  " \"since\":-2.5e3, \"group\":\"a \\\"b\\\" \\u0007\\\\\", \"description\":\"\\ud83d\\ude00\"," ++
  " \"function\":\"f(\\tx)\", \"name\":\"f\"\x7d"

def shuffled : Descriptor :=
  { name := "f", signature := "f(\tx)", group := "a \"b\" \x07\\", description := "😀"
    parameters := [{ name := "reducer", type := .reducer, required := false, repeats := false, default := none, options := [] }] }

theorem shuffled_survives :
    Descriptor.read? shuffledText = some shuffled ∧ Descriptor.read? shuffled.write = some shuffled ∧
      (Descriptor.read? shuffled.write).map Descriptor.write = some shuffled.write := by
  have read : Descriptor.read? shuffledText = some shuffled := by decide +kernel
  exact ⟨read, descriptors_survive.2.2 shuffledText shuffled read⟩

end TargetEval

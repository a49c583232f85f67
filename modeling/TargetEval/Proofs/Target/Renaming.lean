import TargetEval.Expr.Renaming
import TargetEval.Proofs.Target.Stretches
import TargetEval.Proofs.Unplaced

set_option autoImplicit false

namespace TargetEval

namespace ByName

theorem of_list_empty {α : Type} (entries : List (String × α)) (empty : ofList entries = []) :
    entries = [] := by
  rcases List.eq_nil_or_concat entries with none | ⟨front, ⟨name, value⟩, rfl⟩
  · exact none
  · rw [ofList, List.concat_eq_append, List.foldl_append, List.foldl_cons, List.foldl_nil] at empty
    have found := find_insert name name value (ofList front)
    rw [ofList, empty, find?, if_pos rfl] at found
    cases found

end ByName

namespace Expr

inductive Node where
  | metric (name : String) (position : Nat)
  | call (name : String) (arguments : Nat) (keys : List String) (position : Nat)
  | number (value : Float)
  | string (value : String)
  | boolean (value : Bool)

def Node.renamed (old new : String) : Node → Node
  | .metric name position => .metric (if name = old then new else name) position
  | node => node

mutual

def nodes : Expr → List Node
  | .metric name position => [.metric name position]
  | .call ⟨name, arguments, named, _, position⟩ =>
      .call name arguments.length (ByName.keys named) position :: (nodesEach arguments ++ nodesNamed named)
  | .number value => [.number value]
  | .string value => [.string value]
  | .boolean value => [.boolean value]

def nodesEach : List Expr → List Node
  | [] => []
  | e :: rest => nodes e ++ nodesEach rest

def nodesNamed : List (String × Expr) → List Node
  | [] => []
  | (_, e) :: rest => nodes e ++ nodesNamed rest

end

section

variable (old new : String)

theorem rename_each (es : List Expr) : renameEach old new es = es.map (rename old new) := by
  induction es with
  | nil => rfl
  | cons e rest ih => rw [renameEach, ih, List.map_cons]

theorem rename_named (entries : List (String × Expr)) :
    renameNamed old new entries = ByName.mapValues (rename old new) entries := by
  induction entries with
  | nil => rfl
  | cons entry rest ih => exact congrArg ((entry.1, entry.2.rename old new) :: ·) ih

mutual

theorem nodes_rename (e : Expr) : (e.rename old new).nodes = e.nodes.map (Node.renamed old new) := by
  match e with
  | .metric _ _ => rfl
  | .call ⟨name, arguments, named, argumentText, position⟩ =>
      have keys : ByName.keys (renameNamed old new named) = ByName.keys named := by
        simp [rename_named, ByName.mapValues, ByName.keys]
      have sizes : (renameEach old new arguments).length = arguments.length := by
        rw [rename_each, List.length_map]
      simp only [rename, nodes, keys, sizes, nodes_rename_each arguments, nodes_rename_named named, List.map_cons,
        List.map_append, Node.renamed]
  | .number _ => rfl
  | .string _ => rfl
  | .boolean _ => rfl

theorem nodes_rename_each (es : List Expr) :
    nodesEach (renameEach old new es) = (nodesEach es).map (Node.renamed old new) := by
  match es with
  | [] => rfl
  | e :: rest => rw [renameEach, nodesEach, nodesEach, nodes_rename e, nodes_rename_each rest, List.map_append]

theorem nodes_rename_named (entries : List (String × Expr)) :
    nodesNamed (renameNamed old new entries) = (nodesNamed entries).map (Node.renamed old new) := by
  match entries with
  | [] => rfl
  | (_, e) :: rest => rw [renameNamed, nodesNamed, nodesNamed, nodes_rename e, nodes_rename_named rest, List.map_append]

end

end

end Expr

namespace Target

def InStep (e : Expr) : Prop := ∃ again, read e.text = .ok again ∧ again.unplaced = e.unplaced

def Phrase.argumentStretches {Name : List Char → Prop} : Phrase Name → List Stretch
  | .call _ _ _ inside _ => inside.stretches
  | _ => []

section

variable {Name : List Char → Prop} (old new : List Char) (valid : Name new)

theorem Phrase.apart_arguments (p : Phrase Name) (apart : Stretch.Apart old p.stretches) :
    Stretch.Apart old p.argumentStretches := by
  cases p with
  | call name gap lead inside trail => exact Stretch.apart_front old inside.stretches _ apart.2
  | metric _ _ => exact trivial
  | number _ => exact trivial
  | string _ => exact trivial
  | boolean _ => exact trivial

abbrev Argument.renamed : Argument → Argument := Argument.map (Expr.rename (String.ofList old) (String.ofList new))

theorem call_renamed (name : Identifier) (gap lead : Space) (inside : Inside Name) (trail : Space) (o other : Nat)
    (texts : replaceChars old new inside.chars = (inside.renamed old new valid).chars)
    (same : ∀ a b, ((inside.renamed old new valid).arguments a).map Argument.unplaced =
      ((inside.arguments b).map (Argument.renamed old new)).map Argument.unplaced) :
    ((Phrase.call name gap lead (inside.renamed old new valid) trail).tree o).unplaced =
      (((Phrase.call name gap lead inside trail).tree other).rename (String.ofList old) (String.ofList new)).unplaced := by
  have arguments := same (o + byteLength (name.chars ++ (gap.1 ++ '(' :: lead.1)))
    (other + byteLength (name.chars ++ (gap.1 ++ '(' :: lead.1)))
  rw [Argument.unplaced_eq] at arguments
  simp only [call_tree, Expr.rename, Expr.rename_each, Expr.rename_named, replaceText, String.toList_ofList, texts,
    Expr.unplaced, Expr.unplaced_each, Expr.unplaced_named, ← positional_map, ← named_map, arguments]

mutual

theorem Phrase.renamed_tree (occupied : old ≠ []) (p : Phrase Name) (apart : Stretch.Apart old p.argumentStretches)
    (o other : Nat) :
    ((p.renamed old new valid).tree o).unplaced =
      ((p.tree other).rename (String.ofList old) (String.ofList new)).unplaced := by
  match p with
  | .metric name _ =>
      by_cases same : name = old
      · simp [Phrase.renamed, Phrase.tree, Expr.rename, Expr.unplaced, same]
      · simp [Phrase.renamed, Phrase.tree, Expr.rename, Expr.unplaced, String.ofList_inj, same]
  | .number _ => rfl
  | .string _ => rfl
  | .boolean _ => rfl
  | .call name gap lead inside trail =>
      -- What is apart in a list of arguments is apart in each of them, so that the text of every
      -- nested call is replaced as its leaves are.
      have texts := inside.replaced old new valid occupied apart
      exact call_renamed old new valid name gap lead inside trail o other texts (inside.renamed_arguments occupied apart)

theorem Inside.renamed_arguments (occupied : old ≠ []) (inside : Inside Name) (apart : Stretch.Apart old inside.stretches)
    (o other : Nat) :
    ((inside.renamed old new valid).arguments o).map Argument.unplaced =
      ((inside.arguments other).map (Argument.renamed old new)).map Argument.unplaced := by
  match inside with
  | .nothing => rfl
  | .items first more =>
      have here := first.renamed_argument occupied (Stretch.apart_front old _ _ apart) o other
      have later := more.renamed_arguments occupied (Stretch.apart_back old _ _ apart)
        (o + byteLength (first.renamed old new valid).chars) (other + byteLength first.chars)
      simp only [Inside.renamed, Inside.arguments, List.map_cons, here, later]

theorem Item.renamed_argument (occupied : old ≠ []) (item : Item Name) (apart : Stretch.Apart old item.stretches)
    (o other : Nat) :
    ((item.renamed old new valid).argument o).unplaced =
      ((item.argument other).renamed old new).unplaced := by
  match item with
  | .positional value =>
      exact congrArg Argument.positional (value.renamed_tree occupied (value.apart_arguments old apart) o other)
  | .named key _ _ value =>
      exact congrArg (Argument.named key.name) (value.renamed_tree occupied (value.apart_arguments old apart.2) _ _)

theorem Further.renamed_arguments (occupied : old ≠ []) (more : Further Name) (apart : Stretch.Apart old more.stretches)
    (o other : Nat) :
    ((more.renamed old new valid).arguments o).map Argument.unplaced =
      ((more.arguments other).map (Argument.renamed old new)).map Argument.unplaced := by
  match more with
  | .nothing => rfl
  | .next before after item later =>
      have here := item.renamed_argument occupied (Stretch.apart_front old _ _ apart.2)
        (o + byteLength (before.1 ++ ',' :: after.1)) (other + byteLength (before.1 ++ ',' :: after.1))
      have rest := later.renamed_arguments occupied (Stretch.apart_back old _ _ apart.2)
        (o + byteLength (before.1 ++ ',' :: after.1) + byteLength (item.renamed old new valid).chars)
        (other + byteLength (before.1 ++ ',' :: after.1) + byteLength item.chars)
      simp only [Further.renamed, Further.arguments, List.map_cons, here, rest]

end

end

theorem read_phrase (p : Phrase IsMetric) : read (String.ofList p.chars) = .ok (p.tree 0) :=
  (read_iff _ _).mpr ⟨p, noSpace, noSpace, by simp [noSpace], rfl⟩

theorem in_step_unplaced (e other : Expr) (same : e.unplaced = other.unplaced) (stays : InStep e) : InStep other := by
  obtain ⟨again, reread, unplaced⟩ := stays
  exact ⟨again, text_of_unplaced e other same ▸ reread, unplaced.trans same⟩

theorem in_step_phrase (p : Phrase IsMetric) (o : Nat) (series : (p.tree o).isSeries = true) : InStep (p.tree o) := by
  have same := p.unplaced_tree 0 o
  apply in_step_unplaced (p.tree 0) (p.tree o) same
  exact read_displayed _ _ (read_phrase p) ((is_series_of_unplaced _ _ same).trans series)

theorem metric_name (text m : String) (place : Nat) (accepted : read text = .ok (.metric m place)) : IsMetric m.toList := by
  obtain ⟨p, _, _, _, tree⟩ := (read_iff _ _).mp accepted
  cases p with
  | metric cs valid =>
      cases tree
      rwa [String.toList_ofList]
  | number _ => cases tree
  | string _ => cases tree
  | boolean _ => cases tree
  | call _ _ _ _ _ => cases tree

theorem Further.nothing_of {Name : List Char → Prop} (more : Further Name) (o : Nat) (values : more.values o = [])
    (entries : more.entries o = []) : more = .nothing := by
  cases more with
  | nothing => rfl
  | next before after item later =>
      cases item with
      | positional value => cases values
      | named key gap sign value => cases entries

theorem sole_metric (text : String) (c : Call Expr) (m : String) (place : Nat) (accepted : read text = .ok (.call c))
    (sole : c.arguments = [.metric m place]) (bare : c.named = []) :
    c.argumentText = m ∧ IsMetric m.toList ∧ ∃ name : Identifier, c.name = name.name := by
  obtain ⟨p, before, after, _, tree⟩ := (read_iff _ _).mp accepted
  cases p with
  | call name gap lead inside trail =>
      cases tree
      cases inside with
      | nothing => cases sole
      | items first more =>
          obtain ⟨unnamed, rest⟩ := List.append_eq_nil_iff.mp (ByName.of_list_empty _ bare)
          cases first with
          | named key before after value => cases unnamed
          | positional value =>
              obtain ⟨leaf, only⟩ := List.cons.inj sole
              cases Further.nothing_of more _ only rest
              cases value with
              | metric cs valid =>
                  cases leaf
                  refine ⟨?_, by rwa [String.toList_ofList], name, rfl⟩
                  simp [Inside.chars, Item.chars, Phrase.chars, Further.chars]
              | number _ => cases leaf
              | string _ => cases leaf
              | boolean _ => cases leaf
              | call _ _ _ _ _ => cases leaf
  | metric _ _ => cases tree
  | number _ => cases tree
  | string _ => cases tree
  | boolean _ => cases tree

theorem metric_of_unplaced (e : Expr) (m : String) (same : e.unplaced = .metric m 0) : ∃ place, e = .metric m place := by
  cases e with
  | metric name place =>
      cases same
      exact ⟨place, rfl⟩
  | call c =>
      obtain ⟨_, _, _, _, _⟩ := c
      cases same
  | number _ => cases same
  | string _ => cases same
  | boolean _ => cases same

section

variable (c : Call Expr) (m : String) (place : Nat) (sole : c.arguments = [.metric m place]) (bare : c.named = [])

include sole bare

theorem sole_text (stays : InStep (.call c)) : c.argumentText = m := by
  obtain ⟨again, reread, same⟩ := stays
  obtain ⟨_, _, _, _, _⟩ := c
  subst sole bare
  cases again with
  | call d =>
      obtain ⟨_, arguments, entries, _, _⟩ := d
      simp only [Expr.unplaced, Expr.unplaced_each, Expr.unplaced_named, Expr.call.injEq, Call.mk.injEq] at same
      obtain ⟨_, values, none, rfl, _⟩ := same
      obtain ⟨e, rfl, leaf⟩ := List.map_eq_singleton_iff.mp values
      obtain ⟨other, rfl⟩ := metric_of_unplaced e m leaf
      exact (sole_metric _ _ m other reread rfl (List.map_eq_nil_iff.mp none)).1
  | metric _ _ => cases same
  | number _ => cases same
  | string _ => cases same
  | boolean _ => cases same

theorem sole_in_step (isMetric : IsMetric m.toList) (name : Identifier) (named : c.name = name.name)
    (written : c.argumentText = m) : InStep (.call c) := by
  let only : Inside IsMetric := .items (.positional (.metric m.toList isMetric)) .nothing
  let p : Phrase IsMetric := .call name noSpace noSpace only noSpace
  have same : (p.tree 0).unplaced = (Expr.call c).unplaced := by
    obtain ⟨_, _, _, _, _⟩ := c
    dsimp only at sole bare named written
    subst sole bare named written
    simp [p, only, Phrase.tree, Inside.values, Inside.entries, Inside.chars, Item.values, Item.entries, Item.chars,
      Phrase.chars, Further.values, Further.entries, Further.chars, Expr.unplaced, Expr.unplacedEach,
      Expr.unplacedNamed, ByName.ofList]
  exact in_step_unplaced (p.tree 0) _ same (in_step_phrase p 0 rfl)

end

theorem sole_renamed (text : String) (c : Call Expr) (accepted : read text = .ok (.call c)) (m : String) (place : Nat)
    (sole : c.arguments = [.metric m place]) (bare : c.named = []) (old new : String) (replaced : IsMetric old.toList)
    (replacing : IsMetric new.toList) :
    InStep ((Expr.call c).rename old new) ↔ m = old ∨ old = new ∨ ¬ old.toList <:+: m.toList := by
  obtain ⟨written, isMetric, name, named⟩ := sole_metric text c m place accepted sole bare
  let other := if m = old then new else m
  let renamed : Call Expr := { c with arguments := [.metric other place], argumentText := replaceText old new m }
  have tree : (Expr.call c).rename old new = .call renamed := by
    obtain ⟨_, _, _, _, _⟩ := c
    dsimp only at sole bare written
    simp only [sole, bare, written, Expr.rename, Expr.renameEach, Expr.renameNamed, renamed, other]
  have valid : IsMetric other.toList := by
    by_cases whole : m = old
    · have same : other = new := if_pos whole
      rwa [same]
    · have same : other = m := if_neg whole
      rwa [same]
  have texts : InStep (.call renamed) ↔ replaceText old new m = other :=
    ⟨sole_text renamed other place rfl bare, sole_in_step renamed other place rfl bare valid name named⟩
  rw [tree, texts]
  by_cases whole : m = old
  · have replacement := replace_whole old new replaced.occupied
    simp only [other, whole, replacement, ↓reduceIte, true_or]
  · rw [or_iff_right whole, ← replace_text_unchanged old new m replaced.occupied]
    simp only [other, if_neg whole]

theorem is_series_rename (e : Expr) (old new : String) : (e.rename old new).isSeries = e.isSeries := by
  cases e <;> rfl

theorem apart_in_step (p : Phrase IsMetric) (o : Nat) (series : (p.tree o).isSeries = true) (old new : String)
    (replaced : IsMetric old.toList) (replacing : IsMetric new.toList)
    (apart : Stretch.Apart old.toList p.argumentStretches) : InStep ((p.tree o).rename old new) := by
  have same := p.renamed_tree old.toList new.toList replacing replaced.occupied apart 0 o
  rw [String.ofList_toList, String.ofList_toList] at same
  apply in_step_unplaced _ _ same
  apply in_step_phrase
  rw [is_series_of_unplaced _ _ same, is_series_rename, series]

/-- Renaming the metrics of a target gives every metric of the old name the new one and leaves all
other nodes as they are. The text of the renamed tree gives the tree again if the old name begins
nowhere in the arguments but with a whole metric. In a longer name it is replaced as well: a call of
one metric stays in step only if the metric is the old one, or nothing in it is replaced. -/
theorem renamed_in_step (text : String) (e : Expr) (accepted : read text = .ok e) (old new : String)
    (oldPlace newPlace : Nat) (replaced : read old = .ok (.metric old oldPlace))
    (replacing : read new = .ok (.metric new newPlace)) :
    (e.rename old new).nodes = e.nodes.map (Expr.Node.renamed old new) ∧
    (e.isSeries = true → ∀ (p : Phrase IsMetric) (before after : Space), text.toList = before.1 ++ (p.chars ++ after.1) →
      Stretch.Apart old.toList p.argumentStretches → InStep (e.rename old new)) ∧
    (∀ c m place, e = .call c → c.arguments = [.metric m place] → c.named = [] →
      (InStep (e.rename old new) ↔ m = old ∨ old = new ∨ ¬ old.toList <:+: m.toList)) := by
  have oldName := metric_name old old oldPlace replaced
  have newName := metric_name new new newPlace replacing
  refine ⟨e.nodes_rename old new, ?_, ?_⟩
  · intro series p before after spaced apart
    have tree : e = p.tree (byteLength before.1) := by
      have reading := (read_iff text _).mpr ⟨p, before, after, spaced, rfl⟩
      exact Except.ok.inj (accepted.symm.trans reading)
    subst tree
    exact apart_in_step p _ series old new oldName newName apart
  · rintro c m place rfl sole bare
    exact sole_renamed text c accepted m place sole bare old new oldName newName

theorem cpu_metric : IsMetric "cpu".toList := metric_name "cpu" "cpu" 0 rfl

def nestedSum : Expr :=
  .call
    { name := "sum"
      arguments := [.metric "cpu" 5, .call ⟨"max", [.metric "cpu" 14, .boolean true], [], "cpu,True", 10⟩]
      named := []
      argumentText := "cpu ,max(cpu,True)"
      position := 0 }

def nestedPhrase : Phrase IsMetric :=
  let cpu : Item IsMetric := .positional (.metric "cpu".toList cpu_metric)
  let flag : Item IsMetric := .positional (.boolean ⟨['T', 'r', 'u', 'e'], true, rfl⟩)
  let inner : Inside IsMetric := .items cpu (.next noSpace noSpace flag .nothing)
  let max : Identifier := ⟨'m', ['a', 'x'], rfl, List.all_eq_true.mp rfl⟩
  let sum : Identifier := ⟨'s', ['u', 'm'], rfl, List.all_eq_true.mp rfl⟩
  let blank : Space := ⟨[' '], List.all_eq_true.mp rfl⟩
  let nested : Item IsMetric := .positional (.call max noSpace noSpace inner noSpace)
  .call sum noSpace blank (.items cpu (.next blank noSpace nested .nothing)) noSpace

def longerMax : Call Expr := ⟨"max", [.metric "cpu2" 5], [], "cpu2", 0⟩

theorem nested_sum_in_step :
    read "cpu" = .ok (.metric "cpu" 0) ∧ read "disk" = .ok (.metric "disk" 0) ∧
      read "sum( cpu ,max(cpu,True))" = .ok nestedSum ∧ InStep (nestedSum.rename "cpu" "disk") ∧
      (nestedSum.rename "cpu" "disk").text = "sum(disk ,max(disk,True))" ∧
      read "max( cpu2 )" = .ok (.call longerMax) ∧ ¬ InStep ((Expr.call longerMax).rename "cpu" "disk") := by
  have accepted : read "sum( cpu ,max(cpu,True))" = .ok nestedSum := rfl
  have apart : Stretch.Apart "cpu".toList nestedPhrase.argumentStretches := by decide
  obtain ⟨_, stays, _⟩ := renamed_in_step _ nestedSum accepted "cpu" "disk" 0 0 rfl rfl
  have longer : read "max( cpu2 )" = .ok (.call longerMax) := rfl
  obtain ⟨_, _, sole⟩ := renamed_in_step _ (.call longerMax) longer "cpu" "disk" 0 0 rfl rfl
  have strays : ¬ InStep ((Expr.call longerMax).rename "cpu" "disk") := by
    rw [sole longerMax "cpu2" 5 rfl rfl rfl]
    decide
  exact ⟨rfl, rfl, accepted, stays rfl nestedPhrase noSpace noSpace (by decide) apart, rfl, longer, strays⟩

def longerSum : Expr := .call ⟨"sum", [.metric "cpu" 4, .metric "cpu2" 8], [], "cpu,cpu2", 0⟩

-- The longer name is replaced in the text, but not in the tree.
theorem longer_name_out_of_step :
    read "sum(cpu,cpu2)" = .ok longerSum ∧ read "cpu" = .ok (.metric "cpu" 0) ∧ read "mem" = .ok (.metric "mem" 0) ∧
      (longerSum.rename "cpu" "mem").text = "sum(mem,mem2)" ∧ ¬ InStep (longerSum.rename "cpu" "mem") := by
  refine ⟨rfl, rfl, rfl, rfl, ?_⟩
  rintro ⟨again, reread, same⟩
  have reading : read "sum(mem,mem2)" = .ok (.call ⟨"sum", [.metric "mem" 4, .metric "mem2" 8], [], "mem,mem2", 0⟩) := rfl
  cases reading.symm.trans reread
  simp [longerSum, Expr.rename, Expr.renameEach, Expr.renameNamed, Expr.unplaced, Expr.unplacedEach] at same

end Target

end TargetEval

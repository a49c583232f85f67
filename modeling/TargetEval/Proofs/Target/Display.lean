import TargetEval.Proofs.Target.Grammar

set_option autoImplicit false

namespace TargetEval

namespace ByName

variable {α β : Type} (f : α → β)

def mapValues (entries : List (String × α)) : List (String × β) := entries.map fun entry => (entry.1, f entry.2)

theorem insert_map (name : String) (value : α) (entries : ByName α) :
    insert name (f value) (mapValues f entries) = mapValues f (insert name value entries) := by
  induction entries with
  | nil => rfl
  | cons entry rest ih =>
      obtain ⟨key, old⟩ := entry
      simp only [mapValues, List.map_cons, insert] at ih ⊢
      by_cases same : key = name
      · simp only [if_pos same, List.map_cons]
      · by_cases before : name < key
        · simp only [if_neg same, if_pos before, List.map_cons]
        · simp only [if_neg same, if_neg before, List.map_cons, ih]

theorem of_list_map (entries : List (String × α)) : ofList (mapValues f entries) = mapValues f (ofList entries) := by
  change List.foldl _ (mapValues f []) (mapValues f entries) = _
  rw [ofList, mapValues, mapValues, List.foldl_map]
  refine List.foldl_hom (mapValues f) ?_
  intro map entry
  exact insert_map f entry.1 entry.2 map

end ByName

namespace Expr

mutual

def unplaced : Expr → Expr
  | .metric name _ => .metric name 0
  | .call ⟨name, arguments, named, argumentText, _⟩ =>
      .call
        { name, argumentText
          arguments := unplacedEach arguments
          named := unplacedNamed named
          position := 0 }
  | .number value => .number value
  | .string value => .string value
  | .boolean value => .boolean value

def unplacedEach : List Expr → List Expr
  | [] => []
  | e :: rest => unplaced e :: unplacedEach rest

def unplacedNamed : List (String × Expr) → List (String × Expr)
  | [] => []
  | (key, e) :: rest => (key, unplaced e) :: unplacedNamed rest

end

theorem unplaced_each (es : List Expr) : unplacedEach es = es.map unplaced := by
  induction es with
  | nil => rfl
  | cons e rest ih => rw [unplacedEach, ih, List.map_cons]

theorem unplaced_named (entries : List (String × Expr)) :
    unplacedNamed entries = ByName.mapValues unplaced entries := by
  induction entries with
  | nil => rfl
  | cons entry rest ih => exact congrArg ((entry.1, entry.2.unplaced) :: ·) ih

end Expr

namespace Target

def Argument.unplaced : Argument → Argument
  | .positional e => .positional e.unplaced
  | .named name e => .named name e.unplaced

def Argument.map (f : Expr → Expr) : Argument → Argument
  | .positional e => .positional (f e)
  | .named name e => .named name (f e)

theorem positional_map (f : Expr → Expr) (all : List Argument) :
    positionalOf (all.map (Argument.map f)) = (positionalOf all).map f := by
  induction all with
  | nil => rfl
  | cons a rest ih =>
      cases a with
      | positional e => exact congrArg (f e :: ·) ih
      | named name e => exact ih

theorem named_map (f : Expr → Expr) (all : List Argument) :
    namedOf (all.map (Argument.map f)) = ByName.mapValues f (namedOf all) := by
  rw [namedOf, namedOf, ← ByName.of_list_map]
  congr 1
  induction all with
  | nil => rfl
  | cons a rest ih =>
      cases a with
      | positional e => exact ih
      | named name e => exact congrArg ((name, f e) :: ·) ih

theorem Argument.unplaced_eq : Argument.unplaced = Argument.map Expr.unplaced := by
  funext a
  cases a <;> rfl

theorem positional_unplaced (all : List Argument) :
    positionalOf (all.map Argument.unplaced) = (positionalOf all).map Expr.unplaced :=
  Argument.unplaced_eq ▸ positional_map Expr.unplaced all

theorem named_unplaced (all : List Argument) :
    namedOf (all.map Argument.unplaced) = ByName.mapValues Expr.unplaced (namedOf all) :=
  Argument.unplaced_eq ▸ named_map Expr.unplaced all

section

variable {Name : List Char → Prop}

theorem call_unplaced (name : Identifier) (inside : Inside Name) (gap lead trail gap' lead' trail' : Space) (o other : Nat)
    (same : ∀ a b, (inside.arguments a).map Argument.unplaced = (inside.arguments b).map Argument.unplaced) :
    ((Phrase.call name gap lead inside trail).tree o).unplaced =
      ((Phrase.call name gap' lead' inside trail').tree other).unplaced := by
  have arguments := same (o + byteLength (name.chars ++ (gap.1 ++ '(' :: lead.1)))
    (other + byteLength (name.chars ++ (gap'.1 ++ '(' :: lead'.1)))
  simp only [call_tree, Expr.unplaced, Expr.unplaced_each, Expr.unplaced_named, ← positional_unplaced,
    ← named_unplaced, arguments]

mutual

theorem Phrase.unplaced_tree (p : Phrase Name) (o other : Nat) : (p.tree o).unplaced = (p.tree other).unplaced := by
  match p with
  | .metric _ _ => rfl
  | .number _ => rfl
  | .string _ => rfl
  | .boolean _ => rfl
  | .call name gap lead inside trail =>
      exact call_unplaced name inside gap lead trail gap lead trail o other inside.unplaced_arguments

theorem Inside.unplaced_arguments (inside : Inside Name) (o other : Nat) :
    (inside.arguments o).map Argument.unplaced = (inside.arguments other).map Argument.unplaced := by
  match inside with
  | .nothing => rfl
  | .items first more =>
      have here := first.unplaced_argument o other
      have later := more.unplaced_arguments (o + byteLength first.chars) (other + byteLength first.chars)
      simp only [Inside.arguments, List.map_cons, here, later]

theorem Item.unplaced_argument (item : Item Name) (o other : Nat) :
    (item.argument o).unplaced = (item.argument other).unplaced := by
  match item with
  | .positional value => exact congrArg Argument.positional (value.unplaced_tree o other)
  | .named key _ _ value => exact congrArg (Argument.named key.name) (value.unplaced_tree _ _)

theorem Further.unplaced_arguments (more : Further Name) (o other : Nat) :
    (more.arguments o).map Argument.unplaced = (more.arguments other).map Argument.unplaced := by
  match more with
  | .nothing => rfl
  | .next before after item later =>
      have here := item.unplaced_argument (o + byteLength (before.1 ++ ',' :: after.1))
        (other + byteLength (before.1 ++ ',' :: after.1))
      have rest := later.unplaced_arguments (o + byteLength (before.1 ++ ',' :: after.1) + byteLength item.chars)
        (other + byteLength (before.1 ++ ',' :: after.1) + byteLength item.chars)
      simp only [Further.arguments, List.map_cons, here, rest]

end

def Phrase.compact : Phrase Name → Phrase Name
  | .call name _ _ inside _ => .call name noSpace noSpace inside noSpace
  | p => p

theorem Phrase.text_tree (p : Phrase Name) (o : Nat) (series : (p.tree o).isSeries = true) :
    (p.tree o).text = String.ofList p.compact.chars := by
  cases p with
  | metric cs _ => rfl
  | call name gap lead inside trail =>
      refine String.toList_injective ?_
      simp [Phrase.tree, Expr.text, Call.renderedAs, Identifier.name, Phrase.compact, Phrase.chars, noSpace]
  | number _ => cases series
  | string _ => cases series
  | boolean _ => cases series

theorem Phrase.compact_tree (p : Phrase Name) (o other : Nat) : (p.compact.tree o).unplaced = (p.tree other).unplaced := by
  cases p with
  | call name gap lead inside trail =>
      exact call_unplaced name inside noSpace noSpace noSpace gap lead trail o other inside.unplaced_arguments
  | metric _ _ => rfl
  | number _ => rfl
  | string _ => rfl
  | boolean _ => rfl

end

/-- Reading the text of an expression for series that has been read gives the expression again, but
for the places of its nodes. -/
theorem read_displayed (text : String) (e : Expr) (accepted : read text = .ok e) (series : e.isSeries = true) :
    ∃ again, read e.text = .ok again ∧ again.unplaced = e.unplaced := by
  obtain ⟨p, before, after, _, rfl⟩ := (read_iff text e).mp accepted
  refine ⟨p.compact.tree 0, ?_, p.compact_tree 0 _⟩
  have whole := read_past (fun _ isMetric => isMetric) p.compact noSpace noSpace
  rw [p.text_tree _ series]
  simpa [noSpace, byte_length_nil] using whole

def optionedSum : Expr :=
  .call
    { name := "sum"
      arguments := [.metric "a.{b,c}" 6]
      named := [("x", .string "),(")]
      argumentText := "a.{b,c} ,\tx = '),('"
      position := 1 }

theorem optioned_sum_displayed :
    read " sum( a.{b,c} ,\tx = '),(' )" = .ok optionedSum ∧ optionedSum.isSeries = true ∧
      ∃ again, read optionedSum.text = .ok again ∧ again.unplaced = optionedSum.unplaced :=
  ⟨rfl, rfl, read_displayed " sum( a.{b,c} ,\tx = '),(' )" optionedSum rfl rfl⟩

end Target

end TargetEval

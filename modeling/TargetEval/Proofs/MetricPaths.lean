import TargetEval.Proofs.Successes
import TargetEval.Proofs.SummaryNames

set_option autoImplicit false

namespace TargetEval

namespace MetricName

inductive Flat : List Char → Prop where
  | nil : Flat []
  | char (c : Char) (rest : List Char) (named : isNameChar c = true) (later : Flat rest) : Flat (c :: rest)
  | group (inside rest : List Char) (plain : ∀ c ∈ inside, isNameChar c = true ∨ c = ',') (later : Flat rest) :
      Flat ('{' :: (inside ++ '}' :: rest))

theorem Flat.of_named (cs : List Char) (named : ∀ c ∈ cs, isNameChar c = true) : Flat cs := by
  induction cs with
  | nil => exact .nil
  | cons c rest ih =>
      obtain ⟨here, later⟩ := List.forall_mem_cons.mp named
      exact .char c rest here (ih later)

section

variable (depth : Nat) (held rest : List Char)

theorem path_from_named (c : Char) (named : isNameChar c = true) :
    pathFrom depth held (c :: rest) = pathFrom depth (held ++ [c]) rest := by
  rw [pathFrom, if_pos named]

theorem path_from_open : pathFrom depth held ('{' :: rest) = pathFrom (depth + 1) (held ++ ['{']) rest := rfl

theorem path_from_close : pathFrom (depth + 1) held ('}' :: rest) = pathFrom depth (held ++ ['}']) rest := rfl

theorem path_from_comma : pathFrom (depth + 1) held (',' :: rest) = pathFrom (depth + 1) (held ++ [',']) rest := rfl

theorem path_from_parenthesis : pathFrom depth held ('(' :: rest) = pathFrom depth [] rest := rfl

theorem path_from_group (inside : List Char) (plain : ∀ c ∈ inside, isNameChar c = true ∨ c = ',') :
    pathFrom (depth + 1) held (inside ++ rest) = pathFrom (depth + 1) (held ++ inside) rest := by
  induction inside generalizing held with
  | nil => rw [List.nil_append, List.append_nil]
  | cons c inside ih =>
      obtain ⟨here, later⟩ := List.forall_mem_cons.mp plain
      rw [List.cons_append]
      rcases here with named | rfl
      · rw [path_from_named _ _ _ c named, ih _ later, List.append_assoc, List.singleton_append]
      · rw [path_from_comma, ih _ later, List.append_assoc, List.singleton_append]

theorem path_from_flat (m : List Char) (flat : Flat m) :
    pathFrom depth held (m ++ rest) = pathFrom depth (held ++ m) rest := by
  -- Every brace that a flat path opens it closes, so what follows is met at the same depth again.
  induction flat generalizing held with
  | nil => rw [List.nil_append, List.append_nil]
  | char c m named _ ih => rw [List.cons_append, path_from_named _ _ _ c named, ih, List.append_assoc, List.singleton_append]
  | group inside m plain _ ih =>
      rw [List.cons_append, path_from_open, List.append_assoc, path_from_group _ _ _ inside plain, List.cons_append,
        path_from_close, ih]
      simp

end

def opened (fs : List Target.Identifier) : List Char := fs.flatMap fun f => f.chars ++ ['(']

def Continues (tail : List Char) : Prop := ∀ c ∈ tail.head?, c = ')' ∨ c = ','

theorem path_from_opened (fs : List Target.Identifier) (rest : List Char) :
    pathFrom 0 [] (opened fs ++ rest) = pathFrom 0 [] rest := by
  induction fs with
  | nil => rfl
  | cons f fs ih =>
      have named : Flat f.chars := .of_named f.chars fun c member => Target.part_named c (f.parts c member)
      have split : opened (f :: fs) ++ rest = f.chars ++ '(' :: (opened fs ++ rest) := by simp [opened]
      rw [split, path_from_flat _ _ _ f.chars named, path_from_parenthesis, ih]

theorem path_from_continued (held tail : List Char) (continues : Continues tail) : pathFrom 0 held tail = held := by
  cases tail with
  | nil => rfl
  | cons c tail =>
      rcases continues c rfl with rfl | rfl
      · rfl
      · rfl

def Wraps (m : List Char) (name : String) : Prop :=
  ∃ fs tail, name.toList = opened fs ++ (m ++ tail) ∧ Continues tail

theorem path_of_wrapped (m : List Char) (flat : Flat m) (name : String) (wraps : Wraps m name) :
    path name = String.ofList m := by
  obtain ⟨fs, tail, spelled, continues⟩ := wraps
  rw [path, spelled, path_from_opened, path_from_flat _ _ _ m flat, List.nil_append,
    path_from_continued m tail continues]

theorem key_of_path (name other : String) (same : path name = path other) (numbers : List Int64) :
    key name numbers = key other numbers := by
  rw [key, key, nodes, nodes, same]

end MetricName

def AppliedTo (input output : String) : Prop :=
  ∃ (f : Target.Identifier) (tail : List Char), output.toList = f.chars ++ '(' :: (input.toList ++ ',' :: tail)

theorem AppliedTo.wraps {input output : String} (applied : AppliedTo input output) (m : List Char)
    (wraps : MetricName.Wraps m input) : MetricName.Wraps m output := by
  obtain ⟨f, tail, spelled⟩ := applied
  obtain ⟨fs, written, inner, continues⟩ := wraps
  refine ⟨f :: fs, written ++ ',' :: tail, ?_, ?_⟩
  · simp [MetricName.opened, spelled, inner]
  · cases written with
    | nil => exact fun c head => .inr (Option.some.inj head).symm
    | cons c written => exact continues

theorem applied_to (f : Target.Identifier) (input output tail : String)
    (written : output = f.name ++ "(" ++ input ++ "," ++ tail) : AppliedTo input output :=
  ⟨f, tail.toList, by simp [written, Target.Identifier.name]⟩

theorem Smoothing.output_name_applied (input : String) (alpha : Float) : AppliedTo input (outputName input alpha) := by
  obtain ⟨f, spelled⟩ := Target.identifier_spelled "ewma" rfl rfl
  refine applied_to f input _ (numberText alpha ++ ")") (String.toList_injective ?_)
  simp [outputName, spelled]

theorem Rollup.output_name_applied (o : Options) (input : String) : AppliedTo input (o.outputName input) := by
  obtain ⟨f, spelled⟩ := Target.identifier_spelled "summarize" rfl rfl
  refine applied_to f input _ ("'" ++ o.interval ++ "'" ++ o.writtenText ++ ")") (String.toList_injective ?_)
  simp [output_name_text, spelled]

theorem smoothed_names (c : Call Expr) (sources results : List Series) (ok : Smoothing.compute c sources = .ok results) :
    List.Forall₂ (fun s t => AppliedTo s.name t.name) sources results := by
  obtain ⟨alpha, _, smoothed⟩ := Answer.ok_of_bind _ _ _ ok
  cases smoothed
  exact List.forall₂_map_right_iff.mpr (List.forall₂_same.mpr fun s _ => Smoothing.output_name_applied s.name alpha)

theorem rolled_up_names (c : Call Expr) (sources results : List Series) (ok : Rollup.compute c sources = .ok results) :
    List.Forall₂ (fun s t => AppliedTo s.name t.name) sources results := by
  obtain ⟨o, _, rolled⟩ := Answer.ok_of_bind _ _ _ ok
  refine (Answer.each_of_map_m _ _ _ rolled).imp fun s t applied => ?_
  rw [(Rollup.applied o c s t applied).1]
  exact Rollup.output_name_applied o s.name

/-- Calls that smooth or roll up, each around the one before, with any further arguments; the
innermost is a call on the given expression. -/
inductive Transforms (inner : Expr) : (calls : Nat) → Expr → Prop where
  | none : Transforms inner 0 inner
  | call (c : Call Expr) (e : Expr) (calls : Nat) (transform : c.name ∈ "summarize" :: Smoothing.names)
      (first : c.arguments[0]? = some e) (within : Transforms inner calls e) : Transforms inner (calls + 1) (.call c)

section

variable (ev : Evaluator) (builtin : ev.registry = Builtin.registry) (window : Window) (levels : Nat) (index : SeriesIndex)

include builtin

theorem computed_names (f : Function) (compute : Call Expr → List Series → Except Error (List Series))
    (computes : f.Computes compute) (names : List String) (row : (names, f) ∈ Builtin.table) (c : Call Expr)
    (listed : c.name ∈ names) (e : Expr) (first : c.arguments[0]? = some e)
    (each : ∀ sources results, compute c sources = .ok results →
      List.Forall₂ (fun s t => AppliedTo s.name t.name) sources results)
    (results : List Series) (ok : (ev.node window (levels + 1) index (.call c)).outcome = .ok results) :
    ∃ sources, (ev.node window levels index e).outcome = .ok sources ∧
      List.Forall₂ (fun s t => AppliedTo s.name t.name) sources results := by
  have resolved := builtin ▸ Builtin.resolve_listed (names, f) row c.name listed c.position
  rw [node_call ev window levels index c f resolved, Answer.followed_by_outcome, computes] at ok
  obtain ⟨sources, argument, computed⟩ := Answer.ok_of_and_then _ _ _ ok
  obtain ⟨given, present, evaluated, _⟩ := series_argument_success _ c _ sources argument
  obtain ⟨same, _⟩ := series_argument_found c 0 _ given present
  rw [first] at same
  cases same
  exact ⟨sources, evaluated, each sources results computed⟩

theorem transformed_names (c : Call Expr) (transform : c.name ∈ "summarize" :: Smoothing.names) (e : Expr)
    (first : c.arguments[0]? = some e) (results : List Series)
    (ok : (ev.node window (levels + 1) index (.call c)).outcome = .ok results) :
    ∃ sources, (ev.node window levels index e).outcome = .ok sources ∧
      List.Forall₂ (fun s t => AppliedTo s.name t.name) sources results := by
  rcases List.mem_cons.mp transform with rollup | smoothing
  · exact computed_names ev builtin window levels index _ _ rollup_computes ["summarize"] (by simp [Builtin.table]) c
      (List.mem_singleton.mpr rollup) e first (rolled_up_names c) results ok
  · exact computed_names ev builtin window levels index _ _ smoothing_computes Smoothing.names (by simp [Builtin.table]) c
      smoothing e first (smoothed_names c) results ok

end

theorem each_through {α β γ : Type} {first : α → β → Prop} {second : β → γ → Prop} {both : α → γ → Prop} {xs : List α}
    {ys : List β} {zs : List γ} (inputs : List.Forall₂ first xs ys) (outputs : List.Forall₂ second ys zs)
    (joined : ∀ x y z, first x y → second y z → both x z) : List.Forall₂ both xs zs := by
  induction inputs generalizing zs with
  | nil =>
      cases outputs
      exact .nil
  | cons here _ ih =>
      cases outputs with
      | cons next later => exact .cons (joined _ _ _ here next) (ih later)

theorem chain_wraps (ev : Evaluator) (builtin : ev.registry = Builtin.registry) (window : Window) (levels : Nat)
    (index : SeriesIndex) (inner e : Expr) (calls : Nat) (chain : Transforms inner calls e) (results : List Series)
    (ok : (ev.node window (levels + calls) index e).outcome = .ok results) :
    ∃ sources, (ev.node window levels index inner).outcome = .ok sources ∧
      List.Forall₂ (fun s t => ∀ m, MetricName.Wraps m s.name → MetricName.Wraps m t.name) sources results := by
  induction chain generalizing results with
  | none => exact ⟨results, ok, List.forall₂_same.mpr fun _ _ _ wraps => wraps⟩
  | call c e calls transform first _ ih =>
      obtain ⟨middle, within, applied⟩ := transformed_names ev builtin window (levels + calls) index c transform e first results ok
      obtain ⟨sources, evaluated, wrapped⟩ := ih middle within
      exact ⟨sources, evaluated, each_through wrapped applied fun _ _ _ here outer m wraps => outer.wraps m (here m wraps)⟩

/-- The path of a flat name is the name, also behind calls and in front of what they go on with. So
the nodes of a series, and the group that any of them put it in, are those of its smoothed and rolled
up forms. -/
theorem wrapped_paths_found :
    (∀ m, MetricName.Flat m → MetricName.path (String.ofList m) = String.ofList m) ∧
    (∀ m (fs : List Target.Identifier) (tail : List Char), MetricName.Flat m → tail.head? = some ')' ∨ tail.head? = some ',' →
      MetricName.path (String.ofList (MetricName.opened fs ++ (m ++ tail))) = String.ofList m) ∧
    (∀ (ev : Evaluator) (window : Window) (levels : Nat) (index : SeriesIndex) (inner e : Expr) (calls : Nat)
      (results : List Series), ev.registry = Builtin.registry → Transforms inner calls e →
      (ev.node window (levels + calls) index e).outcome = .ok results →
      ∃ sources, (ev.node window levels index inner).outcome = .ok sources ∧
        List.Forall₂ (fun s t => ∀ m, MetricName.Flat m → MetricName.Wraps m s.name →
          MetricName.path t.name = String.ofList m ∧
            ∀ numbers, MetricName.key t.name numbers = MetricName.key s.name numbers) sources results) := by
  refine ⟨fun m flat => ?_, fun m fs tail flat follows => ?_, ?_⟩
  · exact MetricName.path_of_wrapped m flat _ ⟨[], [], by simp [MetricName.opened], nofun⟩
  · refine MetricName.path_of_wrapped m flat _ ⟨fs, tail, String.toList_ofList, fun c head => ?_⟩
    rcases follows with close | comma
    · exact .inl (Option.some.inj (head.symm.trans close))
    · exact .inr (Option.some.inj (head.symm.trans comma))
  · intro ev window levels index inner e calls results builtin chain ok
    obtain ⟨sources, evaluated, wrapped⟩ := chain_wraps ev builtin window levels index inner e calls chain results ok
    refine ⟨sources, evaluated, wrapped.imp fun s t outer m flat wraps => ?_⟩
    have found := MetricName.path_of_wrapped m flat t.name (outer m wraps)
    refine ⟨found, MetricName.key_of_path _ _ ?_⟩
    rw [found, MetricName.path_of_wrapped m flat s.name wraps]

def webTotal : Expr := .call ⟨"sum", [.metric "web.{a,b}.cpu" 4, .metric "disk.*" 18], [], "web.{a,b}.cpu,disk.*", 0⟩

def smoothedWebTotal : Expr :=
  .call ⟨"ewma", [.call ⟨"summarize", [webTotal, .string "2s"], [], "sum(web.{a,b}.cpu,disk.*),'2s'", 5⟩, .number 0.5], [],
    "summarize(sum(web.{a,b}.cpu,disk.*),'2s'),0.5", 0⟩

def webIndex : SeriesIndex := .single ⟨"web.{a,b}.cpu", ⟨0, 4⟩⟩ [.ofValues "web.a.cpu" 0 1 [1.0, 2.0, 3.0, 4.0]]

def summedWeb : Series := .ofValues "sum(web.{a,b}.cpu,disk.*)" 0 1 [1.0, 2.0, 3.0, 4.0]

def smoothedWeb : Series := .ofValues "ewma(summarize(sum(web.{a,b}.cpu,disk.*),'2s'),0.5)" 0 2 [3.0, 5.0]

theorem smoothed_total_in_its_group :
    MetricName.Flat "web.{a,b}.cpu".toList ∧ MetricName.Wraps "web.{a,b}.cpu".toList summedWeb.name ∧
      MetricName.path summedWeb.name = "web.{a,b}.cpu" ∧ Transforms webTotal 2 smoothedWebTotal ∧
      (Builtin.evaluator.node ⟨0, 4⟩ (2 + 2) webIndex smoothedWebTotal).outcome = .ok [smoothedWeb] ∧
      MetricName.key smoothedWeb.name [-1, 1] = MetricName.key summedWeb.name [-1, 1] ∧
      MetricName.key summedWeb.name [-1, 1] = .ok "cpu.{a,b}" := by
  have plain : ∀ c ∈ ['a', ',', 'b'], MetricName.isNameChar c = true ∨ c = ',' :=
    List.forall_mem_cons.mpr ⟨.inl rfl, List.forall_mem_cons.mpr ⟨.inr rfl, List.forall_mem_singleton.mpr (.inl rfl)⟩⟩
  have flat : MetricName.Flat "web.{a,b}.cpu".toList :=
    .char 'w' _ (by decide) (.char 'e' _ (by decide) (.char 'b' _ (by decide) (.char '.' _ (by decide)
      (.group ['a', ',', 'b'] _ plain (.of_named _ (List.all_eq_true.mp (by decide)))))))
  obtain ⟨sum, spelled⟩ := Target.identifier_spelled "sum" rfl rfl
  have chars : sum.chars = ['s', 'u', 'm'] := by
    rw [← String.toList_ofList (l := sum.chars)]
    exact congrArg String.toList spelled
  have wraps : MetricName.Wraps "web.{a,b}.cpu".toList summedWeb.name :=
    ⟨[sum], ",disk.*)".toList, by simp only [MetricName.opened, List.flatMap_singleton, chars]; rfl,
      fun c head => .inr (Option.some.inj head).symm⟩
  have chain : Transforms webTotal 2 smoothedWebTotal :=
    .call _ _ 1 (by decide) rfl (.call _ _ 0 (by decide) rfl .none)
  have evaluated : (Builtin.evaluator.node ⟨0, 4⟩ (2 + 2) webIndex smoothedWebTotal).outcome = .ok [smoothedWeb] := by
    decide +kernel
  have inner : (Builtin.evaluator.node ⟨0, 4⟩ 2 webIndex webTotal).outcome = .ok [summedWeb] := by
    decide +kernel
  obtain ⟨_, behind, transformed⟩ := wrapped_paths_found
  obtain ⟨sources, found, each⟩ := transformed Builtin.evaluator ⟨0, 4⟩ 2 webIndex webTotal smoothedWebTotal 2 [smoothedWeb] rfl
    chain evaluated
  cases found.symm.trans inner
  obtain ⟨here, _⟩ := List.forall₂_cons.mp each
  obtain ⟨_, keys⟩ := here _ flat wraps
  have direct := behind _ [sum] ",disk.*)".toList flat (.inr rfl)
  simp only [MetricName.opened, List.flatMap_singleton, chars] at direct
  exact ⟨flat, wraps, direct, chain, evaluated, keys [-1, 1], by decide +kernel⟩

end TargetEval

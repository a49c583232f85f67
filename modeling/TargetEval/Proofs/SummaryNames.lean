import TargetEval.Proofs.AggregateNames

set_option autoImplicit false

namespace TargetEval

namespace Interval

theorem part_chars (cs rest : List Char) (part : Part) (found : part? cs = some (part, rest)) :
    ∀ c ∈ cs, c.isDigit = true ∨ c.isAlpha = true ∨ c ∈ rest := by
  unfold part? at found
  dsimp only at found
  split at found
  next => cases found
  next =>
    cases found
    intro c member
    rw [← List.takeWhile_append_dropWhile (p := Char.isDigit) (l := cs)] at member
    rcases List.mem_append.mp member with digit | behind
    · exact .inl (List.mem_takeWhile_imp digit)
    · rw [← List.takeWhile_append_dropWhile (p := Char.isAlpha) (l := cs.dropWhile Char.isDigit)] at behind
      rcases List.mem_append.mp behind with letter | later
      · exact .inr (.inl (List.mem_takeWhile_imp letter))
      · exact .inr (.inr later)

theorem parts_chars (room : Nat) (cs : List Char) :
    ∀ c ∈ cs, c.isDigit = true ∨ c.isAlpha = true ∨ c ∈ (parts room cs).2 := by
  induction room generalizing cs with
  | zero => exact fun c member => .inr (.inr member)
  | succ room ih =>
      intro c member
      rw [parts]
      cases found : part? cs with
      | none => exact .inr (.inr member)
      | some taken =>
          rcases part_chars cs taken.2 taken.1 found c member with digit | letter | later
          · exact .inl digit
          · exact .inr (.inl letter)
          · exact ih taken.2 c later

theorem sign_chars (cs : List Char) : ∀ c ∈ cs, c = '+' ∨ c = '-' ∨ c ∈ (sign? cs).2 := by
  intro c member
  unfold sign?
  split
  next => exact (List.mem_cons.mp member).imp_right .inr
  next => exact .inr (List.mem_cons.mp member)
  next => exact .inr (.inr member)

theorem mem_trimmed (cs : List Char) : ∀ c ∈ cs, isBlank c = true ∨ c ∈ trimChars cs := by
  intro c member
  rw [← List.takeWhile_append_dropWhile (p := isBlank) (l := cs)] at member
  rcases List.mem_append.mp member with blank | inner
  · exact .inl (List.mem_takeWhile_imp blank)
  · rw [← List.mem_reverse, ← List.takeWhile_append_dropWhile (p := isBlank) (l := (cs.dropWhile isBlank).reverse)] at inner
    rcases List.mem_append.mp inner with blank | kept
    · exact .inl (List.mem_takeWhile_imp blank)
    · exact .inr (List.mem_reverse.mpr kept)

theorem read_unquoted (text : String) (defaultSign : Int) (seconds : Seconds) (ok : read text defaultSign = .ok seconds) :
    '\'' ∉ text.toList := by
  intro member
  rcases mem_trimmed text.toList _ member with blank | inner
  · exact absurd blank (by decide)
  · have whole : (parts (sign? (trimChars text.toList)).2.length (sign? (trimChars text.toList)).2).2 = [] := by
      by_contra left
      unfold read at ok
      dsimp only at ok
      split at ok
      next => cases ok
      next =>
        have more := List.isEmpty_eq_false_iff.mpr left
        simp only [more] at ok
        cases ok
    rcases sign_chars _ _ inner with plus | minus | unsigned
    · exact absurd plus (by decide)
    · exact absurd minus (by decide)
    · rcases parts_chars _ _ _ unsigned with digit | letter | later
      · exact absurd digit (by decide)
      · exact absurd letter (by decide)
      · rw [whole] at later
        cases later

end Interval

theorem Rollup.options_ok (c : Call Expr) (o : Options) :
    options c = .ok o ↔
      c.arguments[1]? = some (.string o.interval) ∧ Interval.read o.interval 1 = .ok o.width ∧ 0 < o.width ∧
        (c.named? "func" 2).getD (.string "sum") = .string o.func ∧ Reducer.ofName o.func = .ok o.reducer ∧
        (c.named? "alignToFrom" 3).getD (.boolean false) = .boolean o.fromStart ∧
        o.funcGiven = (c.named? "func" 2).isSome ∧ o.fromStartGiven = (c.named? "alignToFrom" 3).isSome := by
  simp only [← c.string_or_ok, ← c.boolean_or_ok, ← c.is_given_named]
  constructor
  · intro ok
    unfold options at ok
    obtain ⟨width, read, ok⟩ := Answer.ok_of_bind _ _ _ ok
    obtain ⟨text, given, seconds⟩ := (c.interval_ok 1 "intervalString" 1 width).mp read
    dsimp only at ok
    split at ok
    next => cases ok
    next wide =>
      obtain ⟨func, named, ok⟩ := Answer.ok_of_bind _ _ _ ok
      obtain ⟨fromStart, aligned, ok⟩ := Answer.ok_of_bind _ _ _ ok
      obtain ⟨reducer, denoted, ok⟩ := Answer.ok_of_bind _ _ _ ok
      cases ok
      have written : (c.stringAt? 1).getD "" = text := by rw [Call.stringAt?, given]; rfl
      exact ⟨written.symm ▸ given, written.symm ▸ seconds, Int64.not_le.mp wide, named, denoted, aligned, rfl, rfl⟩
  · rintro ⟨given, read, positive, func, denoted, aligned, funcGiven, fromStartGiven⟩
    have width := (c.interval_ok 1 "intervalString" 1 o.width).mpr ⟨_, given, read⟩
    have wide : ¬ o.width ≤ 0 := Int64.not_le.mpr positive
    have written : (c.stringAt? 1).getD "" = o.interval := by rw [Call.stringAt?, given]; rfl
    simp only [options, width, func, denoted, aligned, Answer.ok_bind, if_neg wide, written, ← funcGiven, ← fromStartGiven]
    rfl

namespace Target

theorem read_first_argument (text : String) (e : Expr) (accepted : read text = .ok e) (name : Identifier)
    (item : Item IsMetric) (more : Further IsMetric) :
    ∃ x o written, x.unplaced = e.unplaced ∧
      read (name.name ++ "(" ++ text ++ "," ++ String.ofList (item.chars ++ more.chars) ++ ")") =
        .ok (.call
          { name := name.name
            arguments := x :: (item.values o ++ more.values (o + byteLength item.chars))
            named := ByName.ofList (item.entries o ++ more.entries (o + byteLength item.chars))
            argumentText := written
            position := 0 }) := by
  obtain ⟨p, before, after, spaced, rfl⟩ := (read_iff text e).mp accepted
  let inside : Inside IsMetric := .items (.positional p) (.next after noSpace item more)
  let whole : Phrase IsMetric := .call name noSpace before inside noSpace
  let start := 0 + byteLength (name.chars ++ (noSpace.1 ++ '(' :: before.1))
  have reading := read_past (fun _ isMetric => isMetric) whole noSpace noSpace
  have applied : name.name ++ "(" ++ text ++ "," ++ String.ofList (item.chars ++ more.chars) ++ ")" =
      String.ofList (noSpace.1 ++ (whole.chars ++ noSpace.1)) := by
    refine String.toList_injective ?_
    simp [whole, inside, Identifier.name, Phrase.chars, Inside.chars, Item.chars, Further.chars, noSpace, spaced]
  refine ⟨p.tree start, start + byteLength p.chars + byteLength (after.1 ++ ',' :: noSpace.1),
    String.ofList inside.chars, p.unplaced_tree start _, ?_⟩
  rw [applied, reading]
  rfl

def quoted (text : String) (free : '\'' ∉ text.toList) : Item IsMetric :=
  .positional (.string ⟨'\'', text.toList, .inl rfl, free⟩)

def truth (value : Bool) : Item IsMetric :=
  .positional (.boolean ⟨if value then ['t', 'r', 'u', 'e'] else ['f', 'a', 'l', 's', 'e'], value, by cases value <;> rfl⟩)

end Target

namespace Rollup

def Options.written (o : Options) : List Expr :=
  (if o.funcGiven || o.fromStartGiven then [.string o.func] else []) ++
    if o.fromStartGiven then [.boolean o.fromStart] else []

def Options.further (o : Options) (free : '\'' ∉ o.func.toList) : Target.Further Target.IsMetric :=
  let alignment : Target.Further Target.IsMetric :=
    if o.fromStartGiven then .next Target.noSpace Target.noSpace (Target.truth o.fromStart) .nothing else .nothing
  if o.funcGiven || o.fromStartGiven then .next Target.noSpace Target.noSpace (Target.quoted o.func free) alignment
  else .nothing

def Options.writtenText (o : Options) : String :=
  (if o.funcGiven || o.fromStartGiven then ",'" ++ o.func ++ "'" else "") ++
    if o.fromStartGiven then (if o.fromStart then ",true" else ",false") else ""

theorem output_name_text (o : Options) (input : String) :
    o.outputName input = "summarize(" ++ input ++ ",'" ++ o.interval ++ "'" ++ o.writtenText ++ ")" := by
  -- The equation of the definition would take seconds to derive.
  delta Options.outputName Options.writtenText
  simp only [String.append_assoc]

theorem further_written (o : Options) (func : '\'' ∉ o.func.toList) :
    String.ofList (o.further func).chars = o.writtenText := by
  refine String.toList_injective ?_
  obtain ⟨_, _, _, funcGiven, fromStart, fromStartGiven, _⟩ := o
  cases funcGiven <;> cases fromStart <;> cases fromStartGiven <;>
    simp [Options.writtenText, Options.further, Target.quoted, Target.truth, Target.Item.chars, Target.Phrase.chars, Target.Quotation.chars,
      Target.Further.chars, Target.noSpace]

theorem output_name_read (o : Options) (interval : '\'' ∉ o.interval.toList) (func : '\'' ∉ o.func.toList)
    (input : String) (t : Expr) (accepted : Target.read input = .ok t) :
    ∃ x written, x.unplaced = t.unplaced ∧
      Target.read (o.outputName input) =
        .ok (.call ⟨"summarize", x :: .string o.interval :: o.written, [], written, 0⟩) := by
  obtain ⟨name, spelled⟩ := Target.identifier_spelled "summarize" rfl rfl
  obtain ⟨x, place, written, same, reading⟩ :=
    Target.read_first_argument input t accepted name (Target.quoted o.interval interval) (o.further func)
  refine ⟨x, written, same, ?_⟩
  have quoted : String.ofList (Target.quoted o.interval interval).chars = "'" ++ o.interval ++ "'" :=
    String.toList_injective (by simp [Target.quoted, Target.Item.chars, Target.Phrase.chars, Target.Quotation.chars])
  have name_written : o.outputName input =
      "summarize" ++ "(" ++ input ++ "," ++
        String.ofList ((Target.quoted o.interval interval).chars ++ (o.further func).chars) ++ ")" := by
    rw [String.ofList_append, quoted, further_written o func, output_name_text]
    exact String.toList_injective (by simp)
  rw [spelled, ← name_written] at reading
  rw [reading]
  obtain ⟨_, _, _, funcGiven, fromStart, fromStartGiven, _⟩ := o
  cases funcGiven <;> cases fromStartGiven <;>
    simp [Options.further, Options.written, Target.quoted, Target.truth, Target.Item.values, Target.Item.entries,
      Target.Further.values, Target.Further.entries, Target.Phrase.tree, ByName.ofList]

theorem options_written (o : Options) (x : Expr) (text : String) (interval : Interval.read o.interval 1 = .ok o.width)
    (wide : 0 < o.width) (denotes : Reducer.ofName o.func = .ok o.reducer)
    (func : o.funcGiven = false → o.func = "sum") (fromStart : o.fromStartGiven = false → o.fromStart = false) :
    options ⟨"summarize", x :: .string o.interval :: o.written, [], text, 0⟩ =
      .ok { o with funcGiven := o.funcGiven || o.fromStartGiven } := by
  refine (options_ok _ _).mpr ⟨rfl, interval, wide, ?_, denotes, ?_, ?_, ?_⟩
  all_goals
    simp only [Call.named?, ByName.find?, Option.none_or]
    cases funcs : o.funcGiven <;> cases starts : o.fromStartGiven <;> simp_all [Options.written]

-- The name reads as a call of `summarize` on the expression, with the width, the reducer and the
-- alignment of the options. Only the text of the reducer can stand in its place.
def Options.Denoted (o : Options) (e : Expr) (name : String) : Prop :=
  ∃ again x other, Target.read name = .ok (.call again) ∧ again.name = "summarize" ∧
    again.arguments[0]? = some x ∧ x.unplaced = e.unplaced ∧
    options again = .ok other ∧ other.width = o.width ∧ other.reducer = o.reducer ∧ other.fromStart = o.fromStart ∧
    ∀ given, again.named? "func" 2 = some given → given = .string o.func

theorem options_denoted (c : Call Expr) (o : Options) (ok : options c = .ok o) (input : String) (t : Expr)
    (accepted : Target.read input = .ok t) : o.Denoted t (o.outputName input) := by
  obtain ⟨_, interval, wide, func, denotes, fromStart, funcGiven, fromStartGiven⟩ := (options_ok c o).mp ok
  have unquoted := Interval.read_unquoted o.interval 1 o.width interval
  have spelled := reducer_spelling o.func (Grouping.of_name_mem o.func o.reducer (Reducer.of_name_eq _ _ denotes))
  obtain ⟨x, written, same, reading⟩ := output_name_read o unquoted spelled input t accepted
  have sum : o.funcGiven = false → o.func = "sum" := by
    intro omitted
    rw [funcGiven, Option.isSome_eq_false_iff, Option.isNone_iff_eq_none] at omitted
    rw [omitted] at func
    exact (Expr.string.inj func).symm
  have unaligned : o.fromStartGiven = false → o.fromStart = false := by
    intro omitted
    rw [fromStartGiven, Option.isSome_eq_false_iff, Option.isNone_iff_eq_none] at omitted
    rw [omitted] at fromStart
    exact (Expr.boolean.inj fromStart).symm
  have again := options_written o x written interval wide denotes sum unaligned
  refine ⟨_, x, _, reading, rfl, rfl, same, again, rfl, rfl, rfl, ?_⟩
  intro given place
  have reread := ((options_ok _ _).mp again).2.2.2.1
  rw [place] at reread
  exact reread

end Rollup

theorem Series.summarized_name (s : Series) (name : String) (width : Seconds) (r : Reducer) (fromStart : Bool)
    (result : Series) (rolled : s.summarize name width r fromStart = .ok result) : result.name = name := by
  obtain rfl | ⟨_, start, stop, points, rfl, _⟩ := s.summarize_cases name width r fromStart result rolled
  · rfl
  · rfl

theorem Rollup.applied (o : Options) (c : Call Expr) (s result : Series) (ok : o.apply c s = .ok result) :
    result.name = o.outputName s.name ∧ s.summarize result.name o.width o.reducer o.fromStart = .ok result := by
  rw [rollup_apply] at ok
  cases rolled : s.summarize (o.outputName s.name) o.width o.reducer o.fromStart with
  | error fault =>
      rw [rolled] at ok
      cases ok
  | ok series =>
      rw [rolled] at ok
      cases ok
      have name := s.summarized_name _ _ _ _ _ rolled
      exact ⟨name, name.symm ▸ rolled⟩

/-- A successful `summarize` rolls up each of its inputs by the options of the call. The reducer and
the alignment are given by name, else by position, else they are the sum and the multiples of the
width. Where the name of an input is a target, the name of its output is the target of the same roll
up of it. -/
theorem summary_names_read (scope : Scope) (c : Call Expr) (outputs : List Series)
    (ok : (Rollup.function.run scope c).outcome = .ok outputs) :
    ∃ inputs o, (scope.seriesArgument c 0 "seriesList").outcome = .ok inputs ∧ Rollup.options c = .ok o ∧
      ((ByName.find? "func" c.named).or c.arguments[2]?).getD (.string "sum") = .string o.func ∧
      ((ByName.find? "alignToFrom" c.named).or c.arguments[3]?).getD (.boolean false) = .boolean o.fromStart ∧
      List.Forall₂ (fun input output =>
        input.summarize output.name o.width o.reducer o.fromStart = .ok output ∧
          ∀ t, Target.read input.name = .ok t → o.Denoted t output.name) inputs outputs := by
  rw [rollup_computes] at ok
  obtain ⟨inputs, evaluated, computed⟩ := Answer.ok_of_and_then _ _ _ ok
  obtain ⟨o, coerced, applied⟩ := Answer.ok_of_bind _ _ _ computed
  obtain ⟨_, _, _, func, _, fromStart, _⟩ := (Rollup.options_ok c o).mp coerced
  refine ⟨inputs, o, evaluated, coerced, func, fromStart, ?_⟩
  refine (Answer.each_of_map_m _ _ _ applied).imp fun input output rolled => ?_
  obtain ⟨name, summarized⟩ := Rollup.applied o c input output rolled
  refine ⟨summarized, fun t accepted => ?_⟩
  rw [name]
  exact Rollup.options_denoted c o coerced input.name t accepted

def hostsRollup : Call Expr :=
  { name := "summarize"
    arguments := [.metric "hosts.*" 10, .string " 2s", .string "avg"]
    named := [("alignToFrom", .boolean true), ("func", .string "max")]
    argumentText := "hosts.*, ' 2s', 'avg', func='max', alignToFrom=true"
    position := 0 }

def rolledHosts : List Series :=
  [.ofValues "summarize(hosts.a,' 2s','max',true)" 0 2 [2.0], .ofValues "summarize(hosts.b,' 2s','max',true)" 0 2 [4.0]]

theorem host_rollups_denoted :
    (Rollup.function.run (Builtin.evaluator.scope ⟨0, 2⟩ 1 crowded) hostsRollup).outcome = .ok rolledHosts ∧
      Target.read "hosts.b" = .ok (.metric "hosts.b" 0) ∧
      ∃ o, Rollup.options hostsRollup = .ok o ∧ o.func = "max" ∧ o.fromStart = true ∧
        hosts[1].summarize "summarize(hosts.b,' 2s','max',true)" o.width o.reducer o.fromStart = .ok rolledHosts[1] ∧
        o.Denoted (.metric "hosts.b" 0) "summarize(hosts.b,' 2s','max',true)" := by
  have ok : (Rollup.function.run (Builtin.evaluator.scope ⟨0, 2⟩ 1 crowded) hostsRollup).outcome = .ok rolledHosts := by
    decide +kernel
  have parsed : Target.read "hosts.b" = .ok (.metric "hosts.b" 0) := rfl
  obtain ⟨inputs, o, evaluated, coerced, func, fromStart, each⟩ :=
    summary_names_read (Builtin.evaluator.scope ⟨0, 2⟩ 1 crowded) hostsRollup rolledHosts ok
  have found : inputs = hosts := by
    have looked_up : ((Builtin.evaluator.scope ⟨0, 2⟩ 1 crowded).seriesArgument hostsRollup 0 "seriesList").outcome = .ok hosts := by
      decide +kernel
    exact Except.ok.inj (evaluated.symm.trans looked_up)
  subst found
  obtain ⟨_, later⟩ := List.forall₂_cons.mp each
  obtain ⟨⟨rolled, denoted⟩, _⟩ := List.forall₂_cons.mp later
  exact ⟨ok, parsed, o, coerced, (Expr.string.inj func).symm, (Expr.boolean.inj fromStart).symm, rolled, denoted _ parsed⟩

end TargetEval

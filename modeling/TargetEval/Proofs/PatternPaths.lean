import Mathlib.Data.List.DropRight
import TargetEval.Proofs.MetricPaths
import TargetEval.Proofs.Target.Renaming

set_option autoImplicit false

namespace TargetEval

namespace MetricName

open Target (Pattern)

def isPathChar (c : Char) : Bool := isNameChar c || c = '{' || c = '}' || c = ','

-- What stands in front of the first closing parenthesis, and there behind the last of the other
-- characters that a path does not keep.
def lastStretch (cs : List Char) : List Char := (cs.takeWhile (· ≠ ')')).rtakeWhile isPathChar

theorem last_stretch_of_kept (cs : List Char) (kept : ∀ c ∈ cs, isPathChar c = true) : lastStretch cs = cs := by
  have within : ∀ c ∈ cs, decide (c ≠ ')') = true := by
    intro c member
    refine decide_eq_true fun same => ?_
    rw [same] at member
    exact absurd (kept ')' member) (by decide)
  rw [lastStretch, List.takeWhile_eq_self_iff.mpr within]
  exact List.rtakeWhile_eq_self_iff.mpr kept

theorem kept_of_last_stretch (cs : List Char) (same : lastStretch cs = cs) : ∀ c ∈ cs, isPathChar c = true := by
  intro c member
  rw [← same] at member
  exact List.mem_rtakeWhile_imp member

theorem take_last_behind (p : Char → Bool) (front rest : List Char) (c : Char) (stops : p c = false) :
    (front ++ c :: rest).rtakeWhile p = rest.rtakeWhile p := by
  induction rest using List.reverseRecOn with
  | nil => rw [List.rtakeWhile_concat, if_neg (by simp [stops]), List.rtakeWhile_nil]
  | append_singleton rest last ih =>
      rw [← List.cons_append, ← List.append_assoc, List.rtakeWhile_concat, List.rtakeWhile_concat, ih]

section

variable (held rest : List Char)

def stretchFrom (cs : List Char) : List Char := (held ++ cs.takeWhile (· ≠ ')')).rtakeWhile isPathChar

theorem stretch_ended (kept : ∀ c ∈ held, isPathChar c = true) (tail : List Char) (ends : ∀ c ∈ tail.head?, c = ')') :
    stretchFrom held tail = held := by
  have nothing : tail.takeWhile (· ≠ ')') = [] := by
    cases tail with
    | nil => rfl
    | cons c tail =>
        rw [ends c rfl]
        rfl
  rw [stretchFrom, nothing, List.append_nil]
  exact List.rtakeWhile_eq_self_iff.mpr kept

theorem stretch_kept (c : Char) (other : c ≠ ')') : stretchFrom held (c :: rest) = stretchFrom (held ++ [c]) rest := by
  rw [stretchFrom, stretchFrom, List.takeWhile_cons_of_pos (by simpa using other), List.append_assoc, List.singleton_append]

theorem stretch_anew (c : Char) (other : c ≠ ')') (foreign : isPathChar c = false) :
    stretchFrom held (c :: rest) = stretchFrom [] rest := by
  rw [stretchFrom, stretchFrom, List.takeWhile_cons_of_pos (by simpa using other), take_last_behind _ _ _ c foreign,
    List.nil_append]

end

def FindsStretch (braces : Nat) (cs : List Char) : Prop :=
  ∀ more held, (∀ c ∈ held, isPathChar c = true) → pathFrom (more + braces) held cs = stretchFrom held cs

theorem finds_ended (braces : Nat) (tail : List Char) (ends : ∀ c ∈ tail.head?, c = ')') : FindsStretch braces tail := by
  intro more held kept
  rw [stretch_ended held kept tail ends]
  cases tail with
  | nil => rfl
  | cons c tail =>
      rw [ends c rfl]
      rfl

theorem finds_kept (braces next : Nat) (c : Char) (rest : List Char) (kept : isPathChar c = true)
    (goes : ∀ more held, pathFrom (more + braces) held (c :: rest) = pathFrom (more + next) (held ++ [c]) rest)
    (finds : FindsStretch next rest) : FindsStretch braces (c :: rest) := by
  intro more held before
  have other : c ≠ ')' := by
    rintro rfl
    exact absurd kept (by decide)
  rw [goes, stretch_kept held rest c other]
  exact finds more _ (List.forall_mem_append.mpr ⟨before, List.forall_mem_singleton.mpr kept⟩)

theorem finds_named (braces : Nat) (c : Char) (rest : List Char) (named : isNameChar c = true)
    (finds : FindsStretch braces rest) : FindsStretch braces (c :: rest) :=
  finds_kept braces braces c rest (by simp [isPathChar, named]) (fun _ held => path_from_named _ held rest c named) finds

theorem finds_open (braces : Nat) (rest : List Char) (finds : FindsStretch (braces + 1) rest) :
    FindsStretch braces ('{' :: rest) :=
  finds_kept braces (braces + 1) '{' rest (by decide) (fun _ held => path_from_open _ held rest) finds

theorem finds_anew (braces : Nat) (c : Char) (rest : List Char) (other : c ≠ ')') (foreign : isPathChar c = false)
    (finds : FindsStretch braces rest) : FindsStretch braces (c :: rest) := by
  intro more held kept
  have anew : pathFrom (more + braces) held (c :: rest) = pathFrom (more + braces) [] rest := by
    simp only [isPathChar, Bool.or_eq_false_iff, decide_eq_false_iff_not] at foreign
    obtain ⟨⟨⟨named, opens⟩, closes⟩, comma⟩ := foreign
    rw [pathFrom, if_neg (by simp [named]), if_neg opens, if_neg other, if_neg closes, if_neg comma]
  rw [anew, stretch_anew held rest c other foreign]
  exact finds more [] (List.forall_mem_nil _)

theorem finds_weaken (braces : Nat) (rest : List Char) (finds : FindsStretch braces rest) : FindsStretch (braces + 1) rest := by
  intro more held kept
  rw [Nat.add_comm braces 1, ← Nat.add_assoc]
  exact finds (more + 1) held kept

theorem finds_inside (c : Char) (rest : List Char) (inside : c ≠ '}') (finds : FindsStretch 1 rest) :
    FindsStretch 1 (c :: rest) := by
  by_cases close : c = ')'
  · exact finds_ended 1 _ fun x head => (Option.some.inj head).symm.trans close
  by_cases kept : isPathChar c = true
  · simp only [isPathChar, Bool.or_eq_true, decide_eq_true_eq] at kept
    rcases kept with ((named | rfl) | closes) | rfl
    · exact finds_named 1 c rest named finds
    -- A brace that is opened inside of the group is counted, and nothing of the group closes it.
    · exact finds_open 1 rest (finds_weaken 1 rest finds)
    · exact absurd closes inside
    · exact finds_kept 1 1 ',' rest (by decide) (fun _ held => path_from_comma _ held rest) finds
  · exact finds_anew 1 c rest close (Bool.eq_false_iff.mpr kept) finds

theorem finds_group (inside rest : List Char) (closed : ∀ c ∈ inside, c ≠ '}') (finds : FindsStretch 0 rest) :
    FindsStretch 1 (inside ++ '}' :: rest) := by
  induction inside with
  | nil => exact finds_kept 1 0 '}' rest (by decide) (fun _ held => path_from_close _ held rest) finds
  | cons c inside ih =>
      obtain ⟨here, later⟩ := List.forall_mem_cons.mp closed
      exact finds_inside c _ here (ih later)

theorem finds_pattern (cs tail : List Char) (pattern : Pattern cs) (ends : ∀ c ∈ tail.head?, c = ')') :
    FindsStretch 0 (cs ++ tail) := by
  induction pattern with
  | nil => exact finds_ended 0 tail ends
  | char c rest named _ ih => exact finds_named 0 c _ named ih
  | group inside rest closed _ ih =>
      rw [List.cons_append, List.append_assoc]
      exact finds_open 0 _ (finds_group inside _ (fun c member => (closed c member).1) ih)

theorem stretch_in_front (cs tail : List Char) (ends : ∀ c ∈ tail.head?, c = ')') :
    stretchFrom [] (cs ++ tail) = lastStretch cs := by
  rw [stretchFrom, lastStretch, List.nil_append]
  congr 1
  induction cs with
  | nil =>
      cases tail with
      | nil => rfl
      | cons c tail =>
          rw [ends c rfl]
          rfl
  | cons c cs ih => simp only [List.cons_append, List.takeWhile_cons, ih]

theorem path_of_pattern (cs tail : List Char) (pattern : Pattern cs) (ends : ∀ c ∈ tail.head?, c = ')') :
    pathFrom 0 [] (cs ++ tail) = lastStretch cs :=
  (finds_pattern cs tail pattern ends 0 [] (List.forall_mem_nil _)).trans (stretch_in_front cs tail ends)

end MetricName

theorem combiner_identifier (f : String) (listed : f ∈ Combiner.names) : ∃ name : Target.Identifier, name.name = f := by
  have spelled : ∀ f ∈ Combiner.names, (f.toList.head?.any fun c => c.isAlpha || c = '_') = true ∧
      (f.toList.tail.all fun c => c.isAlphanum || c = '_') = true := by
    decide
  exact Target.identifier_spelled f (spelled f listed).1 (spelled f listed).2

theorem output_name_listed (f : String) (listed : f ∈ Combiner.names) : Combiner.outputName f ∈ Combiner.names := by
  obtain ⟨combiner, known, rfl⟩ := List.mem_map.mp listed
  obtain ⟨other, further, title, _⟩ := output_name_combines combiner known
  exact title ▸ List.mem_map_of_mem further

theorem combined_pattern_name (ev : Evaluator) (builtin : ev.registry = Builtin.registry) (reads : ev.read = Target.read)
    (window : Window) (index : SeriesIndex) (m : String) (place : Nat) (parsed : Target.read m = .ok (.metric m place))
    (f : String) (listed : f ∈ Combiner.names) (series : List Series)
    (ok : (ev.evaluateTarget (f ++ "(" ++ m ++ ")") window index).outcome = .ok series) :
    ∃ s, series = [s] ∧ s.name = Combiner.outputName f ++ "(" ++ m ++ ")" := by
  obtain ⟨name, rfl⟩ := combiner_identifier f listed
  obtain ⟨x, _, applied⟩ := Target.read_applied_alone m _ parsed rfl name
  have reading : Target.read (name.name ++ "(" ++ m ++ ")") = .ok (.call ⟨name.name, [x], [], m, 0⟩) := applied
  rw [← reads] at reading
  rw [evaluate_target_read _ _ _ _ _ reading, evaluate_combiner ev builtin window index _ listed] at ok
  obtain ⟨_, xs, s, _, _, combined, rfl⟩ := (combiner_ok _ _ series).mp ok
  exact ⟨s, rfl, combined_name _ _ _ s combined⟩

theorem path_of_combination (f m : String) (listed : f ∈ Combiner.names) (pattern : Target.Pattern m.toList) :
    MetricName.path (Combiner.outputName f ++ "(" ++ m ++ ")") = String.ofList (MetricName.lastStretch m.toList) := by
  obtain ⟨name, spelled⟩ := combiner_identifier _ (output_name_listed f listed)
  have chars : (Combiner.outputName f ++ "(" ++ m ++ ")").toList = MetricName.opened [name] ++ (m.toList ++ [')']) := by
    rw [← spelled]
    simp [MetricName.opened, Target.Identifier.name]
  rw [MetricName.path, chars, MetricName.path_from_opened, MetricName.path_of_pattern m.toList [')'] pattern (by simp)]

/-- The path of a pattern is its last stretch, so it is the pattern itself exactly if the braces hold
nothing but path characters. The combination of the pattern has the same path and the same nodes. -/
theorem pattern_paths_found (m : String) (place : Nat) (parsed : Target.read m = .ok (.metric m place)) :
    MetricName.path m = String.ofList (MetricName.lastStretch m.toList) ∧
    (MetricName.path m = m ↔ ∀ c ∈ m.toList, MetricName.isPathChar c = true) ∧
    (∀ (settings : EvaluatorSettings) (window : Window) (index : SeriesIndex) (f : String) (series : List Series),
      f ∈ Combiner.names →
      ((Builtin.evaluatorWith settings).evaluateTarget (f ++ "(" ++ m ++ ")") window index).outcome = .ok series →
      ∃ s, series = [s] ∧ MetricName.path s.name = MetricName.path m ∧
        ∀ numbers, MetricName.key s.name numbers = MetricName.key m numbers) := by
  have pattern := (Target.metric_name m m place parsed).pattern
  have found : MetricName.path m = String.ofList (MetricName.lastStretch m.toList) := by
    have whole := MetricName.path_of_pattern m.toList [] pattern nofun
    rw [List.append_nil] at whole
    rw [MetricName.path, whole]
  refine ⟨found, ⟨fun same => ?_, fun kept => ?_⟩, fun settings window index f series listed ok => ?_⟩
  · refine MetricName.kept_of_last_stretch m.toList ?_
    rw [← String.toList_ofList (l := MetricName.lastStretch m.toList), ← found, same]
  · rw [found, MetricName.last_stretch_of_kept m.toList kept, String.ofList_toList]
  · obtain ⟨s, rfl, name⟩ := combined_pattern_name _ rfl rfl window index m place parsed f listed series ok
    have same : MetricName.path s.name = MetricName.path m := by
      rw [name, found, path_of_combination f m listed pattern]
    exact ⟨s, rfl, same, MetricName.key_of_path _ _ same⟩

def diskPattern : String := "df.\x7ba,\x7bb\x7d.used"

def diskIndex : SeriesIndex := .single ⟨diskPattern, ⟨0, 2⟩⟩ [.ofValues "df.a.used" 0 1 [1.0, 2.0]]

def averagedDisk : Series := .ofValues ("averageSeries(" ++ diskPattern ++ ")") 0 1 [1.0, 2.0]

theorem braced_brace_found :
    Target.read diskPattern = .ok (.metric diskPattern 0) ∧
      (∀ c ∈ diskPattern.toList, MetricName.isPathChar c = true) ∧ "avg" ∈ Combiner.names ∧
      (Builtin.evaluator.evaluateTarget ("avg" ++ "(" ++ diskPattern ++ ")") ⟨0, 2⟩ diskIndex).outcome = .ok [averagedDisk] ∧
      MetricName.path averagedDisk.name = diskPattern := by
  have parsed : Target.read diskPattern = .ok (.metric diskPattern 0) := rfl
  have kept : ∀ c ∈ diskPattern.toList, MetricName.isPathChar c = true := List.all_eq_true.mp (by decide)
  have combinator : "avg" ∈ Combiner.names := by decide
  have ok : (Builtin.evaluator.evaluateTarget ("avg" ++ "(" ++ diskPattern ++ ")") ⟨0, 2⟩ diskIndex).outcome =
      .ok [averagedDisk] := by
    decide +kernel
  obtain ⟨_, whole, combined⟩ := pattern_paths_found diskPattern 0 parsed
  obtain ⟨s, only, same, _⟩ := combined _ _ _ "avg" _ combinator ok
  cases only
  exact ⟨parsed, kept, combinator, ok, same.trans (whole.mpr kept)⟩

def spacedIndex : SeriesIndex := .single ⟨"hosts.{a b}.cpu", ⟨0, 2⟩⟩ hosts

def summedHosts : Series := .ofValues "sum(hosts.{a b}.cpu)" 0 1 [4.0, 6.0]

-- A space between braces belongs to the pattern, and the search for its path starts anew behind it.
theorem spaced_group_cut :
    ¬ (∀ (m : String) (place : Nat), Target.read m = .ok (.metric m place) → MetricName.path m = m) ∧
    ¬ (∀ (m : String) (place : Nat) (window : Window) (index : SeriesIndex) (f : String) (s : Series),
      Target.read m = .ok (.metric m place) → f ∈ Combiner.names →
      (Builtin.evaluator.evaluateTarget (f ++ "(" ++ m ++ ")") window index).outcome = .ok [s] →
      MetricName.path s.name = m) := by
  have parsed : Target.read "hosts.{a b}.cpu" = .ok (.metric "hosts.{a b}.cpu" 0) := rfl
  refine ⟨fun all => ?_, fun all => ?_⟩
  · have cut : MetricName.path "hosts.{a b}.cpu" = "b\x7d.cpu" := rfl
    exact absurd (cut.symm.trans (all _ 0 parsed)) (by decide)
  · have ok : (Builtin.evaluator.evaluateTarget ("sum" ++ "(" ++ "hosts.{a b}.cpu" ++ ")") ⟨0, 2⟩ spacedIndex).outcome =
        .ok [summedHosts] := by
      decide +kernel
    have cut : MetricName.path summedHosts.name = "b\x7d.cpu" := rfl
    exact absurd (cut.symm.trans (all _ 0 _ _ "sum" summedHosts parsed (by decide) ok)) (by decide)

end TargetEval

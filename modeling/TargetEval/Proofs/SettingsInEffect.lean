import TargetEval.CommandLine.Reply
import TargetEval.Proofs.Answers

set_option autoImplicit false

namespace TargetEval

def IsNatural (text : String) (n : Nat) : Prop :=
  ∃ plus ∈ [[], ['+']], ∃ digits : List Char, text.toList = plus ++ digits ∧ digits ≠ [] ∧
    (∀ c ∈ digits, c.isDigit = true) ∧ Decimal.ofDigits digits = n ∧ n < Nat.pow 2 64

def flagWords : Bool → List String
  | true => ["1", "true", "yes", "on"]
  | false => ["0", "false", "no", "off"]

def IsFlag (text : String) (flag : Bool) : Prop := String.ofList (text.toList.map Char.toLower) ∈ flagWords flag

/-- Where the value of a field comes from. A variable that is not set, or that holds a text that
cannot be read, leaves the field to the file. -/
inductive Decides {α : Type} (held? : Option String) (Reads : String → α → Prop) (file? : Option α) (fallback : α) :
    α → Prop where
  | environment (text : String) (value : α) (set : held? = some text) (reads : Reads text value) :
      Decides held? Reads file? fallback value
  | file (value : α) (unread : ∀ text other, held? = some text → ¬ Reads text other) (given : file? = some value) :
      Decides held? Reads file? fallback value
  | fallback (unread : ∀ text other, held? = some text → ¬ Reads text other) (missing : file? = none) :
      Decides held? Reads file? fallback fallback

structure InEffect (env : Environment) (file : SettingsLayer) (s : Settings) : Prop where
  maxDepth : Decides (env "KUBA_EVAL_MAX_DEPTH") IsNatural file.maxDepth 64 s.evaluator.maxDepth
  parallelArguments : Decides (env "KUBA_EVAL_PARALLEL") IsFlag file.parallelArguments false s.evaluator.parallelArguments
  lenientGrouping : Decides (env "KUBA_EVAL_LENIENT_GROUP_BY") IsFlag file.lenientGrouping true s.evaluator.lenientGrouping
  recordsMetrics : Decides (env "KUBA_EVAL_METRICS") IsFlag file.recordsMetrics true s.evaluator.recordsMetrics
  level : Decides (env "RUST_LOG") Eq file.logLevel "warn" s.logging.level
  -- No variable stands for this field.
  withTarget : Decides none IsFlag file.logsTarget true s.logging.withTarget

structure Settings.Valid (s : Settings) : Prop where
  least : 1 ≤ s.evaluator.maxDepth
  most : s.evaluator.maxDepth ≤ 10000
  level : ∃ c ∈ s.logging.level.toList, isBlank c = false

namespace Environment

theorem natural_behind (text : String) (plus digits : List Char) (listed : plus ∈ [[], ['+']])
    (same : text.toList = plus ++ digits) (bare : plus = [] → digits.head? ≠ some '+') :
    natural? text = if !digits.isEmpty && digits.all Char.isDigit && Decimal.ofDigits digits < Nat.pow 2 64
      then some (Decimal.ofDigits digits) else none := by
  unfold natural?
  rw [same]
  simp only [List.mem_cons, List.not_mem_nil, or_false] at listed
  rcases listed with rfl | rfl
  · rw [List.nil_append]
    cases digits with
    | nil => rfl
    | cons c rest =>
        have other : c ≠ '+' := fun plus => bare rfl (congrArg some plus)
        split
        next found =>
          cases found
          exact absurd rfl other
        next => rfl
  · rfl

theorem plus_split (cs : List Char) :
    ∃ plus ∈ [[], ['+']], ∃ digits, cs = plus ++ digits ∧ (plus = [] → digits.head? ≠ some '+') := by
  by_cases first : cs.head? = some '+'
  · obtain ⟨rest, rfl⟩ := List.head?_eq_some_iff.mp first
    exact ⟨['+'], by decide, rest, rfl, nofun⟩
  · exact ⟨[], by decide, cs, rfl, fun _ => first⟩

theorem natural_iff (text : String) (n : Nat) : natural? text = some n ↔ IsNatural text n := by
  have valid : ∀ digits : List Char,
      (!digits.isEmpty && digits.all Char.isDigit && decide (Decimal.ofDigits digits < Nat.pow 2 64)) = true ↔
        digits ≠ [] ∧ (∀ c ∈ digits, c.isDigit = true) ∧ Decimal.ofDigits digits < Nat.pow 2 64 := by
    intro digits
    rw [Bool.and_eq_true, Bool.and_eq_true, Bool.not_eq_true', List.isEmpty_eq_false_iff, List.all_eq_true,
      decide_eq_true_eq, and_assoc]
  constructor
  · intro read
    obtain ⟨plus, listed, digits, same, bare⟩ := plus_split text.toList
    rw [natural_behind text plus digits listed same bare, Option.ite_none_right_eq_some, valid] at read
    obtain ⟨⟨occupied, all, fits⟩, value⟩ := read
    cases value
    exact ⟨plus, listed, digits, same, occupied, all, rfl, fits⟩
  · rintro ⟨plus, listed, digits, same, occupied, all, rfl, fits⟩
    have bare : plus = [] → digits.head? ≠ some '+' := fun _ first => by
      have digit := all '+' (List.mem_of_head? first)
      cases digit
    rw [natural_behind text plus digits listed same bare, if_pos ((valid digits).mpr ⟨occupied, all, fits⟩)]

theorem flag_iff (text : String) (flag : Bool) : flag? text = some flag ↔ IsFlag text flag := by
  unfold flag? IsFlag
  generalize String.ofList (text.toList.map Char.toLower) = word
  have apart : word ∈ flagWords true → word ∉ flagWords false := by
    simp only [flagWords, List.mem_cons, List.not_mem_nil, or_false]
    rintro (rfl | rfl | rfl | rfl) <;> decide
  change (if word ∈ flagWords true then some true else if word ∈ flagWords false then some false else none) = some flag ↔ _
  by_cases yes : word ∈ flagWords true
  · rw [if_pos yes]
    cases flag <;> simp [yes, apart yes]
  · rw [if_neg yes]
    by_cases no : word ∈ flagWords false
    · rw [if_pos no]
      cases flag <;> simp [yes, no]
    · rw [if_neg no]
      cases flag <;> simp [yes, no]

end Environment

theorem decides_iff {α : Type} {held? : Option String} {Reads : String → α → Prop} (read : String → Option α)
    (reads : ∀ text value, read text = some value ↔ Reads text value) {file? : Option α} {fallback value : α} :
    Decides held? Reads file? fallback value ↔ value = ((held?.bind read).or file?).getD fallback := by
  cases found : held?.bind read with
  | some first =>
      obtain ⟨text, set, known⟩ := Option.bind_eq_some_iff.mp found
      rw [Option.some_or, Option.getD_some]
      constructor
      · rintro (⟨other, value, held, readable⟩ | ⟨value, unread, _⟩ | ⟨unread, _⟩)
        · cases set.symm.trans held
          exact Option.some.inj (((reads _ _).mpr readable).symm.trans known)
        · exact absurd ((reads text first).mp known) (unread text first set)
        · exact absurd ((reads text first).mp known) (unread text first set)
      · rintro rfl
        exact .environment text _ set ((reads _ _).mp known)
  | none =>
      have unread : ∀ text other, held? = some text → ¬ Reads text other := fun text other set readable => by
        rw [set, Option.bind_some, (reads text other).mpr readable] at found
        cases found
      rw [Option.none_or]
      constructor
      · rintro (⟨text, value, held, readable⟩ | ⟨value, _, given⟩ | ⟨_, missing⟩)
        · exact absurd readable (unread text _ held)
        · rw [given, Option.getD_some]
        · rw [missing, Option.getD_none]
      · rintro rfl
        cases file? with
        | none => exact .fallback unread rfl
        | some value => exact .file value unread rfl

theorem SettingsLayer.above_or (upper lower : SettingsLayer) :
    upper.above lower =
      { maxDepth := upper.maxDepth.or lower.maxDepth
        parallelArguments := upper.parallelArguments.or lower.parallelArguments
        lenientGrouping := upper.lenientGrouping.or lower.lenientGrouping
        recordsMetrics := upper.recordsMetrics.or lower.recordsMetrics
        logLevel := upper.logLevel.or lower.logLevel
        logsTarget := upper.logsTarget.or lower.logsTarget } := by
  simp only [above, Option.orElse_eq_orElse, Option.orElse_eq_or]

theorem in_effect_iff (env : Environment) (file : SettingsLayer) (s : Settings) :
    InEffect env file s ↔ s = (env.settings.above file).settings := by
  have flags : ∀ name file? fallback value, Decides (env name) IsFlag file? fallback value ↔
      value = (((env name).bind Environment.flag?).or file?).getD fallback := fun _ _ _ _ => decides_iff _ Environment.flag_iff
  have depth : ∀ value, Decides (env "KUBA_EVAL_MAX_DEPTH") IsNatural file.maxDepth 64 value ↔
      value = (((env "KUBA_EVAL_MAX_DEPTH").bind Environment.natural?).or file.maxDepth).getD 64 :=
    fun _ => decides_iff _ Environment.natural_iff
  have level : ∀ value, Decides (env "RUST_LOG") Eq file.logLevel "warn" value ↔
      value = ((env "RUST_LOG").or file.logLevel).getD "warn" := fun value => by
    rw [decides_iff some fun _ _ => Option.some_inj, Option.bind_fun_some]
  have target : ∀ value, Decides none IsFlag file.logsTarget true value ↔ value = file.logsTarget.getD true :=
    fun _ => decides_iff _ Environment.flag_iff
  rw [SettingsLayer.above_or]
  obtain ⟨⟨maxDepth, parallel, lenient, records⟩, ⟨logLevel, withTarget⟩⟩ := s
  constructor
  · rintro ⟨first, second, third, fourth, fifth, sixth⟩
    cases (depth _).mp first
    cases (flags _ _ _ _).mp second
    cases (flags _ _ _ _).mp third
    cases (flags _ _ _ _).mp fourth
    cases (level _).mp fifth
    cases (target _).mp sixth
    rfl
  · rintro same
    cases same
    exact ⟨(depth _).mpr rfl, (flags _ _ _ _).mpr rfl, (flags _ _ _ _).mpr rfl, (flags _ _ _ _).mpr rfl,
      (level _).mpr rfl, (target _).mpr rfl⟩

namespace SettingsLayer

def valueAt? (root : Toml.Entries) (record : String) (names : List String) (name : String) : Option Toml.Value := do
  let fields ← (← root.lookup record).fields? names
  ((names.zip fields).lookup name).join

-- A document of settings, in which records are records and the fields that are given have their
-- types.
structure Decoded (root : Toml.Entries) (layer : SettingsLayer) : Prop where
  evaluator : ∀ record, root.lookup "evaluator" = some record → (record.fields? evaluatorNames).isSome
  logging : ∀ record, root.lookup "logging" = some record → (record.fields? loggingNames).isSome
  maxDepth : given Toml.Value.natural? (valueAt? root "evaluator" evaluatorNames "max_recursion_depth") = some layer.maxDepth
  parallelArguments :
    given Toml.Value.boolean? (valueAt? root "evaluator" evaluatorNames "parallel_arguments") = some layer.parallelArguments
  lenientGrouping :
    given Toml.Value.boolean? (valueAt? root "evaluator" evaluatorNames "lenient_group_by") = some layer.lenientGrouping
  recordsMetrics :
    given Toml.Value.boolean? (valueAt? root "evaluator" evaluatorNames "metrics_enabled") = some layer.recordsMetrics
  logLevel : given Toml.Value.text? (valueAt? root "logging" loggingNames "log_level") = some layer.logLevel
  logsTarget : given Toml.Value.boolean? (valueAt? root "logging" loggingNames "with_target") = some layer.logsTarget

theorem fields_length (names : List String) (record : Toml.Value) (fields : List (Option Toml.Value))
    (found : record.fields? names = some fields) : fields.length = names.length := by
  cases record with
  | table origin entries =>
      cases found
      exact List.length_map _
  | array items =>
      cases found
      rw [List.length_map, List.length_range]
  | moment text =>
      cases found
      exact List.length_map _
  | string text => cases found
  | integer n => cases found
  | float x => cases found
  | boolean b => cases found
  | tables elements => cases found

theorem part_iff (ofRecord? : Toml.Value → Option SettingsLayer) (held? : Option Toml.Value) (part : SettingsLayer) :
    (∃ part?, given ofRecord? held? = some part? ∧ part?.getD empty = part) ↔
      held? = none ∧ empty = part ∨ ∃ record, held? = some record ∧ ofRecord? record = some part := by
  cases held? with
  | none => simp [given]
  | some record => simp [given, Option.map_eq_some_iff]

theorem evaluator_part_iff (root : Toml.Entries) (part : SettingsLayer) :
    (∃ part?, given ofEvaluator? (root.lookup "evaluator") = some part? ∧ part?.getD empty = part) ↔
      (∀ record, root.lookup "evaluator" = some record → (record.fields? evaluatorNames).isSome) ∧
      given Toml.Value.natural? (valueAt? root "evaluator" evaluatorNames "max_recursion_depth") = some part.maxDepth ∧
      given Toml.Value.boolean? (valueAt? root "evaluator" evaluatorNames "parallel_arguments") = some part.parallelArguments ∧
      given Toml.Value.boolean? (valueAt? root "evaluator" evaluatorNames "lenient_group_by") = some part.lenientGrouping ∧
      given Toml.Value.boolean? (valueAt? root "evaluator" evaluatorNames "metrics_enabled") = some part.recordsMetrics ∧
      part.logLevel = none ∧ part.logsTarget = none := by
  obtain ⟨_, _, _, _, _, _⟩ := part
  rw [part_iff]
  unfold valueAt?
  cases held : root.lookup "evaluator" with
  | none =>
      constructor
      · rintro (⟨_, same⟩ | ⟨_, found, _⟩)
        · cases same
          exact ⟨nofun, rfl, rfl, rfl, rfl, rfl, rfl⟩
        · cases found
      · rintro ⟨_, depth, parallel, lenient, metrics, rfl, rfl⟩
        cases depth
        cases parallel
        cases lenient
        cases metrics
        exact .inl ⟨rfl, rfl⟩
  | some record =>
      cases found : record.fields? evaluatorNames with
      | none => simp [ofEvaluator?, found]
      | some fields =>
          have length := fields_length _ _ _ found
          match fields, length with
          | [depth, parallel, lenient, metrics], _ =>
              have zipped : evaluatorNames.zip [depth, parallel, lenient, metrics] =
                  [("max_recursion_depth", depth), ("parallel_arguments", parallel), ("lenient_group_by", lenient),
                    ("metrics_enabled", metrics)] := rfl
              simp [ofEvaluator?, found, Option.bind_eq_some_iff, empty, zipped, List.lookup_cons, @eq_comm _ none]

theorem logging_part_iff (root : Toml.Entries) (part : SettingsLayer) :
    (∃ part?, given ofLogging? (root.lookup "logging") = some part? ∧ part?.getD empty = part) ↔
      (∀ record, root.lookup "logging" = some record → (record.fields? loggingNames).isSome) ∧
        given Toml.Value.text? (valueAt? root "logging" loggingNames "log_level") = some part.logLevel ∧
        given Toml.Value.boolean? (valueAt? root "logging" loggingNames "with_target") = some part.logsTarget ∧
        part.maxDepth = none ∧ part.parallelArguments = none ∧ part.lenientGrouping = none ∧ part.recordsMetrics = none := by
  obtain ⟨_, _, _, _, _, _⟩ := part
  rw [part_iff]
  unfold valueAt?
  cases held : root.lookup "logging" with
  | none =>
      constructor
      · rintro (⟨_, same⟩ | ⟨_, found, _⟩)
        · cases same
          exact ⟨nofun, rfl, rfl, rfl, rfl, rfl, rfl⟩
        · cases found
      · rintro ⟨_, level, target, rfl, rfl, rfl, rfl⟩
        cases level
        cases target
        exact .inl ⟨rfl, rfl⟩
  | some record =>
      cases found : record.fields? loggingNames with
      | none => simp [ofLogging?, found]
      | some fields =>
          have length := fields_length _ _ _ found
          match fields, length with
          | [level, target], _ =>
              have zipped : loggingNames.zip [level, target] = [("log_level", level), ("with_target", target)] := rfl
              simp [ofLogging?, found, Option.bind_eq_some_iff, empty, zipped, List.lookup_cons, @eq_comm _ none]

theorem of_entries_iff (root : Toml.Entries) (layer : SettingsLayer) : ofEntries? root = some layer ↔ Decoded root layer := by
  have parts : ofEntries? root = some layer ↔ ∃ evaluator logging,
      (∃ part?, given ofEvaluator? (root.lookup "evaluator") = some part? ∧ part?.getD empty = evaluator) ∧
        (∃ part?, given ofLogging? (root.lookup "logging") = some part? ∧ part?.getD empty = logging) ∧
          evaluator.above logging = layer := by
    simp only [ofEntries?, Option.bind_eq_bind, Option.bind_eq_some_iff, Option.pure_def, Option.some.injEq]
    constructor
    · rintro ⟨first?, first, second?, second, rfl⟩
      exact ⟨_, _, ⟨first?, first, rfl⟩, ⟨second?, second, rfl⟩, rfl⟩
    · rintro ⟨_, _, ⟨first?, first, rfl⟩, ⟨second?, second, rfl⟩, rfl⟩
      exact ⟨first?, first, second?, second, rfl⟩
  rw [parts]
  constructor
  · rintro ⟨evaluator, logging, first, second, rfl⟩
    obtain ⟨record, depth, parallel, lenient, metrics, noLevel, noTarget⟩ := (evaluator_part_iff root evaluator).mp first
    obtain ⟨other, level, target, noDepth, noParallel, noLenient, noMetrics⟩ := (logging_part_iff root logging).mp second
    rw [above_or, noLevel, noTarget, noDepth, noParallel, noLenient, noMetrics]
    simp only [Option.or_none, Option.none_or]
    exact ⟨record, other, depth, parallel, lenient, metrics, level, target⟩
  · rintro ⟨record, other, depth, parallel, lenient, metrics, level, target⟩
    refine ⟨{ layer with logLevel := none, logsTarget := none },
      { empty with logLevel := layer.logLevel, logsTarget := layer.logsTarget }, ?_, ?_, ?_⟩
    · exact (evaluator_part_iff root _).mpr ⟨record, depth, parallel, lenient, metrics, rfl, rfl⟩
    · exact (logging_part_iff root _).mpr ⟨other, level, target, rfl, rfl, rfl, rfl⟩
    · rw [above_or]
      simp only [empty, Option.or_none, Option.none_or]

end SettingsLayer

namespace Settings

theorem check_ok (s : Settings) : s.check = .ok () ↔ s.Valid := by
  have blank : s.logging.level.toList.all isBlank = false ↔ ∃ c ∈ s.logging.level.toList, isBlank c = false :=
    List.all_eq_false.trans (by simp only [Bool.not_eq_true])
  unfold check
  by_cases zero : s.evaluator.maxDepth = 0
  · rw [if_pos zero]
    exact iff_of_false nofun fun valid => absurd valid.least (by omega)
  rw [if_neg zero]
  by_cases deep : 10000 < s.evaluator.maxDepth
  · rw [if_pos deep]
    exact iff_of_false nofun fun valid => absurd valid.most (by omega)
  rw [if_neg deep]
  by_cases empty : s.logging.level.toList.all isBlank = true
  · rw [if_pos empty]
    exact iff_of_false nofun fun valid => absurd (blank.mpr valid.level) (by rw [empty]; decide)
  · rw [if_neg empty]
    exact iff_of_true rfl ⟨by omega, by omega, blank.mp (Bool.eq_false_iff.mpr empty)⟩

theorem check_error (s : Settings) (e : Error) (failed : s.check = .error e) : ∃ detail, e = .configuration detail := by
  unfold check at failed
  repeat' split at failed
  all_goals cases failed
  all_goals exact ⟨_, rfl⟩

end Settings

def Chosen (files : Files) : (path? : Option String) → SettingsLayer → Prop
  | none, file => file = SettingsLayer.empty
  | some path, file =>
      ∃ text root, files path = some text ∧ Toml.read? text = some root ∧ SettingsLayer.Decoded root file

namespace Settings

theorem read_file_ok (files : Files) (path : String) (file : SettingsLayer) :
    readFile files path = .ok file ↔ Chosen files (some path) file := by
  unfold readFile
  rw [Chosen]
  cases files path with
  | none => simp
  | some text =>
      simp only [SettingsLayer.read?, Option.bind_eq_bind, Option.some.injEq, exists_and_left, exists_eq_left']
      cases Toml.read? text with
      | none => simp
      | some root =>
          simp only [Option.bind_some, Option.some.injEq, exists_eq_left', ← SettingsLayer.of_entries_iff]
          cases SettingsLayer.ofEntries? root with
          | none => simp
          | some layer => simp

theorem read_file_error (files : Files) (path : String) (e : Error) (failed : readFile files path = .error e) :
    ∃ detail, e = .configuration detail := by
  unfold readFile at failed
  repeat' split at failed
  all_goals cases failed
  all_goals exact ⟨_, rfl⟩

theorem load_ok (files : Files) (path? : Option String) (env : Environment) (s : Settings) :
    load files path? env = .ok s ↔ ∃ file, Chosen files path? file ∧ InEffect env file s := by
  simp only [in_effect_iff, load]
  cases path? with
  | none =>
      rw [Option.mapM_none]
      change Except.ok (merge none env) = .ok s ↔ ∃ file, file = SettingsLayer.empty ∧ s = (env.settings.above file).settings
      rw [exists_eq_left, Except.ok.injEq, eq_comm]
      rfl
  | some path =>
      rw [Option.mapM_some]
      simp only [← read_file_ok]
      cases readFile files path with
      | error e => simp
      | ok file =>
          change Except.ok (merge (some file) env) = .ok s ↔ _
          simp only [Except.ok.injEq, exists_eq_left', eq_comm (a := s)]
          rfl

theorem load_error (files : Files) (path? : Option String) (env : Environment) (e : Error)
    (failed : load files path? env = .error e) :
    (∃ detail, e = .configuration detail) ∧ ∀ file, ¬ Chosen files path? file := by
  cases path? with
  | none => cases failed
  | some path =>
      cases read : readFile files path with
      | ok file =>
          rw [load, Option.mapM_some, read] at failed
          cases failed
      | error other =>
          rw [load, Option.mapM_some, read] at failed
          cases failed
          refine ⟨read_file_error files path e read, fun file chosen => ?_⟩
          rw [(read_file_ok files path file).mpr chosen] at read
          cases read

theorem load_valid_bind (files : Files) (path? : Option String) (env : Environment) :
    loadValid files path? env = load files path? env >>= fun s => s.check >>= fun _ => .ok s := rfl

theorem load_valid_ok (files : Files) (path? : Option String) (env : Environment) (s : Settings) :
    loadValid files path? env = .ok s ↔ ∃ file, Chosen files path? file ∧ InEffect env file s ∧ s.Valid := by
  simp only [← and_assoc]
  rw [exists_and_right, ← load_ok, ← check_ok, load_valid_bind]
  constructor
  · intro ok
    obtain ⟨other, loaded, later⟩ := Answer.ok_of_bind _ _ _ ok
    obtain ⟨_, checked, same⟩ := Answer.ok_of_bind _ _ _ later
    cases same
    exact ⟨loaded, checked⟩
  · rintro ⟨loaded, checked⟩
    rw [loaded, Answer.ok_bind, checked, Answer.ok_bind]

theorem load_valid_error (files : Files) (path? : Option String) (env : Environment) (e : Error)
    (failed : loadValid files path? env = .error e) :
    (∃ detail, e = .configuration detail) ∧
      ((∀ file, ¬ Chosen files path? file) ∨ ∃ file s, Chosen files path? file ∧ InEffect env file s ∧ ¬ s.Valid) := by
  rw [load_valid_bind] at failed
  cases loaded : load files path? env with
  | error other =>
      rw [loaded] at failed
      cases failed
      obtain ⟨worded, unchosen⟩ := load_error files path? env e loaded
      exact ⟨worded, .inl unchosen⟩
  | ok s =>
      rw [loaded, Answer.ok_bind] at failed
      cases checked : s.check with
      | ok _ =>
          rw [checked] at failed
          cases failed
      | error other =>
          rw [checked] at failed
          cases failed
          obtain ⟨file, chosen, inEffect⟩ := (load_ok files path? env s).mp loaded
          refine ⟨s.check_error e checked, .inr ⟨file, s, chosen, inEffect, fun valid => ?_⟩⟩
          rw [s.check_ok.mpr valid] at checked
          cases checked

theorem chosen_unique (files : Files) (path? : Option String) (env : Environment) (file other : SettingsLayer) (s t : Settings)
    (chosen : Chosen files path? file) (rechosen : Chosen files path? other) (first : InEffect env file s)
    (second : InEffect env other t) : s = t := by
  have loaded := (load_ok files path? env s).mpr ⟨file, chosen, first⟩
  rw [(load_ok files path? env t).mpr ⟨other, rechosen, second⟩] at loaded
  exact (Except.ok.inj loaded).symm

end Settings

namespace CommandLine

def answered (answer : Answer (List Series)) : Except Failure Report :=
  (reported (orNone answer.outcome)).map fun series =>
    ⟨seriesText series, answer.events.foldl Telemetry.record (Telemetry.start Builtin.registry.size)⟩

theorem perform_evaluate (files : Files) (s : Settings) (data : String) (start? stop? : Option Seconds)
    (target text : String) (fetched : Fetched) (index : SeriesIndex) (held : files data = some text)
    (read : Fetched.read? text = some fetched) (filled : fetched.index (fetched.window start? stop?) = .ok index) :
    perform files s (.evaluate data start? stop? target) =
      answered ((Evaluator.ofRegistry Builtin.registry s.evaluator).evaluateTarget target
        (fetched.window start? stop?) index) := by
  simp only [perform, held, read, evaluation, filled, Answer.ok_bind, answered]
  cases orNone ((Evaluator.ofRegistry Builtin.registry s.evaluator).evaluateTarget target
    (fetched.window start? stop?) index).outcome <;> rfl

end CommandLine

/-- Which settings a run of the command line is under, and when it is under none. Field by field
they come from the environment, the chosen file or the defaults, in this order, and only valid ones
are put to use: an evaluation is one under these settings. Without them the run fails before
anything is done. -/
theorem settings_in_effect (files : Files) (env : Environment) (arguments : List String) (request : CommandLine.Request)
    (asked : CommandLine.Request.ofArguments arguments = .ok request) (path? : Option String)
    (chosen : path? = request.settingsPath?.or (env "KUBA_EVAL_CONFIG")) :
    (∀ s, Settings.loadValid files path? env = .ok s ↔ ∃ file, Chosen files path? file ∧ InEffect env file s ∧ s.Valid) ∧
      ((∃ e, Settings.loadValid files path? env = .error e) ↔
        (∀ file, ¬ Chosen files path? file) ∨ ∃ file s, Chosen files path? file ∧ InEffect env file s ∧ ¬ s.Valid) ∧
      (∀ s, Settings.loadValid files path? env = .ok s →
        CommandLine.reply files env arguments = CommandLine.perform files s request.task ∧
          ∀ data start? stop? target text fetched index, request.task = .evaluate data start? stop? target →
            files data = some text → Fetched.read? text = some fetched →
            fetched.index (fetched.window start? stop?) = .ok index →
              CommandLine.reply files env arguments =
                CommandLine.answered ((Evaluator.ofRegistry Builtin.registry s.evaluator).evaluateTarget target
                  (fetched.window start? stop?) index)) ∧
      ∀ e, Settings.loadValid files path? env = .error e →
        CommandLine.reply files env arguments = .error (.failed e) ∧ ∃ detail, e = .configuration detail := by
  have replied : CommandLine.reply files env arguments =
      CommandLine.reported (Settings.loadValid files path? env) >>= fun s => CommandLine.perform files s request.task := by
    have named : request.settingsFile? env = path? := by
      rw [chosen, CommandLine.Request.settingsFile?, Option.orElse_eq_orElse, Option.orElse_eq_or]
    rw [CommandLine.reply, asked, ← named]
    rfl
  refine ⟨Settings.load_valid_ok files path? env, ⟨?_, ?_⟩, ?_, ?_⟩
  · rintro ⟨e, failed⟩
    exact (Settings.load_valid_error files path? env e failed).2
  · intro unusable
    cases loaded : Settings.loadValid files path? env with
    | error e => exact ⟨e, rfl⟩
    | ok s =>
        obtain ⟨file, given, inEffect, valid⟩ := (Settings.load_valid_ok files path? env s).mp loaded
        rcases unusable with unchosen | ⟨other, t, again, merged, invalid⟩
        · exact absurd given (unchosen file)
        · cases Settings.chosen_unique files path? env file other s t given again inEffect merged
          exact absurd valid invalid
  · intro s loaded
    have performed : CommandLine.reply files env arguments = CommandLine.perform files s request.task := by
      rw [replied, loaded]
      rfl
    refine ⟨performed, fun data start? stop? target text fetched index task held read filled => ?_⟩
    rw [performed, task, CommandLine.perform_evaluate files s data start? stop? target text fetched index held read filled]
  · intro e failed
    rw [replied, failed]
    exact ⟨rfl, (Settings.load_valid_error files path? env e failed).1⟩

def repairedFile : Files := fun path =>
  if path = "eval.toml" then some "[evaluator]\nmax_recursion_depth = 0\nparallel_arguments = true\n"
  else if path = "a.json" then
    some "\x7b\"a\":[\x7b\"name\":\"a\",\"values\":[1],\"is_absent\":[false],\"start\":0,\"stop\":1,\"step\":1\x7d]\x7d"
  else none

def repairing : Environment := fun name =>
  if name = "KUBA_EVAL_MAX_DEPTH" then some "+1"
  else if name = "KUBA_EVAL_PARALLEL" then some "maybe"
  else if name = "KUBA_EVAL_METRICS" then some "OFF"
  else if name = "KUBA_EVAL_CONFIG" then some "missing.toml"
  else none

def repaired : Settings :=
  { evaluator := { maxDepth := 1, parallelArguments := true, lenientGrouping := true, recordsMetrics := false }
    logging := { level := "warn", withTarget := true } }

-- The target is one level too deep for the settings in effect, and not for the default ones.
def nestedSum : List String := ["--config", "eval.toml", "eval", "--data", "a.json", "sumSeries(sumSeries(a))"]

theorem repaired_in_effect :
    CommandLine.Request.ofArguments nestedSum =
        .ok ⟨.evaluate "a.json" none none "sumSeries(sumSeries(a))", some "eval.toml", false⟩ ∧
      Settings.loadValid repairedFile (some "eval.toml") repairing = .ok repaired ∧
      (∃ file, Chosen repairedFile (some "eval.toml") file ∧ InEffect repairing file repaired ∧ repaired.Valid) ∧
      CommandLine.reply repairedFile repairing nestedSum = .error (.failed (.recursionLimit 2 1)) := by
  have asked : CommandLine.Request.ofArguments nestedSum =
      .ok ⟨.evaluate "a.json" none none "sumSeries(sumSeries(a))", some "eval.toml", false⟩ := by decide +kernel
  have loaded : Settings.loadValid repairedFile (some "eval.toml") repairing = .ok repaired := by decide +kernel
  obtain ⟨merged, _, replied, _⟩ := settings_in_effect repairedFile repairing _ _ asked (some "eval.toml") rfl
  have evaluated := (replied repaired loaded).2 "a.json" none none "sumSeries(sumSeries(a))" _
    [("a", [.ofValues "a" 0 1 [1.0]])] (.single ⟨"a", ⟨0, 1⟩⟩ [.ofValues "a" 0 1 [1.0]]) rfl rfl (by decide +kernel) rfl
  have limited : ((Evaluator.ofRegistry Builtin.registry repaired.evaluator).evaluateTarget "sumSeries(sumSeries(a))"
      ⟨0, 1⟩ (.single ⟨"a", ⟨0, 1⟩⟩ [.ofValues "a" 0 1 [1.0]])).outcome = .error (.recursionLimit 2 1) := by
    decide +kernel
  refine ⟨asked, loaded, (merged repaired).mp loaded, evaluated.trans ?_⟩
  change CommandLine.answered ((Evaluator.ofRegistry Builtin.registry repaired.evaluator).evaluateTarget
    "sumSeries(sumSeries(a))" ⟨0, 1⟩ (.single ⟨"a", ⟨0, 1⟩⟩ [.ofValues "a" 0 1 [1.0]])) = _
  rw [CommandLine.answered, limited]
  rfl

end TargetEval

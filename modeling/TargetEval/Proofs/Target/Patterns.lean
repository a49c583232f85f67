import TargetEval.Proofs.Target.Grammar

set_option autoImplicit false

namespace TargetEval.Target

open Cursor (Ends)

theorem Pattern.no_call {cs : List Char} (pattern : Pattern cs) (sub : Cursor → Outcome Expr) : (call sub ⟨0, cs⟩).Declines := by
  have other := pattern.after_identifier stops_nil '(' parenthesis_foreign 0
  rw [List.append_nil] at other
  exact headed_declines _ other

section

variable {cs : List Char}

theorem Pattern.read_at (pattern : Pattern cs) :
    readAt (Cursor.ofText (String.ofList cs)).skipSpace =
      (boolean ⟨0, cs⟩ <|> number ⟨0, cs⟩ <|> string ⟨0, cs⟩ <|> metric ⟨0, cs⟩) := by
  rw [Cursor.ofText, String.toList_ofList, Cursor.skip_no_space 0 cs pattern.no_space, readAt, expression,
    (pattern.no_call _).or_else]

theorem literal_read_at (literal tail : List Char) (e : Expr) (spells : Literal literal e)
    (ended : Ends MetricName.isNameChar tail) (pattern : Pattern (literal ++ tail)) :
    readAt (Cursor.ofText (String.ofList (literal ++ tail))).skipSpace = .accepted e ⟨byteLength literal, tail⟩ := by
  rw [pattern.read_at, literal_past literal e spells 0 tail ended, Nat.zero_add]

theorem unfinished_read_at (pattern : Pattern cs) (unfinished : Unfinished cs) :
    readAt (Cursor.ofText (String.ofList cs)).skipSpace = .refused ⟨0, .exponent⟩ := by
  rw [pattern.read_at, (boolean_declines_number ⟨0, cs⟩ unfinished.starts).or_else, number_unfinished 0 cs unfinished]
  rfl

theorem metric_read (isMetric : IsMetric cs) : read (String.ofList cs) = .ok (.metric (String.ofList cs) 0) := by
  have whole := read_past (fun _ isMetric => isMetric) (.metric cs isMetric) noSpace noSpace
  simpa [noSpace, Phrase.chars, Phrase.tree, byte_length_nil] using whole

theorem pattern_cases (pattern : Pattern cs) (occupied : cs ≠ []) :
    IsMetric cs ∨
      (∃ literal tail e, Literal literal e ∧ cs = literal ++ tail ∧ Ends MetricName.isNameChar tail) ∨ Unfinished cs := by
  by_cases unfinished : Unfinished cs
  · exact .inr (.inr unfinished)
  by_cases literal : ∃ literal tail e, Literal literal e ∧ cs = literal ++ tail ∧ Ends MetricName.isNameChar tail
  · exact .inr (.inl literal)
  · have runsOn (front : List Char) (e : Expr) (tail : List Char) (spells : Literal front e) (same : cs = front ++ tail) :=
      Bool.of_not_eq_false fun ended => literal ⟨front, tail, e, spells, same, ended⟩
    exact .inl ⟨pattern, occupied, runsOn, unfinished⟩

end

/-- Every pattern is of one of three kinds. The metrics are those that are read as a metric; of the
others, either a literal in front is read and nothing behind it, or the reader gives up at once. -/
theorem pattern_readings (cs : List Char) (pattern : Pattern cs) (occupied : cs ≠ []) :
    (IsMetric cs ∨
      (∃ literal tail e, Literal literal e ∧ cs = literal ++ tail ∧ Ends MetricName.isNameChar tail) ∨ Unfinished cs) ∧
      (read (String.ofList cs) = .ok (.metric (String.ofList cs) 0) ↔ IsMetric cs) ∧
      (∀ literal tail e, Literal literal e → cs = literal ++ tail → Ends MetricName.isNameChar tail →
        read (String.ofList cs) =
          if tail = [] then .ok e
          else .error (.parse (byteLength literal) ("unexpected trailing input '" ++ String.ofList tail ++ "'"))) ∧
      (Unfinished cs → read (String.ofList cs) = .error (.parse 0 "unexpected input (Float)")) := by
  refine ⟨pattern_cases pattern occupied, ⟨fun read => ?_, metric_read⟩, fun literal tail e spells same ended => ?_,
    fun unfinished => ?_⟩
  · obtain ⟨p, before, after, _, tree⟩ := (read_iff _ _).mp read
    cases p with
    | metric name valid =>
        have same : cs = name := String.ofList_injective (Expr.metric.inj tree).1
        exact same ▸ valid
    | number _ => cases tree
    | string _ => cases tree
    | boolean _ => cases tree
    | call _ _ _ _ _ => cases tree
  · subst same
    have plain : ∀ c ∈ literal, c ≠ '{' := by
      rintro c member rfl
      cases literal_number_chars literal e spells _ member
    have bare := (pattern.behind literal tail plain).no_space
    rw [read, literal_read_at literal tail e spells ended pattern]
    simp only [Cursor.skip_no_space _ tail bare, List.isEmpty_iff]
  · rw [read, unfinished_read_at pattern unfinished]
    rfl

theorem brace_group_behind_boolean :
    Pattern ['t', 'r', 'u', 'e', '{', 'a', '}'] ∧ ['t', 'r', 'u', 'e', '{', 'a', '}'] ≠ [] ∧
      read "true{a}" = .error (.parse 4 "unexpected trailing input '{a}'") := by
  have pattern : Pattern ['t', 'r', 'u', 'e', '{', 'a', '}'] :=
    .char 't' _ (by decide) (.char 'r' _ (by decide) (.char 'u' _ (by decide) (.char 'e' _ (by decide)
      (.group ['a'] [] (List.forall_mem_singleton.mpr (by decide)) .nil))))
  have occupied : ['t', 'r', 'u', 'e', '{', 'a', '}'] ≠ [] := List.cons_ne_nil _ _
  obtain ⟨_, _, literals, _⟩ := pattern_readings _ pattern occupied
  exact ⟨pattern, occupied, literals ['t', 'r', 'u', 'e'] ['{', 'a', '}'] _ (.boolean ⟨_, true, rfl⟩) rfl rfl⟩

theorem unfinished_power_unread :
    ¬ ∀ cs : List Char, Pattern cs → cs ≠ [] →
      (∃ e, read (String.ofList cs) = .ok e) ∧
        ((∀ e, ¬ Literal cs e) → read (String.ofList cs) = .ok (.metric (String.ofList cs) 0)) := by
  intro all
  have pattern : Pattern ['1', 'e', 'd', 'g', 'e', '.', 'c', 'p', 'u'] := Pattern.of_named _ (List.all_eq_true.mp rfl)
  obtain ⟨⟨e, accepted⟩, _⟩ := all _ pattern (by decide)
  have refused : read (String.ofList ['1', 'e', 'd', 'g', 'e', '.', 'c', 'p', 'u']) =
      .error (.parse 0 "unexpected input (Float)") := rfl
  rw [refused] at accepted
  cases accepted

end TargetEval.Target

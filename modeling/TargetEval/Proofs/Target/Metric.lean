import TargetEval.Proofs.Target.Leaf

set_option autoImplicit false

namespace TargetEval.Target

open Cursor (Ends ends_cons ends_mono ends_append ends_of_append skip_space_rest)

theorem split_before (p : Char → Bool) (xs ys cs rest : List Char) (same : xs ++ ys = cs ++ rest)
    (all : ∀ c ∈ xs, p c = true) (ends : Ends p rest) : ∃ zs, cs = xs ++ zs ∧ ys = zs ++ rest := by
  rcases List.append_eq_append_iff.mp same with ⟨zs, rfl, rfl⟩ | ⟨zs, rfl, rfl⟩
  · exact ⟨zs, rfl, rfl⟩
  · -- Were the second cut the earlier one, the rest would begin with a character of the front.
    cases zs with
    | nil => exact ⟨[], by simp, rfl⟩
    | cons c zs =>
        rw [List.cons_append, ends_cons, all c (by simp)] at ends
        cases ends

theorem stops_number (rest : List Char) (stops : Stops rest) : Ends isNumberChar rest := by
  refine stops_ends _ (fun c space => ?_) (by decide) (by decide) rest stops
  rcases space_cases c space with rfl | rfl | rfl | rfl <;> decide

theorem literal_number_chars (literal : List Char) (e : Expr) (spells : Literal literal e) :
    ∀ c ∈ literal, isNumberChar c = true := by
  cases spells with
  | number n => exact numeral_number_chars n
  | boolean w => exact fun c member => by simp [isNumberChar, w.letters_named c member]

theorem literal_past (literal : List Char) (e : Expr) (spells : Literal literal e) (o : Nat) (rest : List Char)
    (ends : Ends MetricName.isNameChar rest) (later : Outcome Expr) :
    (boolean ⟨o, literal ++ rest⟩ <|> number ⟨o, literal ++ rest⟩ <|> later) =
      .accepted e ⟨o + byteLength literal, rest⟩ := by
  cases spells with
  | boolean w =>
      rw [boolean_past w o rest ends]
      rfl
  | number n =>
      rw [(boolean_declines_number ⟨o, n.chars ++ rest⟩ (n.starts rest)).or_else, numeral_past n o rest ends]
      rfl

theorem unsigned_bare (cs : List Char) (bare : Ends isSign cs) : unsigned cs = cs := by
  cases cs with
  | nil => rfl
  | cons c cs =>
      rw [ends_cons] at bare
      unfold unsigned
      split
      next same => cases same; cases bare
      next same => cases same; cases bare
      next => rfl

theorem unsigned_append (cs rest : List Char) (bare : Ends isSign rest) : unsigned (cs ++ rest) = unsigned cs ++ rest := by
  cases cs with
  | nil => exact unsigned_bare rest bare
  | cons c cs =>
      by_cases minus : c = '-'
      · subst minus
        rfl
      · by_cases plus : c = '+'
        · subst plus
          rfl
        · have plain (tail : List Char) : Ends isSign (c :: tail) := by
            simp [ends_cons, isSign, minus, plus]
          rw [unsigned_bare (c :: cs) (plain cs)]
          exact unsigned_bare _ (plain (cs ++ rest))

theorem sign_number_char (c : Char) (sign : isSign c = true) : isNumberChar c = true := by
  simp only [isSign, Bool.or_eq_true, decide_eq_true_eq] at sign
  rcases sign with rfl | rfl <;> decide

theorem unfinished_append (cs rest : List Char) (stops : Stops rest) : Unfinished (cs ++ rest) ↔ Unfinished cs := by
  have noSign : Ends isSign rest := ends_mono sign_number_char (stops_number rest stops)
  have noDigit : Ends Char.isDigit rest := ends_mono digit_named (stops_name rest stops)
  constructor
  · rintro ⟨sign, m, mark, after, same, marks, bare⟩
    have numberChars : ∀ c ∈ sign.chars ++ (m.chars ++ [mark]), isNumberChar c = true := by
      refine List.forall_mem_append.mpr ⟨sign_number_chars sign, ?_⟩
      refine List.forall_mem_append.mpr ⟨mantissa_number_chars m, ?_⟩
      exact List.forall_mem_singleton.mpr (mark_number_char mark marks)
    obtain ⟨zs, rfl, rfl⟩ := split_before isNumberChar _ after cs rest (by simp [same]) numberChars (stops_number rest stops)
    refine ⟨sign, m, mark, zs, by simp, marks, ?_⟩
    rw [unsigned_append zs rest noSign] at bare
    exact ends_of_append _ _ rest bare
  · rintro ⟨sign, m, mark, after, rfl, marks, bare⟩
    refine ⟨sign, m, mark, after ++ rest, by simp, marks, ?_⟩
    rw [unsigned_append after rest noSign]
    exact ends_append _ _ rest bare noDigit

structure IsForeign (mark : Char) : Prop where
  unnamed : MetricName.isNameChar mark = false
  brace : mark ≠ '{'
  comma : mark ≠ ','
  close : mark ≠ ')'

theorem parenthesis_foreign : IsForeign '(' := ⟨by decide, by decide, by decide, by decide⟩

theorem equals_foreign : IsForeign '=' := ⟨by decide, by decide, by decide, by decide⟩

theorem Pattern.no_space {cs : List Char} (pattern : Pattern cs) : Ends Cursor.isSpace cs :=
  pattern.ends _ space_unnamed (by decide)

section

variable {cs rest : List Char} (stops : Stops rest)
include stops

theorem IsMetric.no_literal (isMetric : IsMetric cs) (literal tail : List Char) (e : Expr) (spells : Literal literal e)
    (same : literal ++ tail = cs ++ rest) : ¬ Ends MetricName.isNameChar tail := by
  obtain ⟨zs, rfl, rfl⟩ := split_before isNumberChar literal tail cs rest same (literal_number_chars literal e spells)
    (stops_number rest stops)
  intro alone
  have ended : Ends MetricName.isNameChar zs := ends_of_append _ zs rest alone
  rw [Ends, isMetric.runsOn literal e zs spells rfl] at ended
  cases ended

theorem IsMetric.boolean_declines (isMetric : IsMetric cs) (o : Nat) : (boolean ⟨o, cs ++ rest⟩).Declines := by
  refine Outcome.declines_of _ (fun e next accepted => ?_) (boolean_not_refused _)
  obtain ⟨w, reads, _, alone⟩ := boolean_accepted _ next e accepted
  exact isMetric.no_literal stops w.letters next.rest _ (.boolean w) reads.rest.symm alone

theorem IsMetric.number_declines (isMetric : IsMetric cs) (o : Nat) : (number ⟨o, cs ++ rest⟩).Declines := by
  refine Outcome.declines_of _ (fun e next accepted => ?_) fun fault refused => ?_
  · obtain ⟨n, reads, _, alone⟩ := number_accepted _ next e accepted
    exact isMetric.no_literal stops n.chars next.rest _ (.number n) reads.rest.symm alone
  · exact isMetric.finished ((unfinished_append cs rest stops).mp (number_refused _ fault refused))

theorem IsMetric.of_declined (pattern : Pattern cs) (occupied : cs ≠ []) (o : Nat)
    (noBoolean : (boolean ⟨o, cs ++ rest⟩).Declines) (noNumber : (number ⟨o, cs ++ rest⟩).Declines) : IsMetric cs where
  pattern := pattern
  occupied := occupied
  runsOn := by
    rintro literal e tail spells rfl
    refine Bool.of_not_eq_false fun ended => ?_
    have alone : Ends MetricName.isNameChar (tail ++ rest) := ends_append _ tail rest ended (stops_name rest stops)
    rw [List.append_assoc] at noBoolean noNumber
    have read := literal_past literal e spells o (tail ++ rest) alone (declinedAt ⟨o, []⟩)
    rw [noBoolean.or_else, noNumber.or_else] at read
    cases read
  finished := by
    intro unfinished
    obtain ⟨fault, declined⟩ := noNumber
    rw [number_unfinished o _ ((unfinished_append cs rest stops).mpr unfinished)] at declined
    cases declined

theorem Pattern.string_declines (pattern : Pattern cs) (o : Nat) : (string ⟨o, cs ++ rest⟩).Declines := by
  refine Target.string_declines _ (ends_append _ cs rest (pattern.ends _ (fun c quote => ?_) (by decide)) ?_)
  · simp only [Bool.or_eq_true, decide_eq_true_eq] at quote
    rcases quote with rfl | rfl <;> decide
  · refine stops_ends _ (fun c space => ?_) (by decide) (by decide) rest stops
    rcases space_cases c space with rfl | rfl | rfl | rfl <;> decide

theorem Pattern.after_identifier (pattern : Pattern cs) (mark : Char) (isForeign : IsForeign mark) (o : Nat)
    (name : String) (next : Cursor) (accepted : identifier ⟨o, cs ++ rest⟩ = .accepted name next) :
    next.skipSpace.rest.head? ≠ some mark := by
  obtain ⟨i, reads, _, _⟩ := identifier_accepted _ next name accepted
  have named : ∀ c ∈ i.chars, MetricName.isNameChar c = true := fun c member => part_named c (i.parts c member)
  obtain ⟨zs, rfl, behind⟩ := split_before _ i.chars next.rest cs rest reads.rest.symm named (stops_name rest stops)
  have later : Pattern zs := pattern.behind _ _ fun c member => named_unbraced c (named c member)
  rw [skip_space_rest, behind]
  intro here
  cases zs with
  | nil =>
      rcases stops mark here with same | same
      · exact isForeign.comma same
      · exact isForeign.close same
  | cons c zs =>
      have plain := (ends_cons ..).mp later.no_space
      rw [List.cons_append, List.dropWhile_cons_of_neg (by simp [plain])] at here
      cases here
      rcases later.head mark rfl with nameChar | same
      · rw [isForeign.unnamed] at nameChar
        cases nameChar
      · exact isForeign.brace same

end

structure IsPlain (cs : List Char) : Prop where
  pattern : Pattern cs
  occupied : cs ≠ []
  noNumber : Ends isNumberStart cs
  noBoolean : ∀ w : Word, cs.takeWhile MetricName.isNameChar ≠ w.letters

theorem IsPlain.isMetric {cs : List Char} (isPlain : IsPlain cs) : IsMetric cs where
  pattern := isPlain.pattern
  occupied := isPlain.occupied
  runsOn := by
    rintro literal e tail spells rfl
    refine Bool.of_not_eq_false fun ended => ?_
    cases spells with
    | number n =>
        have plain := isPlain.noNumber
        rw [Ends, n.starts tail] at plain
        cases plain
    | boolean w => exact isPlain.noBoolean w (Cursor.take_run _ w.letters tail w.letters_named ended)
  finished := by
    intro unfinished
    have plain := isPlain.noNumber
    rw [Ends, unfinished.starts] at plain
    cases plain

end TargetEval.Target

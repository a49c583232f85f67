import TargetEval.Proofs.Target.Spacing

set_option autoImplicit false

namespace TargetEval.Target

open Cursor (Ends ends_nil ends_cons ends_mono skip_space_past)

section

variable {α : Type} {mark : Char} {c : Cursor}

theorem headed_declines (body : String → Unit → Cursor → Outcome α)
    (other : ∀ name next, identifier c = .accepted name next → next.skipSpace.rest.head? ≠ some mark) :
    ((identifier c).andThen fun name next => (character mark next.skipSpace).andThen (body name)).Declines := by
  cases here : identifier c with
  | accepted name next =>
      have declined : (character mark next.skipSpace).Declines := ⟨_, character_declines mark _ (other name next here)⟩
      exact declined.and_then (body name)
  | declined fault => exact ⟨fault, rfl⟩
  | refused fault => exact absurd here (identifier_not_refused c fault)

theorem bare_after_identifier (plain : Ends (fun x => x.isAlpha || x = '_') c.rest) (name : String) (next : Cursor)
    (accepted : identifier c = .accepted name next) : next.skipSpace.rest.head? ≠ some mark := by
  rw [identifier_declines c plain] at accepted
  cases accepted

theorem headed_past (i : Identifier) (gap : Space) (o : Nat) (rest : List Char) (unnamed : MetricName.isNameChar mark = false)
    (space : Cursor.isSpace mark = false) (body : String → Unit → Cursor → Outcome α) :
    ((identifier ⟨o, i.chars ++ (gap.1 ++ mark :: rest)⟩).andThen fun name next =>
      (character mark next.skipSpace).andThen (body name)) =
        body i.name () ⟨o + byteLength (i.chars ++ (gap.1 ++ [mark])), rest⟩ := by
  have ends : Ends isPart (gap.1 ++ mark :: rest) := ends_mono part_named (ends_gap _ gap mark rest space_unnamed unnamed)
  have skipped := skip_space_past (o + byteLength i.chars) gap (mark :: rest) ((ends_cons ..).mpr space)
  simp only [identifier_past i o _ ends, Outcome.andThen, skipped, character_past]
  rw [byte_length_append, byte_length_append, byte_length_cons, byte_length_nil, Nat.add_zero, Nat.add_assoc, Nat.add_assoc]

end

section

variable {Name : List Char → Prop} (valid : ∀ cs, Name cs → IsMetric cs)

def Phrase.isCall : Phrase Name → Bool
  | .call .. => true
  | _ => false

include valid in
theorem Phrase.after_identifier (p : Phrase Name) (rest : List Char) (stops : Stops rest) (mark : Char)
    (isForeign : IsForeign mark) (plain : p.isCall = true → mark ≠ '(') (o : Nat) (name : String) (next : Cursor)
    (accepted : identifier ⟨o, p.chars ++ rest⟩ = .accepted name next) : next.skipSpace.rest.head? ≠ some mark := by
  cases p with
  | metric cs isName => exact (valid cs isName).pattern.after_identifier stops mark isForeign o name next accepted
  | boolean w => exact (Pattern.of_named _ w.letters_named).after_identifier stops mark isForeign o name next accepted
  | number n => exact bare_after_identifier (number_start_bare _ (n.starts rest)) name next accepted
  | string q =>
      refine bare_after_identifier ?_ name next accepted
      simp only [Phrase.chars, Quotation.chars, List.cons_append, ends_cons]
      rcases q.isQuote with same | same <;> rw [same] <;> decide
  | call i gap lead inside trail =>
      have ends : Ends isPart (gap.1 ++ '(' :: (lead.1 ++ (inside.chars ++ (trail.1 ++ ')' :: rest)))) :=
        ends_mono part_named (ends_gap _ gap _ _ space_unnamed (by decide))
      have past := identifier_past i o _ ends
      simp only [Phrase.chars, List.append_assoc, List.cons_append, List.nil_append] at accepted
      rw [past] at accepted
      cases accepted
      rw [skip_space_past _ gap _ ((ends_cons ..).mpr (by decide))]
      intro same
      exact plain rfl (Option.some.inj same).symm

end

theorem further_stops {Name : List Char → Prop} (more : Further Name) (rest : List Char) (stops : Stops rest) :
    Stops (more.chars ++ rest) := by
  cases more with
  | nothing => exact stops
  | next before after item later =>
      simp only [Further.chars, List.append_assoc, List.cons_append]
      exact stops_gap before ',' _ (.inl rfl)

theorem no_more (sub : Cursor → Outcome Expr) (room o : Nat) (trail : Space) (rest : List Char) :
    moreArguments sub room ⟨o, trail.1 ++ ')' :: rest⟩ = .accepted [] ⟨o, trail.1 ++ ')' :: rest⟩ := by
  cases room with
  | zero => rfl
  | succ room =>
      have skipped := skip_space_past o trail (')' :: rest) ((ends_cons ..).mpr (by decide))
      have noComma := character_declines ',' ⟨o + byteLength trail.1, ')' :: rest⟩ (by simp)
      simp only [moreArguments, skipped, noComma, declinedAt]

structure ReadsBelow (Name : List Char → Prop) (sub : Cursor → Outcome Expr) (depth : Nat) : Prop where
  past : ∀ (p : Phrase Name) (o : Nat) (rest : List Char), p.chars.length < depth → Stops rest →
    sub ⟨o, p.chars ++ rest⟩ = .accepted (p.tree o) ⟨o + byteLength p.chars, rest⟩
  close : ∀ (o : Nat) (rest : List Char), (sub ⟨o, ')' :: rest⟩).Declines

section

variable {Name : List Char → Prop} (valid : ∀ cs, Name cs → IsMetric cs)
variable {sub : Cursor → Outcome Expr} {depth : Nat} (reads : ReadsBelow Name sub depth)
include valid reads

theorem argument_past (item : Item Name) (o : Nat) (rest : List Char) (short : item.chars.length < depth)
    (stops : Stops rest) :
    argument sub ⟨o, item.chars ++ rest⟩ = .accepted (item.argument o) ⟨o + byteLength item.chars, rest⟩ := by
  cases item with
  | positional value =>
      have unnamed : (namedArgument sub ⟨o, value.chars ++ rest⟩).Declines :=
        headed_declines _ (value.after_identifier valid rest stops '=' equals_foreign (fun _ => by decide) o)
      rw [argument, Item.chars, unnamed.or_else, reads.past value o rest short stops]
      rfl
  | named key before after value =>
      have shorter : value.chars.length < depth := by
        simp only [Item.chars, List.length_append, List.length_cons] at short
        omega
      have read := reads.past value (o + byteLength (key.chars ++ (before.1 ++ ['='])) + byteLength after.1) rest shorter stops
      have skipped := skip_space_past (o + byteLength (key.chars ++ (before.1 ++ ['=']))) after (value.chars ++ rest)
        ((value.solid valid).no_space rest)
      have start : o + byteLength (key.chars ++ (before.1 ++ ['='])) + byteLength after.1 =
          o + byteLength (key.chars ++ (before.1 ++ '=' :: after.1)) := by
        simp only [byte_length_append, byte_length_cons, byte_length_nil]
        omega
      have stop : o + byteLength (key.chars ++ (before.1 ++ '=' :: after.1)) + byteLength value.chars =
          o + byteLength (key.chars ++ (before.1 ++ '=' :: (after.1 ++ value.chars))) := by
        simp only [byte_length_append, byte_length_cons]
        omega
      have given : namedArgument sub ⟨o, key.chars ++ (before.1 ++ '=' :: (after.1 ++ (value.chars ++ rest)))⟩ = _ :=
        headed_past key before o _ (by decide) (by decide) _
      rw [skipped, read, start, stop] at given
      simp only [argument, Item.chars, List.append_assoc, List.cons_append, given]
      rfl

theorem more_past (more : Further Name) (room o : Nat) (trail : Space) (rest : List Char)
    (enough : more.chars.length ≤ room) (short : more.chars.length < depth) :
    moreArguments sub room ⟨o, more.chars ++ (trail.1 ++ ')' :: rest)⟩ =
      .accepted (more.arguments o) ⟨o + byteLength more.chars, trail.1 ++ ')' :: rest⟩ := by
  match more, room with
  | .nothing, room => exact no_more sub room o trail rest
  | .next before after item later, 0 => simp [Further.chars] at enough
  | .next before after item later, room + 1 =>
      simp only [Further.chars, List.length_append, List.length_cons] at enough short
      have stops : Stops (later.chars ++ (trail.1 ++ ')' :: rest)) :=
        further_stops later _ (stops_gap trail ')' rest (.inr rfl))
      have toComma := skip_space_past o before (',' :: (after.1 ++ (item.chars ++ (later.chars ++ (trail.1 ++ ')' :: rest)))))
        ((ends_cons ..).mpr (by decide))
      have toItem := skip_space_past (o + byteLength before.1 + ','.utf8Size) after
        (item.chars ++ (later.chars ++ (trail.1 ++ ')' :: rest))) ((item.solid valid).no_space _)
      have start : o + byteLength before.1 + ','.utf8Size + byteLength after.1 = o + byteLength (before.1 ++ ',' :: after.1) := by
        simp only [byte_length_append, byte_length_cons]
        omega
      have here := argument_past valid reads item (o + byteLength (before.1 ++ ',' :: after.1)) _ (by omega) stops
      have behind := more_past later room (o + byteLength (before.1 ++ ',' :: after.1) + byteLength item.chars) trail rest
        (by omega) (by omega)
      have stop : o + byteLength (before.1 ++ ',' :: after.1) + byteLength item.chars + byteLength later.chars =
          o + byteLength (before.1 ++ ',' :: (after.1 ++ (item.chars ++ later.chars))) := by
        simp only [byte_length_append, byte_length_cons]
        omega
      simp only [Further.chars, List.append_assoc, List.cons_append, moreArguments, toComma, character_past, toItem, start,
        here, behind, Outcome.andThen, stop, Further.arguments]

omit valid in
theorem argument_close (o : Nat) (rest : List Char) : (argument sub ⟨o, ')' :: rest⟩).Declines := by
  have unnamed : (namedArgument sub ⟨o, ')' :: rest⟩).Declines :=
    headed_declines _ (bare_after_identifier ((ends_cons ..).mpr (by decide)))
  rw [argument, unnamed.or_else]
  exact (reads.close o rest).and_then _

-- Between the parentheses of `f( )` the reader skips all white space before it looks for arguments.
theorem arguments_past (inside : Inside Name) (o : Nat) (lead trail : Space) (rest : List Char)
    (short : inside.chars.length < depth) :
    ∃ stop : Cursor,
      arguments sub (Cursor.skipSpace ⟨o, lead.1 ++ (inside.chars ++ (trail.1 ++ ')' :: rest))⟩) =
        .accepted (inside.arguments (o + byteLength lead.1)) stop ∧
      stop.skipSpace = ⟨o + byteLength (lead.1 ++ (inside.chars ++ trail.1)), ')' :: rest⟩ := by
  have closed : Ends Cursor.isSpace (')' :: rest) := (ends_cons ..).mpr (by decide)
  cases inside with
  | nothing =>
      let both : Space := ⟨lead.1 ++ trail.1, List.forall_mem_append.mpr ⟨lead.2, trail.2⟩⟩
      have skipped := skip_space_past o both (')' :: rest) closed
      obtain ⟨fault, declined⟩ := argument_close reads (o + byteLength both.1) rest
      refine ⟨⟨o + byteLength both.1, ')' :: rest⟩, ?_, ?_⟩
      · rw [Inside.chars, List.nil_append, ← List.append_assoc, skipped, arguments, declined]
        rfl
      · exact Cursor.skip_no_space _ _ closed
  | items first more =>
      simp only [Inside.chars, List.length_append] at short
      have stops : Stops (more.chars ++ (trail.1 ++ ')' :: rest)) :=
        further_stops more _ (stops_gap trail ')' rest (.inr rfl))
      have skipped := skip_space_past o lead (first.chars ++ (more.chars ++ (trail.1 ++ ')' :: rest)))
        ((first.solid valid).no_space _)
      have here := argument_past valid reads first (o + byteLength lead.1) _ (by omega) stops
      have behind := more_past valid reads more (more.chars ++ (trail.1 ++ ')' :: rest)).length
        (o + byteLength lead.1 + byteLength first.chars) trail rest (by simp) (by omega)
      refine ⟨⟨o + byteLength lead.1 + byteLength first.chars + byteLength more.chars, trail.1 ++ ')' :: rest⟩, ?_, ?_⟩
      · simp only [Inside.chars, List.append_assoc, skipped, arguments, here, behind, Outcome.andThen, Inside.arguments]
      · rw [skip_space_past _ trail _ closed]
        simp only [Inside.chars, byte_length_append, Nat.add_assoc]

theorem call_past (name : Identifier) (gap lead : Space) (inside : Inside Name) (trail : Space) (o : Nat) (rest : List Char)
    (short : inside.chars.length < depth) :
    call sub ⟨o, (Phrase.call name gap lead inside trail).chars ++ rest⟩ =
      .accepted ((Phrase.call name gap lead inside trail).tree o)
        ⟨o + byteLength (Phrase.call name gap lead inside trail).chars, rest⟩ := by
  obtain ⟨stop, given, skipped⟩ := arguments_past valid reads inside (o + byteLength (name.chars ++ (gap.1 ++ ['(']))) lead
    trail rest short
  have between : Cursor.Reads
      ⟨o + byteLength (name.chars ++ (gap.1 ++ ['('])), lead.1 ++ (inside.chars ++ (trail.1 ++ ')' :: rest))⟩
      (lead.1 ++ (inside.chars ++ trail.1)) stop.skipSpace := ⟨by simp [skipped], by rw [skipped]⟩
  have text := between.up_to
  rw [skipped] at text
  have start : o + byteLength (name.chars ++ (gap.1 ++ ['('])) + byteLength lead.1 =
      o + byteLength (name.chars ++ (gap.1 ++ '(' :: lead.1)) := by
    simp only [byte_length_append, byte_length_cons, byte_length_nil]
    omega
  have finish : o + byteLength (name.chars ++ (gap.1 ++ ['('])) + byteLength (lead.1 ++ (inside.chars ++ trail.1)) +
      ')'.utf8Size = o + byteLength (Phrase.call name gap lead inside trail).chars := by
    simp only [Phrase.chars, byte_length_append, byte_length_cons, byte_length_nil]
    omega
  have read : call sub ⟨o, name.chars ++ (gap.1 ++ '(' :: (lead.1 ++ (inside.chars ++ (trail.1 ++ ')' :: rest))))⟩ = _ :=
    headed_past name gap o _ (by decide) (by decide) _
  rw [given] at read
  simp only [Outcome.andThen, skipped, character_past, Outcome.commit, text, callOf, inside.trimmed valid lead trail,
    start, finish] at read
  rw [call_tree]
  simp only [Phrase.chars, List.append_assoc, List.cons_append, List.nil_append] at read ⊢
  exact read

end

section

variable {Name : List Char → Prop}

theorem expression_close (depth o : Nat) (rest : List Char) : (expression depth ⟨o, ')' :: rest⟩).Declines := by
  cases depth with
  | zero => exact ⟨_, rfl⟩
  | succ depth =>
      have noCall : (call (expression depth) ⟨o, ')' :: rest⟩).Declines :=
        headed_declines _ (bare_after_identifier ((ends_cons ..).mpr (by decide)))
      have noBoolean := boolean_declines ⟨o, ')' :: rest⟩ ((ends_cons ..).mpr (by decide))
      have noNumber := number_declines ⟨o, ')' :: rest⟩ ((ends_cons ..).mpr (by decide))
      have noString := string_declines ⟨o, ')' :: rest⟩ ((ends_cons ..).mpr (by decide))
      rw [expression, noCall.or_else, noBoolean.or_else, noNumber.or_else, noString.or_else]
      exact metric_declines _ ((ends_cons ..).mpr (by decide)) ((ends_cons ..).mpr (by decide))

theorem expression_reads (valid : ∀ cs, Name cs → IsMetric cs) (depth : Nat) : ReadsBelow Name (expression depth) depth := by
  induction depth with
  | zero => exact ⟨fun _ _ _ short _ => absurd short (Nat.not_lt_zero _), expression_close 0⟩
  | succ depth ih =>
      refine ⟨fun p o rest short stops => ?_, expression_close (depth + 1)⟩
      have noCall (leaf : p.isCall = false) : (call (expression depth) ⟨o, p.chars ++ rest⟩).Declines :=
        headed_declines _ (p.after_identifier valid rest stops '(' parenthesis_foreign
          (fun isCall => by rw [leaf] at isCall; cases isCall) o)
      rw [expression]
      cases p with
      | call name gap lead inside trail =>
          have shorter : inside.chars.length < depth := by
            simp only [Phrase.chars, List.length_append, List.length_cons] at short
            omega
          rw [call_past valid ih name gap lead inside trail o rest shorter]
          rfl
      | boolean w =>
          rw [(noCall rfl).or_else, Phrase.chars, boolean_past w o rest (stops_name rest stops)]
          rfl
      | number n =>
          have noBoolean := boolean_declines_number ⟨o, n.chars ++ rest⟩ (n.starts rest)
          rw [(noCall rfl).or_else, Phrase.chars, noBoolean.or_else, numeral_past n o rest (stops_name rest stops)]
          rfl
      | string q =>
          have noBoolean : (boolean ⟨o, q.chars ++ rest⟩).Declines := by
            refine boolean_declines _ ((ends_cons ..).mpr ?_)
            rcases q.isQuote with same | same <;> rw [same] <;> decide
          have noNumber : (number ⟨o, q.chars ++ rest⟩).Declines := by
            refine number_declines _ ((ends_cons ..).mpr ?_)
            rcases q.isQuote with same | same <;> rw [same] <;> decide
          rw [(noCall rfl).or_else, Phrase.chars, noBoolean.or_else, noNumber.or_else, string_past q o rest]
          rfl
      | metric cs isName =>
          have isMetric := valid cs isName
          rw [(noCall rfl).or_else, Phrase.chars, (isMetric.boolean_declines stops o).or_else,
            (isMetric.number_declines stops o).or_else, (isMetric.pattern.string_declines stops o).or_else,
            metric_past cs rest o isMetric.pattern isMetric.occupied (stops_name rest stops) (stops_brace rest stops)]
          rfl

theorem read_past (valid : ∀ cs, Name cs → IsMetric cs) (p : Phrase Name) (before after : Space) :
    read (String.ofList (before.1 ++ (p.chars ++ after.1))) = .ok (p.tree (byteLength before.1)) := by
  have skipped := skip_space_past 0 before (p.chars ++ after.1) ((p.solid valid).no_space after.1)
  have stops : Stops after.1 := by
    have bare := stops_space after.1 [] after.2 stops_nil
    rwa [List.append_nil] at bare
  have short : p.chars.length < (p.chars ++ after.1).length + 1 := by
    rw [List.length_append]
    omega
  have whole := (expression_reads valid _).past p (0 + byteLength before.1) after.1 short stops
  have done := skip_space_past (0 + byteLength before.1 + byteLength p.chars) after [] (ends_nil _)
  rw [List.append_nil] at done
  rw [read, Cursor.ofText, String.toList_ofList, skipped, readAt, whole]
  simp only [done, List.isEmpty_nil, ↓reduceIte]
  rw [Nat.zero_add]

end

/-- A text that has been written for an expression is read, and as that expression, however it is
spaced: arguments in their order, the text of the arguments without the white space around it, and
every place the offset at which the node was written. -/
theorem read_written (p : Phrase IsPlain) (before after : Space) :
    read (String.ofList (before.1 ++ (p.chars ++ after.1))) = .ok (p.tree (byteLength before.1)) :=
  read_past (fun _ isPlain => isPlain.isMetric) p before after

end TargetEval.Target

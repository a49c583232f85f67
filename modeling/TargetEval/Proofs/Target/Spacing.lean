import TargetEval.Proofs.Target.Metric

set_option autoImplicit false

namespace TargetEval.Target

open Cursor (Ends ends_nil ends_cons ends_mono ends_of_all ends_append ends_front drop_run)

structure Solid (cs : List Char) : Prop where
  occupied : cs ≠ []
  first : Ends isBlank cs
  last : Ends isBlank cs.reverse

theorem Solid.of_all (cs : List Char) (occupied : cs ≠ []) (none : ∀ c ∈ cs, isBlank c = false) : Solid cs where
  occupied := occupied
  first := ends_of_all isBlank cs none
  last := ends_of_all isBlank cs.reverse fun c member => none c (List.mem_reverse.mp member)

theorem Solid.around {front back : List Char} (before : Solid front) (mid : List Char) (after : Solid back) :
    Solid (front ++ (mid ++ back)) where
  occupied := by simp [before.occupied]
  first := ends_front _ _ _ before.occupied before.first
  last := by
    have turned : (front ++ (mid ++ back)).reverse = back.reverse ++ (mid.reverse ++ front.reverse) := by simp
    rw [turned]
    exact ends_front _ _ _ (by simpa using after.occupied) after.last

theorem Solid.no_space {cs : List Char} (solid : Solid cs) (rest : List Char) : Ends Cursor.isSpace (cs ++ rest) :=
  ends_mono space_blank (ends_front _ _ _ solid.occupied solid.first)

theorem Solid.trimmed {cs : List Char} (solid : Solid cs) (lead trail : Space) :
    trimChars (lead.1 ++ (cs ++ trail.1)) = cs := by
  have blankLead : ∀ c ∈ lead.1, isBlank c = true := fun c member => space_blank c (lead.2 c member)
  have blankTrail : ∀ c ∈ trail.1.reverse, isBlank c = true := fun c member =>
    space_blank c (trail.2 c (List.mem_reverse.mp member))
  have front := drop_run isBlank lead.1 (cs ++ trail.1) blankLead (ends_front _ _ _ solid.occupied solid.first)
  have back := drop_run isBlank trail.1.reverse cs.reverse blankTrail solid.last
  rw [trimChars, front, List.reverse_append, back, List.reverse_reverse]

theorem number_char_not_blank (c : Char) (number : isNumberChar c = true) : isBlank c = false := by
  simp only [isNumberChar, Bool.or_eq_true, decide_eq_true_eq] at number
  rcases number with named | rfl
  · exact name_not_blank c named
  · decide

theorem Pattern.last {cs : List Char} (pattern : Pattern cs) : Ends isBlank cs.reverse := by
  induction pattern with
  | nil => rfl
  | char c rest named _ ih =>
      rw [List.reverse_cons]
      exact ends_append _ _ _ ih ((ends_cons ..).mpr (name_not_blank c named))
  | group inside rest _ _ ih =>
      rw [List.reverse_cons, List.reverse_append, List.reverse_cons, List.append_assoc, List.append_assoc]
      exact ends_append _ _ _ ih ((ends_cons ..).mpr (by decide))

theorem Pattern.solid {cs : List Char} (pattern : Pattern cs) (occupied : cs ≠ []) : Solid cs where
  occupied := occupied
  first := by
    refine pattern.ends _ (fun c blank => ?_) (by decide)
    refine eq_false_of_ne_true fun named => ?_
    rw [name_not_blank c named] at blank
    cases blank
  last := pattern.last

theorem Numeral.solid (n : Numeral) : Solid n.chars := by
  refine .of_all _ (fun none => ?_) fun c member => number_char_not_blank c (numeral_number_chars n c member)
  have start := n.starts []
  rw [none] at start
  cases start

theorem Quotation.solid (q : Quotation) : Solid q.chars := by
  have quote : Solid [q.quote] := by
    refine .of_all _ (List.cons_ne_nil _ _) (List.forall_mem_singleton.mpr ?_)
    rcases q.isQuote with same | same <;> rw [same] <;> decide
  exact quote.around q.content quote

theorem Identifier.solid (i : Identifier) : Solid i.chars :=
  .of_all _ (List.cons_ne_nil _ _) fun c member => name_not_blank c (part_named c (i.parts c member))

section

variable {Name : List Char → Prop} (valid : ∀ cs, Name cs → IsMetric cs)
include valid

theorem Phrase.solid (p : Phrase Name) : Solid p.chars := by
  cases p with
  | metric name isName => exact (valid name isName).pattern.solid (valid name isName).occupied
  | number n => exact n.solid
  | string q => exact q.solid
  | boolean w => exact (Pattern.of_named w.letters w.letters_named).solid w.letters_occupied
  | call name gap lead inside trail =>
      have close : Solid [')'] := .of_all _ (List.cons_ne_nil _ _) (List.forall_mem_singleton.mpr (by decide))
      have whole := name.solid.around (gap.1 ++ '(' :: (lead.1 ++ (inside.chars ++ trail.1))) close
      simpa [Phrase.chars] using whole

theorem Item.solid (item : Item Name) : Solid item.chars := by
  cases item with
  | positional value => exact value.solid valid
  | named key before after value =>
      have whole := key.solid.around (before.1 ++ '=' :: after.1) (value.solid valid)
      simpa [Item.chars] using whole

theorem Further.solid (more : Further Name) (front : List Char) (before : Solid front) : Solid (front ++ more.chars) := by
  match more with
  | .nothing => simpa [Further.chars] using before
  | .next gap lead item later =>
      have extended := before.around (gap.1 ++ ',' :: lead.1) (item.solid valid)
      have whole := later.solid _ extended
      simpa [Further.chars] using whole

theorem Inside.trimmed (inside : Inside Name) (lead trail : Space) :
    trimChars (lead.1 ++ (inside.chars ++ trail.1)) = inside.chars := by
  cases inside with
  | nothing =>
      have blank : ∀ c ∈ lead.1 ++ trail.1, isBlank c = true := fun c member => by
        rcases List.mem_append.mp member with here | here
        · exact space_blank c (lead.2 c here)
        · exact space_blank c (trail.2 c here)
      have none := drop_run isBlank (lead.1 ++ trail.1) [] blank (ends_nil _)
      rw [List.append_nil] at none
      simp [trimChars, Inside.chars, none]
  | items first more => exact (more.solid valid first.chars (first.solid valid)).trimmed lead trail

end

end TargetEval.Target

import TargetEval.Text.Basic

set_option autoImplicit false

namespace TargetEval

theorem replace_behind (old new skipped rest : List Char) :
    replaceFrom old new skipped.length (skipped ++ rest) = replaceFrom old new 0 rest := by
  induction skipped with
  | nil => rfl
  | cons c skipped ih => exact ih

theorem replace_past (old new xs rest : List Char) (clear : ∀ k < xs.length, ¬ old <+: xs.drop k ++ rest) :
    replaceFrom old new 0 (xs ++ rest) = xs ++ replaceFrom old new 0 rest := by
  induction xs with
  | nil => rfl
  | cons c xs ih =>
      have here : ¬ old.isPrefixOf (c :: (xs ++ rest)) = true := fun begins =>
        clear 0 (Nat.succ_pos _) (List.isPrefixOf_iff_prefix.mp begins)
      rw [List.cons_append, replaceFrom, if_neg here, List.cons_append]
      exact congrArg (c :: ·) (ih fun k short => clear (k + 1) (Nat.succ_lt_succ short))

theorem replace_absent (old new text : List Char) (absent : ¬ old <:+: text) : replaceFrom old new 0 text = text := by
  have past := replace_past old new text [] fun k _ begins =>
    absent ((List.append_nil _ ▸ begins).isInfix.trans (List.drop_suffix k text).isInfix)
  simpa [replaceFrom] using past

section

variable (old new : List Char) (occupied : old ≠ [])

include occupied

theorem replace_chars (text : List Char) : replaceChars old new text = replaceFrom old new 0 text := by
  rw [replaceChars, if_neg fun blank => occupied (List.isEmpty_iff.mp blank)]

theorem replace_here (rest : List Char) :
    replaceFrom old new 0 (old ++ rest) = new ++ replaceFrom old new 0 rest := by
  cases old with
  | nil => exact absurd rfl occupied
  | cons c cs =>
      have begins : (c :: cs).isPrefixOf (c :: (cs ++ rest)) = true :=
        List.isPrefixOf_iff_prefix.mpr (List.prefix_append (c :: cs) rest)
      rw [List.cons_append, replaceFrom, if_pos begins]
      exact congrArg (new ++ ·) (replace_behind (c :: cs) new cs rest)

theorem replace_first (text : List Char) (occurs : old <:+: text) :
    ∃ front back, text = front ++ (old ++ back) ∧
      replaceFrom old new 0 text = front ++ (new ++ replaceFrom old new 0 back) := by
  induction text with
  | nil => exact absurd (List.infix_nil.mp occurs) occupied
  | cons c rest ih =>
      by_cases begins : old <+: c :: rest
      · obtain ⟨back, same⟩ := begins
        exact ⟨[], back, same.symm, same ▸ replace_here old new occupied back⟩
      · obtain ⟨front, back, same, replaced⟩ := ih ((List.infix_cons_iff.mp occurs).resolve_left begins)
        refine ⟨c :: front, back, congrArg (c :: ·) same, ?_⟩
        rw [replaceFrom, if_neg fun first => begins (List.isPrefixOf_iff_prefix.mp first), replaced, List.cons_append]

theorem first_shorter (front back : List Char) : back.length < (front ++ (old ++ back)).length := by
  have positive := List.length_pos_iff.mpr occupied
  simp only [List.length_append]
  omega

theorem replace_length (text : List Char) :
    ∃ n, (replaceFrom old new 0 text).length + n * old.length = text.length + n * new.length := by
  by_cases occurs : old <:+: text
  · obtain ⟨front, back, same, replaced⟩ := replace_first old new occupied text occurs
    have shorter : back.length < text.length := same ▸ first_shorter old occupied front back
    obtain ⟨n, lengths⟩ := replace_length back
    refine ⟨n + 1, ?_⟩
    rw [replaced, same]
    simp only [List.length_append, Nat.succ_mul]
    omega
  · exact ⟨0, by rw [replace_absent old new text occurs, Nat.zero_mul, Nat.zero_mul]⟩
termination_by text.length

theorem replace_itself (text : List Char) : replaceFrom old old 0 text = text := by
  by_cases occurs : old <:+: text
  · obtain ⟨front, back, same, replaced⟩ := replace_first old old occupied text occurs
    have shorter : back.length < text.length := same ▸ first_shorter old occupied front back
    rw [replaced, replace_itself back, ← same]
  · exact replace_absent old old text occurs
termination_by text.length

theorem replace_unchanged (text : List Char) :
    replaceFrom old new 0 text = text ↔ old = new ∨ ¬ old <:+: text := by
  constructor
  · intro unchanged
    by_cases occurs : old <:+: text
    · obtain ⟨front, back, same, replaced⟩ := replace_first old new occupied text occurs
      obtain ⟨n, lengths⟩ := replace_length old new occupied back
      have behind : new ++ replaceFrom old new 0 back = old ++ back :=
        List.append_cancel_left (replaced.symm.trans (unchanged.trans same))
      have total := congrArg List.length behind
      simp only [List.length_append] at total
      have sizes : (n + 1) * old.length = (n + 1) * new.length := by
        rw [Nat.succ_mul, Nat.succ_mul]
        omega
      exact .inl (List.append_inj_left behind.symm (Nat.eq_of_mul_eq_mul_left (Nat.succ_pos n) sizes))
    · exact .inr occurs
  · rintro (rfl | absent)
    · exact replace_itself old occupied text
    · exact replace_absent old new text absent

end

theorem replace_whole (old new : String) (occupied : old.toList ≠ []) : replaceText old new old = new := by
  have whole := replace_here old.toList new.toList occupied []
  rw [List.append_nil, replaceFrom, List.append_nil] at whole
  rw [replaceText, replace_chars _ _ occupied, whole, String.ofList_toList]

theorem replace_text_unchanged (old new text : String) (occupied : old.toList ≠ []) :
    replaceText old new text = text ↔ old = new ∨ ¬ old.toList <:+: text.toList := by
  have unchanged := replace_unchanged old.toList new.toList occupied text.toList
  rw [String.toList_inj] at unchanged
  rw [← unchanged, replaceText, replace_chars _ _ occupied, ← String.toList_inj, String.toList_ofList]

end TargetEval

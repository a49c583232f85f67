import TargetEval.Proofs.Target.Cursor

set_option autoImplicit false

namespace TargetEval.Target

open Cursor (Ends ends_cons ends_of_all ends_append)

def blankPoints : List Nat :=
  List.range' 9 5 ++ List.range' 0x2000 11 ++ [0x20, 0x85, 0xA0, 0x1680, 0x2028, 0x2029, 0x202F, 0x205F, 0x3000]

theorem blank_point (c : Char) (blank : isBlank c = true) : c.toNat ∈ blankPoints := by
  simp only [isBlank, Bool.or_eq_true, Bool.and_eq_true, decide_eq_true_eq] at blank
  simp only [blankPoints, List.mem_append, List.mem_range'_1, List.mem_cons, List.not_mem_nil]
  omega

theorem blank_points_unnamed : ∀ n ∈ blankPoints, MetricName.isNameChar (Char.ofNat n) = false := by decide +kernel

theorem name_not_blank (c : Char) (named : MetricName.isNameChar c = true) : isBlank c = false := by
  by_cases blank : isBlank c = true
  · have unnamed := blank_points_unnamed c.toNat (blank_point c blank)
    rw [Char.ofNat_toNat, named] at unnamed
    cases unnamed
  · exact eq_false_of_ne_true blank

theorem space_cases (c : Char) (space : Cursor.isSpace c = true) : c = ' ' ∨ c = '\t' ∨ c = '\r' ∨ c = '\n' := by
  simpa [Cursor.isSpace, or_assoc] using space

theorem space_blank (c : Char) (space : Cursor.isSpace c = true) : isBlank c = true := by
  rcases space_cases c space with rfl | rfl | rfl | rfl <;> rfl

theorem space_unnamed (c : Char) (space : Cursor.isSpace c = true) : MetricName.isNameChar c = false := by
  rcases space_cases c space with rfl | rfl | rfl | rfl <;> decide

theorem range_points (c low high : Char) (within : (decide (low.val ≤ c.val) && decide (c.val ≤ high.val)) = true) :
    low.toNat ≤ c.toNat ∧ c.toNat ≤ high.toNat := by
  obtain ⟨above, below⟩ := (Bool.and_eq_true _ _).mp within
  exact ⟨UInt32.le_iff_toNat_le.mp (of_decide_eq_true above), UInt32.le_iff_toNat_le.mp (of_decide_eq_true below)⟩

theorem digit_points (c : Char) (digit : c.isDigit = true) : 48 ≤ c.toNat ∧ c.toNat ≤ 57 := range_points c '0' '9' digit

theorem alpha_points (c : Char) (alpha : c.isAlpha = true) :
    65 ≤ c.toNat ∧ c.toNat ≤ 90 ∨ 97 ≤ c.toNat ∧ c.toNat ≤ 122 := by
  rcases (Bool.or_eq_true _ _).mp alpha with upper | lower
  · obtain ⟨above, below⟩ := of_decide_eq_true upper
    exact .inl ⟨UInt32.le_iff_toNat_le.mp above, UInt32.le_iff_toNat_le.mp below⟩
  · exact .inr (range_points c 'a' 'z' lower)

theorem alphanum_ascii (c : Char) (alphanum : c.isAlphanum = true) : c.toNat < 128 := by
  rcases (Bool.or_eq_true _ _).mp alphanum with alpha | digit
  · have points := alpha_points c alpha
    omega
  · have points := digit_points c digit
    omega

theorem alphanum_named (c : Char) (alphanum : c.isAlphanum = true) : MetricName.isNameChar c = true := by
  simp only [MetricName.isNameChar, isAlphanumeric, if_pos (alphanum_ascii c alphanum), asciiAlphanumeric, alphanum,
    Bool.or_true]

theorem digit_named (c : Char) (digit : c.isDigit = true) : MetricName.isNameChar c = true :=
  alphanum_named c (by simp [Char.isAlphanum, digit])

def isPart (c : Char) : Bool := c.isAlphanum || c = '_'

theorem part_named (c : Char) (part : isPart c = true) : MetricName.isNameChar c = true := by
  simp only [isPart, Bool.or_eq_true, decide_eq_true_eq] at part
  rcases part with alphanum | rfl
  · exact alphanum_named c alphanum
  · rfl

theorem start_part (c : Char) (starts : (c.isAlpha || c = '_') = true) : isPart c = true := by
  simp only [Bool.or_eq_true, decide_eq_true_eq] at starts
  rcases starts with alpha | rfl
  · simp [isPart, Char.isAlphanum, alpha]
  · rfl

theorem Identifier.parts (i : Identifier) : ∀ c ∈ i.chars, isPart c = true :=
  List.forall_mem_cons.mpr ⟨start_part i.first i.starts, i.continues⟩

theorem ends_gap (p : Char → Bool) (gap : Space) (mark : Char) (rest : List Char)
    (space : ∀ c, Cursor.isSpace c = true → p c = false) (here : p mark = false) : Ends p (gap.1 ++ mark :: rest) :=
  ends_append p gap.1 _ (ends_of_all p gap.1 fun c member => space c (gap.2 c member)) ((ends_cons ..).mpr here)

def Stops (rest : List Char) : Prop := ∀ c ∈ (rest.dropWhile Cursor.isSpace).head?, c = ',' ∨ c = ')'

theorem stops_nil : Stops [] := by
  intro c head
  cases head

theorem stops_space (space rest : List Char) (spaces : ∀ c ∈ space, Cursor.isSpace c = true) (stops : Stops rest) :
    Stops (space ++ rest) := by
  unfold Stops
  rw [List.dropWhile_append_of_pos spaces]
  exact stops

theorem stops_mark (mark : Char) (rest : List Char) (stops : mark = ',' ∨ mark = ')') : Stops (mark :: rest) := by
  intro c head
  have plain : ¬ Cursor.isSpace mark = true := by rcases stops with rfl | rfl <;> decide
  rw [List.dropWhile_cons_of_neg plain] at head
  cases head
  exact stops

theorem stops_gap (gap : Space) (mark : Char) (rest : List Char) (stops : mark = ',' ∨ mark = ')') :
    Stops (gap.1 ++ mark :: rest) :=
  stops_space gap.1 _ gap.2 (stops_mark mark rest stops)

theorem stops_head (c : Char) (rest : List Char) (stops : Stops (c :: rest)) :
    Cursor.isSpace c = true ∨ c = ',' ∨ c = ')' := by
  by_cases space : Cursor.isSpace c = true
  · exact .inl space
  · refine .inr (stops c ?_)
    rw [List.dropWhile_cons_of_neg space]
    rfl

theorem stops_ends (p : Char → Bool) (space : ∀ c, Cursor.isSpace c = true → p c = false) (comma : p ',' = false)
    (close : p ')' = false) (rest : List Char) (stops : Stops rest) : Ends p rest := by
  cases rest with
  | nil => rfl
  | cons c rest =>
      rw [ends_cons]
      rcases stops_head c rest stops with plain | rfl | rfl
      · exact space c plain
      · exact comma
      · exact close

theorem stops_name (rest : List Char) (stops : Stops rest) : Ends MetricName.isNameChar rest :=
  stops_ends _ space_unnamed (by decide) (by decide) rest stops

theorem stops_brace (rest : List Char) (stops : Stops rest) : Ends (fun c => c = '{') rest := by
  refine stops_ends _ (fun c space => ?_) (by decide) (by decide) rest stops
  rcases space_cases c space with rfl | rfl | rfl | rfl <;> decide

end TargetEval.Target

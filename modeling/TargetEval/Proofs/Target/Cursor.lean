import Mathlib.Data.List.TakeWhile
import TargetEval.Proofs.Target.Phrase

set_option autoImplicit false

namespace TargetEval

theorem byte_length_nil : byteLength [] = 0 := rfl

theorem byte_length_cons (c : Char) (cs : List Char) : byteLength (c :: cs) = c.utf8Size + byteLength cs := rfl

theorem byte_length_append (xs ys : List Char) : byteLength (xs ++ ys) = byteLength xs + byteLength ys := by
  induction xs with
  | nil => exact (Nat.zero_add _).symm
  | cons c rest ih => rw [List.cons_append, byte_length_cons, byte_length_cons, ih, Nat.add_assoc]

namespace Cursor

structure Reads (c : Cursor) (cs : List Char) (later : Cursor) : Prop where
  rest : c.rest = cs ++ later.rest
  offset : later.offset = c.offset + byteLength cs

namespace Reads

theorem refl (c : Cursor) : c.Reads [] c := ⟨rfl, rfl⟩

theorem trans {a b c : Cursor} {xs ys : List Char} (first : a.Reads xs b) (second : b.Reads ys c) :
    a.Reads (xs ++ ys) c where
  rest := by rw [first.rest, second.rest, List.append_assoc]
  offset := by rw [second.offset, first.offset, byte_length_append, Nat.add_assoc]

theorem eq_start {c later : Cursor} {cs : List Char} (reads : c.Reads cs later) : c = ⟨c.offset, cs ++ later.rest⟩ := by
  rw [← reads.rest]

theorem up_to {c later : Cursor} {cs : List Char} (reads : c.Reads cs later) : c.upTo later = cs := by
  unfold upTo
  rw [reads.rest, List.length_append, Nat.add_sub_cancel, List.take_left]

end Reads

def Ends (p : Char → Bool) (rest : List Char) : Prop := rest.head?.any p = false

theorem ends_nil (p : Char → Bool) : Ends p [] := rfl

theorem ends_cons (p : Char → Bool) (c : Char) (rest : List Char) : Ends p (c :: rest) ↔ p c = false := by
  simp [Ends]

theorem ends_mono {p q : Char → Bool} (within : ∀ c, p c = true → q c = true) {rest : List Char}
    (ends : Ends q rest) : Ends p rest := by
  cases rest with
  | nil => exact ends_nil p
  | cons c rest =>
      rw [ends_cons] at ends ⊢
      by_cases held : p c = true
      · rw [within c held] at ends
        cases ends
      · exact eq_false_of_ne_true held

theorem ends_drop (p : Char → Bool) (cs : List Char) : Ends p (cs.dropWhile p) := by
  induction cs with
  | nil => rfl
  | cons c rest ih =>
      by_cases held : p c = true
      · rw [List.dropWhile_cons_of_pos held]
        exact ih
      · rw [List.dropWhile_cons_of_neg held, ends_cons]
        exact eq_false_of_ne_true held

theorem ends_of_all (p : Char → Bool) (cs : List Char) (none : ∀ c ∈ cs, p c = false) : Ends p cs := by
  cases cs with
  | nil => rfl
  | cons c rest => exact (ends_cons ..).mpr (none c List.mem_cons_self)

theorem ends_append (p : Char → Bool) (cs rest : List Char) (here : Ends p cs) (later : Ends p rest) :
    Ends p (cs ++ rest) := by
  cases cs with
  | nil => exact later
  | cons c cs => exact here

theorem ends_of_append (p : Char → Bool) (cs rest : List Char) (ends : Ends p (cs ++ rest)) : Ends p cs := by
  cases cs with
  | nil => rfl
  | cons c cs => exact ends

theorem ends_front (p : Char → Bool) (cs rest : List Char) (occupied : cs ≠ []) (ends : Ends p cs) : Ends p (cs ++ rest) := by
  cases cs with
  | nil => exact absurd rfl occupied
  | cons c cs => exact ends

theorem head_ne_of_ends (x : Char) (rest : List Char) (ends : Ends (fun c => c = x) rest) : rest.head? ≠ some x := by
  intro same
  obtain ⟨tail, rfl⟩ := List.head?_eq_some_iff.mp same
  rw [ends_cons] at ends
  simp at ends

theorem take_run (p : Char → Bool) (cs rest : List Char) (all : ∀ c ∈ cs, p c = true) (ends : Ends p rest) :
    (cs ++ rest).takeWhile p = cs := by
  rw [List.takeWhile_append_of_pos all]
  cases rest with
  | nil => exact List.append_nil cs
  | cons c rest =>
      rw [ends_cons] at ends
      rw [List.takeWhile_cons_of_neg (by simp [ends]), List.append_nil]

theorem drop_run (p : Char → Bool) (cs rest : List Char) (all : ∀ c ∈ cs, p c = true) (ends : Ends p rest) :
    (cs ++ rest).dropWhile p = rest := by
  rw [List.dropWhile_append_of_pos all]
  cases rest with
  | nil => rfl
  | cons c rest =>
      rw [ends_cons] at ends
      rw [List.dropWhile_cons_of_neg (by simp [ends])]

theorem skip_past (o : Nat) (cs rest : List Char) : (⟨o, cs ++ rest⟩ : Cursor).skip cs.length = ⟨o + byteLength cs, rest⟩ := by
  rw [skip, List.take_left, List.drop_left]

theorem skip_one (o : Nat) (c : Char) (rest : List Char) : (⟨o, c :: rest⟩ : Cursor).skip 1 = ⟨o + c.utf8Size, rest⟩ :=
  skip_past o [c] rest

theorem skip_run_past (p : Char → Bool) (o : Nat) (cs rest : List Char) (all : ∀ c ∈ cs, p c = true)
    (ends : Ends p rest) : (⟨o, cs ++ rest⟩ : Cursor).skipRun p = ⟨o + byteLength cs, rest⟩ := by
  rw [skipRun, run, take_run p cs rest all ends, skip_past]

theorem skip_reads (c : Cursor) (n : Nat) : c.Reads (c.rest.take n) (c.skip n) :=
  ⟨(List.take_append_drop n c.rest).symm, rfl⟩

theorem skip_run_rest (c : Cursor) (p : Char → Bool) : (c.skipRun p).rest = c.rest.dropWhile p := by
  have split := List.takeWhile_append_dropWhile (p := p) (l := c.rest)
  calc
    (c.skipRun p).rest = (c.rest.takeWhile p ++ c.rest.dropWhile p).drop (c.rest.takeWhile p).length := by
      rw [split]
      rfl
    _ = c.rest.dropWhile p := List.drop_left

theorem skip_run_reads (c : Cursor) (p : Char → Bool) : c.Reads (c.run p) (c.skipRun p) := by
  refine ⟨?_, ?_⟩
  · rw [skip_run_rest]
    exact (List.takeWhile_append_dropWhile (p := p) (l := c.rest)).symm
  · have taken : c.rest.take (c.run p).length = c.run p := by
      have split := List.takeWhile_append_dropWhile (p := p) (l := c.rest)
      calc
        c.rest.take (c.run p).length = (c.run p ++ c.rest.dropWhile p).take (c.run p).length := by
          rw [run, split]
        _ = c.run p := List.take_left
    change c.offset + byteLength (c.rest.take (c.run p).length) = c.offset + byteLength (c.run p)
    rw [taken]

theorem run_all (c : Cursor) (p : Char → Bool) : ∀ x ∈ c.run p, p x = true :=
  fun _ member => List.mem_takeWhile_imp member

theorem skip_run_ends (c : Cursor) (p : Char → Bool) : Ends p (c.skipRun p).rest := by
  rw [skip_run_rest]
  exact ends_drop p c.rest

theorem skip_space_past (o : Nat) (space : Target.Space) (rest : List Char) (ends : Ends isSpace rest) :
    (⟨o, space.1 ++ rest⟩ : Cursor).skipSpace = ⟨o + byteLength space.1, rest⟩ :=
  skip_run_past isSpace o space.1 rest space.2 ends

theorem skip_no_space (o : Nat) (rest : List Char) (ends : Ends isSpace rest) : (⟨o, rest⟩ : Cursor).skipSpace = ⟨o, rest⟩ :=
  skip_space_past o Target.noSpace rest ends

theorem skip_space_reads (c : Cursor) : ∃ space : Target.Space, c.Reads space.1 c.skipSpace :=
  ⟨⟨c.run isSpace, c.run_all isSpace⟩, c.skip_run_reads isSpace⟩

theorem skip_space_rest (c : Cursor) : c.skipSpace.rest = c.rest.dropWhile isSpace := c.skip_run_rest isSpace

end Cursor

namespace Outcome

variable {α β : Type} {value : α} {next : Cursor} {fault : Fault}

theorem or_else_accepted {first second : Outcome α} (accepted : (first <|> second) = .accepted value next) :
    first = .accepted value next ∨ (∃ fault, first = .declined fault) ∧ second = .accepted value next := by
  cases first with
  | accepted _ _ => exact .inl accepted
  | declined fault => exact .inr ⟨⟨fault, rfl⟩, accepted⟩
  | refused _ => cases accepted

theorem or_else_refused {first second : Outcome α} (refused : (first <|> second) = .refused fault) :
    first = .refused fault ∨ second = .refused fault := by
  cases first with
  | accepted _ _ => cases refused
  | declined _ => exact .inr refused
  | refused _ => exact .inl refused

theorem and_then_accepted {first : Outcome α} {second : α → Cursor → Outcome β} {result : β}
    (accepted : first.andThen second = .accepted result next) :
    ∃ value between, first = .accepted value between ∧ second value between = .accepted result next := by
  cases first with
  | accepted value between => exact ⟨value, between, rfl, accepted⟩
  | declined _ => cases accepted
  | refused _ => cases accepted

theorem and_then_refused {first : Outcome α} {second : α → Cursor → Outcome β}
    (refused : first.andThen second = .refused fault) :
    first = .refused fault ∨ ∃ value between, first = .accepted value between ∧ second value between = .refused fault := by
  cases first with
  | accepted value between => exact .inr ⟨value, between, rfl, refused⟩
  | declined _ => cases refused
  | refused fault => exact .inl (by cases refused; rfl)

theorem commit_accepted {first : Outcome α} (accepted : first.commit = .accepted value next) :
    first = .accepted value next := by
  cases first with
  | accepted _ _ => exact accepted
  | declined _ => cases accepted
  | refused _ => cases accepted

def Declines (first : Outcome α) : Prop := ∃ fault, first = .declined fault

theorem declines_of (first : Outcome α) (accepts : ∀ value next, first ≠ .accepted value next)
    (refuses : ∀ fault, first ≠ .refused fault) : first.Declines := by
  cases first with
  | accepted value next => exact absurd rfl (accepts value next)
  | declined fault => exact ⟨fault, rfl⟩
  | refused fault => exact absurd rfl (refuses fault)

theorem Declines.or_else {first : Outcome α} (declines : first.Declines) (second : Outcome α) :
    (first <|> second) = second := by
  obtain ⟨fault, rfl⟩ := declines
  rfl

theorem Declines.and_then {first : Outcome α} (declines : first.Declines) (second : α → Cursor → Outcome β) :
    (first.andThen second).Declines := by
  obtain ⟨fault, rfl⟩ := declines
  exact ⟨fault, rfl⟩

end Outcome

end TargetEval

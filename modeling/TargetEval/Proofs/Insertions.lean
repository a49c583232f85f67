import Mathlib.Data.Finset.Card
import Mathlib.Data.List.Induction
import TargetEval.Proofs.Index
import TargetEval.Proofs.Shape

set_option autoImplicit false

namespace TargetEval

theorem not_shaped (s : Series) : ¬ s.Shaped ↔ s.absent.size ≠ s.values.size ∨ s.step ≤ 0 := by
  rw [Series.Shaped, not_and_or, Int64.not_lt]

namespace SeriesIndex

theorem check_each (series : List Series) :
    (∀ s ∈ series, s.Shaped) ∧ series.forM Series.check = .ok () ∨
      ∃ before s after e, series = before ++ s :: after ∧ (∀ t ∈ before, t.Shaped) ∧ ¬ s.Shaped ∧
        s.check = .error e ∧ series.forM Series.check = .error e := by
  induction series with
  | nil => exact .inl ⟨by simp, rfl⟩
  | cons head rest ih =>
      have checks : (head :: rest).forM Series.check = (head.check >>= fun _ => rest.forM Series.check) := rfl
      cases checked : head.check with
      | error e =>
          have malformed : ¬ head.Shaped := fun shaped => by
            rw [head.check_ok.mpr shaped] at checked
            cases checked
          exact .inr ⟨[], head, rest, e, rfl, by simp, malformed, checked, by rw [checks, checked]; rfl⟩
      | ok done =>
          have shaped := head.check_ok.mp checked
          rw [checked] at checks
          rcases ih with ⟨all, passed⟩ | ⟨before, s, after, e, rfl, all, malformed, refused, failed⟩
          · exact .inl ⟨List.forall_mem_cons.mpr ⟨shaped, all⟩, checks.trans passed⟩
          · exact .inr ⟨head :: before, s, after, e, rfl, List.forall_mem_cons.mpr ⟨shaped, all⟩, malformed, refused,
              checks.trans failed⟩

theorem insert_accepted (index : SeriesIndex) (key : FetchKey) (series : List Series) (all : ∀ s ∈ series, s.Shaped) :
    index.insert key series = (⟨append key series index.entries⟩, none) := by
  rcases check_each series with ⟨_, passed⟩ | ⟨before, s, after, _, rfl, _, malformed, _⟩
  · rw [insert, passed]
  · exact absurd (all s (by simp)) malformed

theorem insert_refused (index : SeriesIndex) (key : FetchKey) (series : List Series) (e : Error)
    (refused : (index.insert key series).2 = some e) :
    (index.insert key series).1 = index ∧
      ∃ before s after, series = before ++ s :: after ∧ (∀ t ∈ before, t.Shaped) ∧ ¬ s.Shaped ∧
        s.check = .error e := by
  rcases check_each series with ⟨all, _⟩ | ⟨before, s, after, other, split, shaped, malformed, reported, failed⟩
  · rw [insert_accepted index key series all] at refused
    cases refused
  · rw [insert, failed] at refused ⊢
    cases refused
    exact ⟨rfl, before, s, after, split, shaped, malformed, reported⟩

theorem insert_fails (index : SeriesIndex) (key : FetchKey) (series : List Series) :
    (∃ e, (index.insert key series).2 = some e) ↔ ∃ s ∈ series, s.absent.size ≠ s.values.size ∨ s.step ≤ 0 := by
  constructor
  · rintro ⟨e, refused⟩
    obtain ⟨_, before, s, after, rfl, _, malformed, _⟩ := insert_refused index key series e refused
    exact ⟨s, by simp, (not_shaped s).mp malformed⟩
  · rintro ⟨s, member, malformed⟩
    rcases index.insert_cases key series with ⟨passed, _⟩ | ⟨e, _, refused⟩
    · exact absurd (checked_shaped series passed s member) ((not_shaped s).mpr malformed)
    · exact ⟨e, by rw [refused]⟩

def accepted (calls : List (FetchKey × List Series)) : List (FetchKey × List Series) :=
  calls.filter fun call => decide (∀ s ∈ call.2, s.Shaped)

theorem accepted_snoc (calls : List (FetchKey × List Series)) (call : FetchKey × List Series) :
    accepted (calls ++ [call]) = accepted calls ++ if ∀ s ∈ call.2, s.Shaped then [call] else [] := by
  rw [accepted, List.filter_append, List.filter_singleton]
  by_cases all : ∀ s ∈ call.2, s.Shaped <;> simp [accepted, all]

def collected (calls : List (FetchKey × List Series)) : List (FetchKey × List Series) :=
  calls.foldl (fun entries call => append call.1 call.2 entries) []

theorem collected_snoc (calls : List (FetchKey × List Series)) (call : FetchKey × List Series) :
    collected (calls ++ [call]) = append call.1 call.2 (collected calls) := by
  rw [collected, List.foldl_append]
  rfl

theorem after_inserts_snoc (calls : List (FetchKey × List Series)) (call : FetchKey × List Series) :
    afterInserts (calls ++ [call]) = ((afterInserts calls).insert call.1 call.2).1 := by
  rw [afterInserts, List.foldl_append]
  rfl

theorem after_inserts_entries (calls : List (FetchKey × List Series)) :
    (afterInserts calls).entries = collected (accepted calls) := by
  induction calls using List.reverseRecOn with
  | nil => rfl
  | append_singleton calls call ih =>
      rw [after_inserts_snoc, accepted_snoc]
      by_cases all : ∀ s ∈ call.2, s.Shaped
      · rw [if_pos all, collected_snoc, ← ih, insert_accepted _ _ _ all]
      · obtain ⟨s, member, malformed⟩ : ∃ s ∈ call.2, ¬ s.Shaped := by simpa using all
        obtain ⟨e, refused⟩ := (insert_fails (afterInserts calls) call.1 call.2).mpr
          ⟨s, member, (not_shaped s).mp malformed⟩
        rw [if_neg all, List.append_nil, ← ih, (insert_refused _ _ _ e refused).1]

theorem keys_append (key : FetchKey) (series : List Series) (entries : List (FetchKey × List Series)) :
    (append key series entries).map Prod.fst =
      if key ∈ entries.map Prod.fst then entries.map Prod.fst else entries.map Prod.fst ++ [key] := by
  induction entries with
  | nil => rfl
  | cons entry rest ih =>
      obtain ⟨k, old⟩ := entry
      by_cases same : k = key
      · simp [append, same]
      · rw [append, if_neg same, List.map_cons, ih, List.map_cons]
        by_cases later : key ∈ rest.map Prod.fst
        · rw [if_pos later, if_pos (List.mem_cons_of_mem _ later)]
        · rw [if_neg later, if_neg (by simp [later, Ne.symm same]), List.cons_append]

theorem collected_keys (calls : List (FetchKey × List Series)) :
    ((collected calls).map Prod.fst).Nodup ∧
      ∀ key, key ∈ (collected calls).map Prod.fst ↔ key ∈ calls.map Prod.fst := by
  induction calls using List.reverseRecOn with
  | nil => exact ⟨.nil, fun _ => .rfl⟩
  | append_singleton calls call ih =>
      obtain ⟨distinct, members⟩ := ih
      rw [collected_snoc, keys_append]
      split
      next known =>
        refine ⟨distinct, fun key => ?_⟩
        rw [List.map_append, List.mem_append, members key]
        refine ⟨.inl, fun listed => listed.elim id fun last => ?_⟩
        rw [List.map_singleton, List.mem_singleton] at last
        exact last ▸ (members _).mp known
      next fresh =>
        refine ⟨List.nodup_append.mpr ⟨distinct, List.nodup_singleton _, ?_⟩, fun key => ?_⟩
        · rintro key old other last rfl
          exact fresh (List.mem_singleton.mp last ▸ old)
        · rw [List.mem_append, List.map_append, List.mem_append, members key]
          rfl

theorem collected_found (calls : List (FetchKey × List Series)) (key : FetchKey) :
    ((collected calls).lookup key).getD [] = (calls.filter fun call => call.1 = key).flatMap Prod.snd := by
  induction calls using List.reverseRecOn with
  | nil => rfl
  | append_singleton calls call ih =>
      rw [collected_snoc, lookup_append, ih, List.filter_append, List.flatMap_append]
      by_cases hit : call.1 = key <;> simp [hit]

section

variable (calls : List (FetchKey × List Series))

theorem get_after_inserts (key : FetchKey) :
    (afterInserts calls).get key = ((accepted calls).filter fun call => call.1 = key).flatMap Prod.snd := by
  rw [get, after_inserts_entries, collected_found]

theorem size_after_inserts : (afterInserts calls).size = ((accepted calls).map Prod.fst).toFinset.card := by
  obtain ⟨distinct, members⟩ := collected_keys (accepted calls)
  have same : ((collected (accepted calls)).map Prod.fst).toFinset = ((accepted calls).map Prod.fst).toFinset :=
    Finset.ext fun key => by rw [List.mem_toFinset, List.mem_toFinset, members key]
  rw [size, after_inserts_entries, ← List.length_map Prod.fst, ← List.toFinset_card_of_nodup distinct, same]

theorem empty_after_inserts : (afterInserts calls).isEmpty = true ↔ accepted calls = [] := by
  rw [isEmpty, List.isEmpty_iff_length_eq_zero, ← size, size_after_inserts, Finset.card_eq_zero,
    List.toFinset_eq_empty_iff, List.map_eq_nil_iff]

theorem stored_found (key : FetchKey) (series : List Series) (stored : (key, series) ∈ (afterInserts calls).entries) :
    (afterInserts calls).get key = series := by
  rw [after_inserts_entries] at stored
  obtain ⟨distinct, _⟩ := collected_keys (accepted calls)
  obtain ⟨before, after, split⟩ := List.append_of_mem stored
  have found : (collected (accepted calls)).lookup key = some series := by
    refine List.lookup_eq_some_iff.mpr ⟨before, after, split, fun entry earlier => ?_⟩
    rw [split, List.map_append, List.nodup_append] at distinct
    have apart := distinct.2.2 entry.1 (List.mem_map_of_mem earlier) key (by simp)
    simpa using Ne.symm apart
  rw [get, after_inserts_entries, found]
  rfl

/-- Insertions in any order, refused ones among them. A list is refused exactly if one of its series
is malformed, for the first such series, and the index beside the error is the old one. What is
found under a key are the accepted lists of that key one after the other, and the size counts the
accepted keys. -/
theorem accepted_lists_found :
    (∀ key series,
      ((∃ e, ((afterInserts calls).insert key series).2 = some e) ↔
        ∃ s ∈ series, s.absent.size ≠ s.values.size ∨ s.step ≤ 0) ∧
      ∀ e, ((afterInserts calls).insert key series).2 = some e →
        (∃ before s after, series = before ++ s :: after ∧
          (∀ t ∈ before, t.absent.size = t.values.size ∧ 0 < t.step) ∧
          (s.absent.size ≠ s.values.size ∨ s.step ≤ 0) ∧ s.check = .error e) ∧
        ((afterInserts calls).insert key series).1 = afterInserts calls) ∧
    (∀ key, (afterInserts calls).get key =
      ((accepted calls).filter fun call => call.1 = key).flatMap Prod.snd) ∧
    (afterInserts calls).size = ((accepted calls).map Prod.fst).toFinset.card ∧
    ((afterInserts calls).isEmpty = true ↔ accepted calls = []) ∧
    ∀ entry ∈ (afterInserts calls).entries, ∀ s ∈ entry.2, s.check = .ok () := by
  refine ⟨fun key series => ⟨insert_fails _ key series, fun e refused => ⟨?_, ?_⟩⟩, get_after_inserts calls,
    size_after_inserts calls, empty_after_inserts calls, ?_⟩
  · obtain ⟨_, before, s, after, split, shaped, malformed, reported⟩ := insert_refused _ key series e refused
    exact ⟨before, s, after, split, shaped, (not_shaped s).mp malformed, reported⟩
  · exact (insert_refused _ key series e refused).1
  · rintro ⟨key, series⟩ listed s member
    rw [← stored_found calls key series listed] at member
    exact s.check_ok.mpr (after_inserts_shaped calls key s member)

end

end SeriesIndex

end TargetEval

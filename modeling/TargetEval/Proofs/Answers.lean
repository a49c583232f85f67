import Mathlib.Data.List.Forall2
import TargetEval.Evaluation.Answer

set_option autoImplicit false

namespace TargetEval.Answer

variable {α β : Type}

@[simp] theorem bind_eq (a : Answer α) (next : α → Answer β) : (a >>= next) = a.andThen next := rfl

@[simp] theorem pure_eq (value : α) : (pure value : Answer α) = done value := rfl

@[simp] theorem ok_bind (value : α) (next : α → Except Error β) : (Except.ok value >>= next) = next value := rfl

@[simp] theorem error_bind (e : Error) (next : α → Except Error β) : (Except.error e >>= next) = .error e := rfl

theorem of_except_bind (a : Except Error α) (f : α → Except Error β) :
    ofExcept (a >>= f) = (ofExcept a).andThen fun x => ofExcept (f x) := by
  cases a with
  | ok x => rfl
  | error e => rfl

@[simp] theorem done_outcome (value : α) : (done value).outcome = .ok value := rfl

@[simp] theorem of_except_outcome (outcome : Except Error α) : (ofExcept outcome).outcome = outcome := rfl

@[simp] theorem and_then_outcome (a : Answer α) (next : α → Answer β) :
    (a.andThen next).outcome = a.outcome >>= fun value => (next value).outcome := by
  obtain ⟨outcome, events⟩ := a
  cases outcome with
  | ok value => rfl
  | error e => rfl

@[simp] theorem followed_by_outcome (a : Answer α) (records : Bool) (event : Event) :
    (a.followedBy records event).outcome = a.outcome := by
  cases records with
  | false => rfl
  | true => rfl

@[simp] theorem in_order_outcome (compute : α → Answer β) (items : List α) :
    (inOrder compute items).outcome = items.mapM fun item => (compute item).outcome := by
  induction items with
  | nil => rfl
  | cons item rest ih =>
      simp only [inOrder, and_then_outcome, done_outcome, ih, List.mapM_cons]
      rfl

@[simp] theorem all_of_outcome (compute : α → Answer β) (items : List α) :
    (allOf compute items).outcome = items.mapM fun item => (compute item).outcome := by
  change (items.map compute).mapM outcome = _
  induction items with
  | nil => rfl
  | cons item rest ih => rw [List.map_cons, List.mapM_cons, List.mapM_cons, ih]

theorem and_then_ok (a : Answer α) (next : α → Answer β) (x : α) (ok : a.outcome = .ok x) :
    a.andThen next = ⟨(next x).outcome, a.events ++ (next x).events⟩ := by
  obtain ⟨outcome, events⟩ := a
  cases ok
  rfl

theorem ok_of_and_then (a : Answer α) (next : α → Answer β) (y : β) (ok : (a.andThen next).outcome = .ok y) :
    ∃ x, a.outcome = .ok x ∧ (next x).outcome = .ok y := by
  rw [and_then_outcome] at ok
  cases first : a.outcome with
  | error e => rw [first] at ok; cases ok
  | ok x => exact ⟨x, rfl, by rwa [first] at ok⟩

theorem error_of_and_then (a : Answer α) (next : α → Answer β) (e : Error)
    (failed : (a.andThen next).outcome = .error e) :
    a.outcome = .error e ∨ ∃ x, a.outcome = .ok x ∧ (next x).outcome = .error e := by
  rw [and_then_outcome] at failed
  cases first : a.outcome with
  | error other =>
      rw [first] at failed
      cases failed
      exact .inl rfl
  | ok x => exact .inr ⟨x, rfl, by rwa [first] at failed⟩

theorem ok_of_bind (a : Except Error α) (next : α → Except Error β) (y : β) (ok : (a >>= next) = .ok y) :
    ∃ x, a = .ok x ∧ next x = .ok y := by
  cases a with
  | error e => cases ok
  | ok x => exact ⟨x, rfl, ok⟩

theorem each_of_map_m (f : α → Except Error β) (items : List α) (results : List β) (ok : items.mapM f = .ok results) :
    List.Forall₂ (fun item result => f item = .ok result) items results := by
  induction items generalizing results with
  | nil =>
      cases ok
      exact .nil
  | cons item rest ih =>
      rw [List.mapM_cons] at ok
      obtain ⟨y, here, later⟩ := ok_of_bind _ _ _ ok
      obtain ⟨more, collected, same⟩ := ok_of_bind _ _ _ later
      cases same
      exact .cons here (ih more collected)

theorem map_m_of_each (f : α → Except Error β) {items : List α} {results : List β}
    (each : List.Forall₂ (fun item result => f item = .ok result) items results) : items.mapM f = .ok results := by
  induction each with
  | nil => rfl
  | cons here _ ih =>
      rw [List.mapM_cons, here, ih]
      rfl

theorem each_of_ok (f : α → Except Error β) (items : List α) (ok : ∀ x ∈ items, ∃ y, f x = .ok y) :
    ∃ results, List.Forall₂ (fun item result => f item = .ok result) items results := by
  induction items with
  | nil => exact ⟨[], .nil⟩
  | cons item rest ih =>
      obtain ⟨⟨y, here⟩, later⟩ := List.forall_mem_cons.mp ok
      obtain ⟨results, each⟩ := ih later
      exact ⟨y :: results, .cons here each⟩

theorem map_m_failing (f : α → Except Error β) (before after : List α) (x : α) (e : Error)
    (earlier : ∀ y ∈ before, ∃ z, f y = .ok z) (fails : f x = .error e) : (before ++ x :: after).mapM f = .error e := by
  obtain ⟨results, each⟩ := each_of_ok f before earlier
  rw [List.mapM_append, map_m_of_each f each, List.mapM_cons, fails]
  rfl

theorem ok_of_map_m (f : α → Except Error β) (items : List α) (results : List β) (ok : items.mapM f = .ok results) :
    ∀ x ∈ items, ∃ y, f x = .ok y := by
  have each := each_of_map_m f items results ok
  clear ok
  induction each with
  | nil => exact nofun
  | cons here _ ih => exact List.forall_mem_cons.mpr ⟨⟨_, here⟩, ih⟩

theorem mem_of_map_m (f : α → Except Error β) (items : List α) (results : List β) (ok : items.mapM f = .ok results) :
    ∀ y ∈ results, ∃ x ∈ items, f x = .ok y := by
  have each := each_of_map_m f items results ok
  clear ok
  induction each with
  | nil => exact nofun
  | cons here _ ih =>
      refine List.forall_mem_cons.mpr ⟨⟨_, List.mem_cons_self, here⟩, fun other member => ?_⟩
      obtain ⟨x, listed, found⟩ := ih other member
      exact ⟨x, List.mem_cons_of_mem _ listed, found⟩

theorem error_of_map_m (f : α → Except Error β) (items : List α) (e : Error) (failed : items.mapM f = .error e) :
    ∃ x ∈ items, f x = .error e := by
  induction items with
  | nil => cases failed
  | cons item rest ih =>
      rw [List.mapM_cons] at failed
      cases first : f item with
      | error other =>
          rw [first] at failed
          cases failed
          exact ⟨item, List.mem_cons_self, first⟩
      | ok y =>
          cases later : rest.mapM f with
          | ok more => rw [first, later] at failed; cases failed
          | error other =>
              rw [first, later] at failed
              cases failed
              obtain ⟨x, member, same⟩ := ih later
              exact ⟨x, List.mem_cons_of_mem _ member, same⟩

theorem map_m_congr (f g : α → Except Error β) (items : List α) (same : ∀ x ∈ items, f x = g x) :
    items.mapM f = items.mapM g := by
  induction items with
  | nil => rfl
  | cons item rest ih =>
      obtain ⟨here, later⟩ := List.forall_mem_cons.mp same
      rw [List.mapM_cons, List.mapM_cons, here, ih later]

theorem in_order_events (f : α → Answer β) (items : List α) (results : List β)
    (ok : (inOrder f items).outcome = .ok results) : (inOrder f items).events = items.flatMap fun x => (f x).events := by
  induction items generalizing results with
  | nil => rfl
  | cons item rest ih =>
      obtain ⟨x, here, later⟩ := ok_of_and_then _ _ _ ok
      obtain ⟨more, collected, _⟩ := ok_of_and_then _ _ _ later
      rw [inOrder, and_then_ok _ _ x here, and_then_ok _ _ more collected, List.flatMap_cons, ih more collected]
      simp [done]

theorem all_of_events (f : α → Answer β) (items : List α) : (allOf f items).events = items.flatMap fun x => (f x).events := by
  simp [allOf, List.flatMap_map]

theorem all_of_congr (f g : α → Answer β) (items : List α) (same : ∀ x ∈ items, f x = g x) :
    allOf f items = allOf g items := by
  unfold allOf
  rw [List.map_congr_left same]

section

variable (f : α → Answer β) (outcome : α → Except Error β) (items : List α)
  (quiet : ∀ x ∈ items, f x = ofExcept (outcome x))

include quiet

theorem in_order_quiet : inOrder f items = ofExcept (items.mapM outcome) := by
  induction items with
  | nil => rfl
  | cons item rest ih =>
      obtain ⟨here, later⟩ := List.forall_mem_cons.mp quiet
      rw [inOrder, here, ih later, List.mapM_cons, of_except_bind]
      congr 1
      funext x
      rw [of_except_bind]
      rfl

theorem all_of_quiet : allOf f items = ofExcept (items.mapM outcome) := by
  rw [all_of_congr f (fun x => ofExcept (outcome x)) items quiet]
  have outcomes := all_of_outcome (fun x => ofExcept (outcome x)) items
  have events : (allOf (fun x => ofExcept (outcome x)) items).events = [] := by
    simp [allOf, ofExcept]
  cases run : allOf (fun x => ofExcept (outcome x)) items with
  | mk result happened =>
      rw [run] at outcomes events
      cases outcomes
      cases events
      rfl

end

end TargetEval.Answer

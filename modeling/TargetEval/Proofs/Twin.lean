import Mathlib.Data.List.Forall2
import TargetEval.Proofs.Answers

set_option autoImplicit false

namespace TargetEval

variable {ε α β γ δ : Type}

inductive Alike (related : α → β → Prop) : Except ε α → Except ε β → Prop where
  | ok {x : α} {y : β} (same : related x y) : Alike related (.ok x) (.ok y)
  | error (e : ε) : Alike related (.error e) (.error e)

namespace Alike

theorem refl_of (related : α → α → Prop) (reflexive : ∀ x, related x x) (a : Except ε α) : Alike related a a := by
  cases a with
  | ok x => exact .ok (reflexive x)
  | error e => exact .error e

theorem bind {related : α → β → Prop} {after : γ → δ → Prop} {a : Except ε α} {b : Except ε β}
    {f : α → Except ε γ} {g : β → Except ε δ} (first : Alike related a b)
    (next : ∀ x y, related x y → Alike after (f x) (g y)) : Alike after (a >>= f) (b >>= g) := by
  cases first with
  | ok same => exact next _ _ same
  | error e => exact .error e

theorem bind_same {after : γ → δ → Prop} (a : Except ε α) {f : α → Except ε γ} {g : α → Except ε δ}
    (next : ∀ x, Alike after (f x) (g x)) : Alike after (a >>= f) (a >>= g) := by
  cases a with
  | ok x => exact next x
  | error e => exact .error e

theorem map_error {η : Type} {related : α → β → Prop} {a : Except ε α} {b : Except ε β} (f : ε → η)
    (same : Alike related a b) : Alike related (a.mapError f) (b.mapError f) := by
  cases same with
  | ok same => exact .ok same
  | error e => exact .error (f e)

theorem map_m {related : α → β → Prop} {after : γ → δ → Prop} {xs : List α} {ys : List β}
    {f : α → Except ε γ} {g : β → Except ε δ} (inputs : List.Forall₂ related xs ys)
    (each : ∀ x y, related x y → Alike after (f x) (g y)) :
    Alike (List.Forall₂ after) (xs.mapM f) (ys.mapM g) := by
  induction inputs with
  | nil => exact .ok .nil
  | cons same _ ih =>
      simp only [List.mapM_cons]
      exact (each _ _ same).bind fun _ _ head => ih.bind fun _ _ tail => .ok (.cons head tail)

theorem eq_of_eq {a b : Except ε α} (same : Alike Eq a b) : a = b := by
  cases same with
  | ok same => rw [same]
  | error e => rfl

theorem mono {related weaker : α → β → Prop} {a : Except ε α} {b : Except ε β} (same : Alike related a b)
    (weaken : ∀ x y, related x y → weaker x y) : Alike weaker a b := by
  cases same with
  | ok same => exact .ok (weaken _ _ same)
  | error e => exact .error e

end Alike

namespace Answer

structure Twin (related : α → β → Prop) (a : Answer α) (b : Answer β) : Prop where
  outcomes : Alike related a.outcome b.outcome
  sameEvents : a.events = b.events

namespace Twin

theorem done {related : α → β → Prop} {x : α} {y : β} (same : related x y) :
    Twin related (Answer.done x) (Answer.done y) := ⟨.ok same, rfl⟩

theorem fail (related : α → β → Prop) (e : Error) : Twin related (Answer.fail e) (Answer.fail e) := ⟨.error e, rfl⟩

theorem of_except {related : α → β → Prop} {a : Except Error α} {b : Except Error β} (same : Alike related a b) :
    Twin related (ofExcept a) (ofExcept b) := ⟨same, rfl⟩

theorem and_then {related : α → β → Prop} {after : γ → δ → Prop} {a : Answer α} {b : Answer β}
    {f : α → Answer γ} {g : β → Answer δ} (first : Twin related a b)
    (next : ∀ x y, related x y → Twin after (f x) (g y)) : Twin after (a.andThen f) (b.andThen g) := by
  obtain ⟨outcome, events⟩ := a
  obtain ⟨other, others⟩ := b
  obtain ⟨same, rfl⟩ := first
  cases same with
  | error e => exact ⟨.error e, rfl⟩
  | ok same =>
      have rest := next _ _ same
      exact ⟨rest.outcomes, congrArg (events ++ ·) rest.sameEvents⟩

theorem same_and_then {after : γ → δ → Prop} (a : Answer α) {f : α → Answer γ} {g : α → Answer δ}
    (next : ∀ x, Twin after (f x) (g x)) : Twin after (a.andThen f) (a.andThen g) := by
  have itself : Twin Eq a a := ⟨.refl_of Eq (fun _ => rfl) a.outcome, rfl⟩
  exact and_then itself fun x _ same => same ▸ next x

theorem succeeded_eq {related : α → β → Prop} {a : Answer α} {b : Answer β} (twin : Twin related a b) :
    a.succeeded = b.succeeded := by
  obtain ⟨outcome, events⟩ := a
  obtain ⟨other, others⟩ := b
  cases twin.outcomes with
  | ok same => rfl
  | error e => rfl

theorem followed_by {related : α → β → Prop} {a : Answer α} {b : Answer β} (twin : Twin related a b)
    (records : Bool) (event : Event) : Twin related (a.followedBy records event) (b.followedBy records event) := by
  cases records with
  | false => exact twin
  | true => exact ⟨twin.outcomes, congrArg (· ++ [event]) twin.sameEvents⟩

theorem in_order {related : α → β → Prop} {after : γ → δ → Prop} {xs : List α} {ys : List β}
    {f : α → Answer γ} {g : β → Answer δ} (inputs : List.Forall₂ related xs ys)
    (each : ∀ x ∈ xs, ∀ y, related x y → Twin after (f x) (g y)) :
    Twin (List.Forall₂ after) (inOrder f xs) (inOrder g ys) := by
  induction inputs with
  | nil => exact done .nil
  | cons same _ ih =>
      refine and_then (each _ (by simp) _ same) fun _ _ head => ?_
      exact and_then (ih fun x member => each x (by simp [member])) fun _ _ tail => done (.cons head tail)

theorem events_of_all {related : α → β → Prop} {as : List (Answer α)} {bs : List (Answer β)}
    (twins : List.Forall₂ (Twin related) as bs) : as.flatMap events = bs.flatMap events := by
  induction twins with
  | nil => rfl
  | cons twin _ ih => rw [List.flatMap_cons, List.flatMap_cons, twin.sameEvents, ih]

theorem all_of {related : α → β → Prop} {after : γ → δ → Prop} {xs : List α} {ys : List β}
    {f : α → Answer γ} {g : β → Answer δ} (inputs : List.Forall₂ related xs ys)
    (each : ∀ x ∈ xs, ∀ y, related x y → Twin after (f x) (g y)) :
    Twin (List.Forall₂ after) (allOf f xs) (allOf g ys) := by
  have answers : List.Forall₂ (Twin after) (xs.map f) (ys.map g) := by
    induction inputs with
    | nil => exact .nil
    | cons same _ ih =>
        exact .cons (each _ (by simp) _ same) (ih fun x member => each x (by simp [member]))
  exact ⟨Alike.map_m answers fun _ _ twin => twin.outcomes, events_of_all answers⟩

end Twin

end Answer

end TargetEval

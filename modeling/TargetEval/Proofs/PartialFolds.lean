import TargetEval.Proofs.FloatOrder
import TargetEval.Reducer.Basic

set_option autoImplicit false

namespace TargetEval.Reducer

structure Composes (r : Reducer) (numbers : Float → Prop) (join : Option Float → Option Float → Option Float) :
    Prop where
  numbered : ∀ v, v.isNaN = false → numbers v
  neutral : ∀ p, join none p = p
  single : ∀ v, v.isNaN = false → r.point? [v] = some v
  appended : ∀ xs ys, (∀ v ∈ xs ++ ys, numbers v) → r.point? (xs ++ ys) = join (r.point? xs) (r.point? ys)

theorem point_of_nothing (r : Reducer) : r.point? [] = none := by
  have nan : Binary64.notANumber.isNaN = true := rfl
  exact if_pos nan

theorem point_number (r : Reducer) (values : List Float) (v : Float) (folded : r.point? values = some v) :
    v.isNaN = false := by
  unfold point? at folded
  cases nan : (r.reduce values).isNaN with
  | true =>
      simp only [nan, if_true] at folded
      cases folded
  | false =>
      simp only [nan] at folded
      cases folded
      exact nan

theorem point_of_parts {r : Reducer} {numbers : Float → Prop} {join : Option Float → Option Float → Option Float}
    (composes : r.Composes numbers join) (parts : List (List Float)) (all : ∀ v ∈ parts.flatten, numbers v) :
    r.point? (parts.filterMap r.point?) = r.point? parts.flatten := by
  induction parts with
  | nil => rfl
  | cons part rest ih =>
      have later := ih fun v member => all v (by simp [member])
      rw [List.flatten_cons, composes.appended part rest.flatten (by simpa using all), ← later]
      cases folded : r.point? part with
      | none => rw [List.filterMap_cons_none folded, composes.neutral]
      | some v =>
          have number := r.point_number part v folded
          have folds : ∀ w ∈ [v] ++ rest.filterMap r.point?, numbers w := by
            intro w member
            rcases List.mem_append.mp member with head | tail
            · exact List.mem_singleton.mp head ▸ composes.numbered v number
            · obtain ⟨other, _, same⟩ := List.mem_filterMap.mp tail
              exact composes.numbered w (r.point_number other w same)
          rw [List.filterMap_cons_some folded, ← List.singleton_append, composes.appended _ _ folds,
            composes.single v number]

structure Prefers (better : Float → Float → Bool) : Prop where
  trans : ∀ a b c, better b a = true → better c b = true → better c a = true
  alike : ∀ a b c : Float, a.isNaN = false → b.isNaN = false → c.isNaN = false →
    better b a = false → better c b = false → better c a = false

theorem less_prefers : Prefers fun v best => v < best where
  trans a b c first second := by
    simp only [decide_eq_true_eq, Binary64.lt_iff_rank] at first second ⊢
    exact ⟨second.1, first.2.1, second.2.2.trans first.2.2⟩
  alike a b c na nb nc first second := by
    simp only [decide_eq_false_iff_not, Binary64.lt_iff_rank, na, nb, nc, true_and, not_lt] at first second ⊢
    exact first.trans second

theorem greater_prefers : Prefers fun v best => best < v where
  trans a b c first second := by
    simp only [decide_eq_true_eq, Binary64.lt_iff_rank] at first second ⊢
    exact ⟨first.1, second.2.1, first.2.2.trans second.2.2⟩
  alike a b c na nb nc first second := by
    simp only [decide_eq_false_iff_not, Binary64.lt_iff_rank, na, nb, nc, true_and, not_lt] at first second ⊢
    exact second.trans first

-- A value as a point: NaN is absent.
def number? (v : Float) : Option Float := if v.isNaN then none else some v

section

variable (better : Float → Float → Bool)

def preferred (best v : Float) : Float := if v.isNaN then best else if best.isNaN || better v best then v else best

def pick : Option Float → Option Float → Option Float
  | none, p => p
  | some a, none => some a
  | some a, some b => if better b a then some b else some a

theorem number_of (v : Float) (number : v.isNaN = false) : number? v = some v :=
  if_neg (ne_true_of_eq_false number)

theorem number_nan (v : Float) (nan : v.isNaN = true) : number? v = none := if_pos nan

theorem pick_none (p : Option Float) : pick better p none = p := by
  cases p with
  | none => rfl
  | some v => rfl

theorem preferred_pick (a b : Float) : number? (preferred better a b) = pick better (number? a) (number? b) := by
  cases second : b.isNaN with
  | true =>
      rw [number_nan b second, pick_none]
      exact congrArg number? (if_pos second)
  | false =>
      have kept : preferred better a b = if a.isNaN || better b a then b else a :=
        if_neg (ne_true_of_eq_false second)
      rw [kept, number_of b second]
      cases first : a.isNaN with
      | true =>
          rw [number_nan a first, Bool.true_or, if_pos rfl, number_of b second]
          rfl
      | false =>
          rw [number_of a first, Bool.false_or]
          cases wins : better b a with
          | true => simp only [if_true, pick, wins, number_of b second]
          | false => simp only [Bool.false_eq_true, if_false, pick, wins, number_of a first]

variable {better} (prefers : Prefers better)

include prefers

theorem pick_assoc (a b c : Float) :
    pick better (pick better (number? a) (number? b)) (number? c) =
      pick better (number? a) (pick better (number? b) (number? c)) := by
  by_cases na : a.isNaN = true
  · rw [number_nan a na]
    rfl
  by_cases nb : b.isNaN = true
  · rw [number_nan b nb, pick_none]
    rfl
  by_cases nc : c.isNaN = true
  · rw [number_nan c nc, pick_none, pick_none]
  rw [Bool.not_eq_true] at na nb nc
  rw [number_of a na, number_of b nb, number_of c nc]
  -- The third value meets either the winner of the first two or the second alone.
  cases first : better b a with
  | true =>
      cases second : better c b with
      | true => simp [pick, first, second, prefers.trans a b c first second]
      | false => simp [pick, first, second]
  | false =>
      cases second : better c b with
      | true => simp [pick, first, second]
      | false => simp [pick, first, second, prefers.alike a b c na nb nc first second]

theorem fold_from (values : List Float) (best : Float) :
    number? (values.foldl (preferred better) best) = pick better (number? best) (number? (extreme better values)) := by
  have empty : number? Binary64.notANumber = none := rfl
  induction values generalizing best with
  | nil =>
      change number? best = pick better (number? best) (number? Binary64.notANumber)
      rw [empty, pick_none]
  | cons v rest ih =>
      have head : number? (preferred better Binary64.notANumber v) = number? v := by
        rw [preferred_pick, empty]
        rfl
      have whole : extreme better (v :: rest) = rest.foldl (preferred better) (preferred better Binary64.notANumber v) := rfl
      rw [whole, List.foldl_cons, ih, ih, preferred_pick, head, pick_assoc prefers]

theorem extreme_composes (r : Reducer) (folds : ∀ values, r.point? values = number? (extreme better values)) :
    r.Composes (fun _ => True) (pick better) where
  numbered _ _ := trivial
  neutral _ := rfl
  single v number := by
    rw [folds]
    exact (preferred_pick better _ v).trans (number_of v number ▸ rfl)
  appended xs ys _ := by
    have whole : extreme better (xs ++ ys) = ys.foldl (preferred better) (extreme better xs) := by
      simp only [extreme, List.foldl_append]
      rfl
    rw [folds, folds, folds, whole, fold_from prefers]

end

theorem point_nonempty (r : Reducer) (values : List Float) (empty : (r.fold []).isNaN = true) :
    r.point? values = number? (r.fold values) := by
  cases values with
  | nil => rw [point_of_nothing, number_nan _ empty]
  | cons v rest => rfl

theorem min_composes : min.Composes (fun _ => True) (pick fun v best => v < best) :=
  extreme_composes less_prefers min fun values => point_nonempty min values rfl

theorem max_composes : max.Composes (fun _ => True) (pick fun v best => best < v) :=
  extreme_composes greater_prefers max fun values => point_nonempty max values rfl

theorem last_point (values : List Float) (numbers : ∀ v ∈ values, v.isNaN = false) :
    last.point? values = values.getLast? := by
  rw [point_nonempty last values rfl]
  cases ending : values.getLast? with
  | none => simp only [fold, ending]; rfl
  | some v =>
      simp only [fold, ending, Option.getD_some]
      exact number_of v (numbers v (List.mem_of_getLast? ending))

theorem last_composes : last.Composes (fun v => v.isNaN = false) fun first second => second.or first where
  numbered _ number := number
  neutral _ := Option.or_none
  single v number := last_point [v] (by simpa using number)
  appended xs ys all := by
    rw [last_point _ all, last_point xs fun v member => all v (List.mem_append_left ys member),
      last_point ys fun v member => all v (List.mem_append_right xs member), List.getLast?_append]

end TargetEval.Reducer

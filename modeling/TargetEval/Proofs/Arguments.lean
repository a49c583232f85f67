import TargetEval.Expr.Argument
import TargetEval.Proofs.Answers

set_option autoImplicit false

namespace TargetEval

def Expr.IsInteger (e : Expr) (n : Int64) : Prop :=
  ∃ value whole, e = .number value ∧ Binary64.integer? value = some whole ∧ n = Bounded.clamp whole

namespace Call

variable (c : Call Expr) (index : Nat) (name : String)

theorem argument_ok (expected : ArgumentType) (e : Expr) :
    c.argument index name expected = .ok e ↔ c.arguments[index]? = some e := by
  unfold argument
  cases c.arguments[index]? <;> simp

theorem series_ok (e : Expr) (here : c.arguments[index]? = some e) (series : e.isSeries = true) :
    c.seriesArgument index name = .ok e := by
  rw [seriesArgument, (c.argument_ok index name _ e).mpr here, Answer.ok_bind, if_pos series]
  rfl

theorem string_ok (text : String) :
    c.stringArgument index name = .ok text ↔ c.arguments[index]? = some (.string text) := by
  unfold stringArgument argument
  cases c.arguments[index]? with
  | none => simp
  | some e => cases e <;> simp [pure, Except.pure]

theorem integer_of_ok (e : Expr) (n : Int64) : c.integerOf index name e = .ok n ↔ e.IsInteger n := by
  unfold integerOf Expr.IsInteger
  cases e with
  | number value => cases whole : Binary64.integer? value <;> simp [whole, eq_comm (a := n)]
  | _ => simp

theorem integer_ok (n : Int64) :
    c.integerArgument index name = .ok n ↔ ∃ e, c.arguments[index]? = some e ∧ e.IsInteger n := by
  unfold integerArgument
  constructor
  · intro ok
    obtain ⟨e, here, whole⟩ := Answer.ok_of_bind _ _ _ ok
    exact ⟨e, (c.argument_ok index name _ e).mp here, (c.integer_of_ok index name e n).mp whole⟩
  · rintro ⟨e, here, whole⟩
    rw [(c.argument_ok index name _ e).mpr here, Answer.ok_bind]
    exact (c.integer_of_ok index name e n).mpr whole

theorem integers_of_ok (arguments : List Expr) (numbers : List Int64) :
    c.integersOf name index arguments = .ok numbers ↔ List.Forall₂ Expr.IsInteger arguments numbers := by
  induction arguments generalizing index numbers with
  | nil => simp [integersOf, eq_comm]
  | cons e rest ih =>
      rw [integersOf]
      constructor
      · intro ok
        obtain ⟨n, here, later⟩ := Answer.ok_of_bind _ _ _ ok
        obtain ⟨more, collected, same⟩ := Answer.ok_of_bind _ _ _ later
        cases same
        exact .cons ((c.integer_of_ok index name e n).mp here) ((ih (index + 1) more).mp collected)
      · intro each
        cases each with
        | cons here later =>
            rw [(c.integer_of_ok index name e _).mpr here, Answer.ok_bind, (ih (index + 1) _).mpr later]
            rfl

theorem integers_from_ok (numbers : List Int64) :
    c.integersFrom index name = .ok numbers ↔
      c.arguments.drop index ≠ [] ∧ List.Forall₂ Expr.IsInteger (c.arguments.drop index) numbers := by
  rw [← c.integers_of_ok index name, integersFrom, ne_eq, List.drop_eq_nil_iff, Nat.not_le]
  constructor
  · intro ok
    obtain ⟨e, here, whole⟩ := Answer.ok_of_bind _ _ _ ok
    obtain ⟨inside, _⟩ := List.getElem?_eq_some_iff.mp ((c.argument_ok index name _ e).mp here)
    exact ⟨inside, whole⟩
  · rintro ⟨inside, whole⟩
    rw [(c.argument_ok index name _ _).mpr (List.getElem?_eq_getElem inside), Answer.ok_bind]
    exact whole

theorem is_given_named : c.isGiven name index = (c.named? name index).isSome := by
  rw [isGiven, named?, Option.isSome_or, ByName.contains, Bool.eq_iff_iff]
  simp

theorem string_or_ok (default value : String) :
    c.stringOr name index default = .ok value ↔ (c.named? name index).getD (.string default) = .string value := by
  unfold stringOr
  cases c.named? name index with
  | none => simp
  | some e => cases e <;> simp

theorem boolean_or_ok (default value : Bool) :
    c.booleanOr name index default = .ok value ↔ (c.named? name index).getD (.boolean default) = .boolean value := by
  unfold booleanOr
  cases c.named? name index with
  | none => simp
  | some e => cases e <;> simp

theorem interval_ok (defaultSign : Int) (seconds : Seconds) :
    c.intervalArgument index name defaultSign = .ok seconds ↔
      ∃ text, c.arguments[index]? = some (.string text) ∧ Interval.read text defaultSign = .ok seconds := by
  unfold intervalArgument argument
  cases c.arguments[index]? with
  | none => simp
  | some e =>
      cases e with
      | string text =>
          simp only [Answer.ok_bind, Option.some.injEq, Expr.string.injEq, exists_eq_left']
          cases Interval.read text defaultSign with
          | ok found => simp [pure, Except.pure]
          | error fault => simp
      | metric _ _ => simp
      | call _ => simp
      | number _ => simp
      | boolean _ => simp

end Call

end TargetEval

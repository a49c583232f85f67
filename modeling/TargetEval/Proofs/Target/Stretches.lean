import TargetEval.Proofs.Replacements
import TargetEval.Proofs.Target.Phrase

set_option autoImplicit false

namespace TargetEval.Target

structure Stretch where
  isMetric : Bool
  chars : List Char
deriving DecidableEq

namespace Stretch

def metric (name : List Char) : Stretch := ⟨true, name⟩

def between (cs : List Char) : Stretch := ⟨false, cs⟩

def text (stretches : List Stretch) : List Char := stretches.flatMap chars

def renamed (old new : List Char) (s : Stretch) : Stretch := if s = metric old then metric new else s

-- In no other stretch than a metric of the name does an occurrence of the name begin.
def Apart (old : List Char) : List Stretch → Prop
  | [] => True
  | s :: rest =>
      (s = metric old ∨ ∀ k < s.chars.length, ¬ old <+: s.chars.drop k ++ text rest) ∧ Apart old rest

instance decidableApart (old : List Char) : (stretches : List Stretch) → Decidable (Apart old stretches)
  | [] => .isTrue trivial
  | s :: rest =>
      have := decidableApart old rest
      inferInstanceAs
        (Decidable ((s = metric old ∨ ∀ k < s.chars.length, ¬ old <+: s.chars.drop k ++ text rest) ∧ Apart old rest))

@[simp] theorem metric_chars (name : List Char) : (metric name).chars = name := rfl

@[simp] theorem between_chars (cs : List Char) : (between cs).chars = cs := rfl

@[simp] theorem text_nil : text [] = [] := rfl

@[simp] theorem text_cons (s : Stretch) (rest : List Stretch) : text (s :: rest) = s.chars ++ text rest := rfl

@[simp] theorem text_append (xs ys : List Stretch) : text (xs ++ ys) = text xs ++ text ys := List.flatMap_append

@[simp] theorem renamed_between (old new cs : List Char) : (between cs).renamed old new = between cs := by
  simp [renamed, between, metric]

theorem apart_front (old : List Char) (xs ys : List Stretch) (apart : Apart old (xs ++ ys)) : Apart old xs := by
  induction xs with
  | nil => exact trivial
  | cons s rest ih =>
      obtain ⟨here, later⟩ := apart
      refine ⟨here.imp_right fun clear k short begins => ?_, ih later⟩
      apply clear k short
      change old <+: s.chars.drop k ++ text (rest ++ ys)
      rw [text_append, ← List.append_assoc]
      exact begins.trans (List.prefix_append _ _)

theorem apart_back (old : List Char) (xs ys : List Stretch) (apart : Apart old (xs ++ ys)) : Apart old ys := by
  induction xs with
  | nil => exact apart
  | cons s rest ih => exact ih apart.2

theorem replaced (old new : List Char) (occupied : old ≠ []) (stretches : List Stretch) (apart : Apart old stretches) :
    replaceFrom old new 0 (text stretches) = text (stretches.map (renamed old new)) := by
  induction stretches with
  | nil => rfl
  | cons s rest ih =>
      obtain ⟨here, later⟩ := apart
      rw [List.map_cons, text_cons, text_cons, ← ih later]
      by_cases same : s = metric old
      · rw [renamed, if_pos same, same]
        exact replace_here old new occupied (text rest)
      · rw [renamed, if_neg same]
        exact replace_past old new s.chars (text rest) (here.resolve_left same)

end Stretch

variable {Name : List Char → Prop}

mutual

def Phrase.stretches : Phrase Name → List Stretch
  | .metric name _ => [.metric name]
  | .number n => [.between n.chars]
  | .string q => [.between q.chars]
  | .boolean w => [.between w.letters]
  | .call name gap lead inside trail =>
      .between (name.chars ++ (gap.1 ++ '(' :: lead.1)) :: (inside.stretches ++ [.between (trail.1 ++ [')'])])

def Inside.stretches : Inside Name → List Stretch
  | .nothing => []
  | .items first more => first.stretches ++ more.stretches

def Item.stretches : Item Name → List Stretch
  | .positional value => value.stretches
  | .named key before after value => .between (key.chars ++ (before.1 ++ '=' :: after.1)) :: value.stretches

def Further.stretches : Further Name → List Stretch
  | .nothing => []
  | .next before after item more => .between (before.1 ++ ',' :: after.1) :: (item.stretches ++ more.stretches)

end

mutual

theorem Phrase.text_stretches (p : Phrase Name) : Stretch.text p.stretches = p.chars := by
  match p with
  | .metric _ _ => simp [Phrase.stretches, Phrase.chars]
  | .number _ => simp [Phrase.stretches, Phrase.chars]
  | .string _ => simp [Phrase.stretches, Phrase.chars]
  | .boolean _ => simp [Phrase.stretches, Phrase.chars]
  | .call name gap lead inside trail =>
      simp [Phrase.stretches, Phrase.chars, inside.text_stretches]

theorem Inside.text_stretches (inside : Inside Name) : Stretch.text inside.stretches = inside.chars := by
  match inside with
  | .nothing => rfl
  | .items first more => rw [Inside.stretches, Stretch.text_append, first.text_stretches, more.text_stretches, Inside.chars]

theorem Item.text_stretches (item : Item Name) : Stretch.text item.stretches = item.chars := by
  match item with
  | .positional value => exact value.text_stretches
  | .named key before after value =>
      simp [Item.stretches, Item.chars, value.text_stretches]

theorem Further.text_stretches (more : Further Name) : Stretch.text more.stretches = more.chars := by
  match more with
  | .nothing => rfl
  | .next before after item later =>
      simp [Further.stretches, Further.chars, item.text_stretches, later.text_stretches]

end

section

variable (old new : List Char) (valid : Name new)

mutual

def Phrase.renamed : Phrase Name → Phrase Name
  | .metric name isName => if name = old then .metric new valid else .metric name isName
  | .number n => .number n
  | .string q => .string q
  | .boolean w => .boolean w
  | .call name gap lead inside trail => .call name gap lead inside.renamed trail

def Inside.renamed : Inside Name → Inside Name
  | .nothing => .nothing
  | .items first more => .items first.renamed more.renamed

def Item.renamed : Item Name → Item Name
  | .positional value => .positional value.renamed
  | .named key before after value => .named key before after value.renamed

def Further.renamed : Further Name → Further Name
  | .nothing => .nothing
  | .next before after item more => .next before after item.renamed more.renamed

end

mutual

theorem Phrase.stretches_renamed (p : Phrase Name) :
    (p.renamed old new valid).stretches = p.stretches.map (Stretch.renamed old new) := by
  match p with
  | .metric name _ =>
      by_cases same : name = old
      · simp [Phrase.renamed, Phrase.stretches, Stretch.renamed, same]
      · simp [Phrase.renamed, Phrase.stretches, Stretch.renamed, Stretch.metric, same]
  | .number _ => simp [Phrase.renamed, Phrase.stretches]
  | .string _ => simp [Phrase.renamed, Phrase.stretches]
  | .boolean _ => simp [Phrase.renamed, Phrase.stretches]
  | .call name gap lead inside trail =>
      simp [Phrase.renamed, Phrase.stretches, inside.stretches_renamed]

theorem Inside.stretches_renamed (inside : Inside Name) :
    (inside.renamed old new valid).stretches = inside.stretches.map (Stretch.renamed old new) := by
  match inside with
  | .nothing => rfl
  | .items first more =>
      simp [Inside.renamed, Inside.stretches, first.stretches_renamed, more.stretches_renamed]

theorem Item.stretches_renamed (item : Item Name) :
    (item.renamed old new valid).stretches = item.stretches.map (Stretch.renamed old new) := by
  match item with
  | .positional value => exact value.stretches_renamed
  | .named key before after value =>
      simp [Item.renamed, Item.stretches, value.stretches_renamed]

theorem Further.stretches_renamed (more : Further Name) :
    (more.renamed old new valid).stretches = more.stretches.map (Stretch.renamed old new) := by
  match more with
  | .nothing => rfl
  | .next before after item later =>
      simp [Further.renamed, Further.stretches, item.stretches_renamed, later.stretches_renamed]

end

theorem Inside.replaced (occupied : old ≠ []) (inside : Inside Name) (apart : Stretch.Apart old inside.stretches) :
    replaceChars old new inside.chars = (inside.renamed old new valid).chars := by
  rw [replace_chars old new occupied, ← inside.text_stretches, ← Inside.text_stretches, inside.stretches_renamed]
  exact Stretch.replaced old new occupied inside.stretches apart

end

end TargetEval.Target

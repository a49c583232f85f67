import TargetEval.Target.Reading

/-!
Target expressions as they can be written: their leaves, and calls with white space wherever it may
stand. A phrase knows its text and the tree that the text stands for, so reading can be compared
with both.
-/

set_option autoImplicit false

namespace TargetEval.Target

abbrev Space := { cs : List Char // ∀ c ∈ cs, Cursor.isSpace c = true }

def noSpace : Space := ⟨[], by simp⟩

structure Identifier where
  first : Char
  rest : List Char
  starts : (first.isAlpha || first = '_') = true
  continues : ∀ c ∈ rest, (c.isAlphanum || c = '_') = true

def Identifier.chars (i : Identifier) : List Char := i.first :: i.rest

def Identifier.name (i : Identifier) : String := String.ofList i.chars

abbrev Sign := Option Bool

def Sign.chars : Sign → List Char
  | none => []
  | some true => ['-']
  | some false => ['+']

def Sign.isMinus (sign : Sign) : Bool := sign.getD false

structure Mantissa where
  whole : List Char
  decimals : Option (List Char)
  wholeDigits : ∀ c ∈ whole, c.isDigit = true
  decimalDigits : ∀ c ∈ decimals.getD [], c.isDigit = true
  occupied : whole ++ decimals.getD [] ≠ []

def Mantissa.chars (m : Mantissa) : List Char :=
  m.whole ++
    match m.decimals with
    | none => []
    | some digits => '.' :: digits

def isPowerMark (c : Char) : Prop := c = 'e' ∨ c = 'E'

structure Power where
  mark : Char
  sign : Sign
  digits : List Char
  marks : isPowerMark mark
  areDigits : ∀ c ∈ digits, c.isDigit = true
  occupied : digits ≠ []

def Power.chars (p : Power) : List Char := p.mark :: (p.sign.chars ++ p.digits)

def Power.value (p : Power) : Int :=
  if p.sign.isMinus then -(Decimal.ofDigits p.digits : Int) else Decimal.ofDigits p.digits

structure Numeral where
  sign : Sign
  mantissa : Mantissa
  power : Option Power

namespace Numeral

def powerChars : Option Power → List Char
  | none => []
  | some power => power.chars

def powerValue : Option Power → Int
  | none => 0
  | some power => power.value

def chars (n : Numeral) : List Char := n.sign.chars ++ (n.mantissa.chars ++ powerChars n.power)

def value (n : Numeral) : Float :=
  let decimals := n.mantissa.decimals.getD []
  Decimal.toFloat
    ⟨n.sign.isMinus, Decimal.ofDigits (n.mantissa.whole ++ decimals), powerValue n.power - decimals.length⟩

end Numeral

structure Word where
  letters : List Char
  value : Bool
  spelled : letters.map Char.toLower = if value then ['t', 'r', 'u', 'e'] else ['f', 'a', 'l', 's', 'e']

structure Quotation where
  quote : Char
  content : List Char
  isQuote : quote = '\'' ∨ quote = '"'
  free : quote ∉ content

def Quotation.chars (q : Quotation) : List Char := q.quote :: (q.content ++ [q.quote])

inductive Pattern : List Char → Prop where
  | nil : Pattern []
  | char (c : Char) (rest : List Char) (named : MetricName.isNameChar c = true) (later : Pattern rest) :
      Pattern (c :: rest)
  | group (inside rest : List Char) (closed : ∀ c ∈ inside, c ≠ '}' ∧ c ≠ '(') (later : Pattern rest) :
      Pattern ('{' :: (inside ++ '}' :: rest))

inductive Literal : List Char → Expr → Prop where
  | number (n : Numeral) : Literal n.chars (.number n.value)
  | boolean (w : Word) : Literal w.letters (.boolean w.value)

def unsigned : List Char → List Char
  | '-' :: rest => rest
  | '+' :: rest => rest
  | cs => cs

-- The text begins as a number with a power of ten that lacks its digits.
def Unfinished (cs : List Char) : Prop :=
  ∃ (sign : Sign) (m : Mantissa) (mark : Char) (after : List Char),
    cs = sign.chars ++ (m.chars ++ mark :: after) ∧ isPowerMark mark ∧ (unsigned after).head?.any Char.isDigit = false

-- The patterns that are read as metrics. A literal may stand in front only if more name characters
-- follow it.
structure IsMetric (cs : List Char) : Prop where
  pattern : Pattern cs
  occupied : cs ≠ []
  runsOn : ∀ literal e tail, Literal literal e → cs = literal ++ tail → tail.head?.any MetricName.isNameChar = true
  finished : ¬ Unfinished cs

mutual

/-- An expression as written. `Name` says which texts may stand for metrics. -/
inductive Phrase (Name : List Char → Prop) where
  | metric (name : List Char) (valid : Name name)
  | number (n : Numeral)
  | string (q : Quotation)
  | boolean (w : Word)
  | call (name : Identifier) (gap lead : Space) (inside : Inside Name) (trail : Space)

inductive Inside (Name : List Char → Prop) where
  | nothing
  | items (first : Item Name) (more : Further Name)

inductive Item (Name : List Char → Prop) where
  | positional (value : Phrase Name)
  | named (key : Identifier) (before after : Space) (value : Phrase Name)

inductive Further (Name : List Char → Prop) where
  | nothing
  | next (before after : Space) (item : Item Name) (more : Further Name)

end

variable {Name : List Char → Prop}

mutual

def Phrase.chars : Phrase Name → List Char
  | .metric name _ => name
  | .number n => n.chars
  | .string q => q.chars
  | .boolean w => w.letters
  | .call name gap lead inside trail =>
      name.chars ++ (gap.1 ++ '(' :: (lead.1 ++ (inside.chars ++ (trail.1 ++ [')']))))

def Inside.chars : Inside Name → List Char
  | .nothing => []
  | .items first more => first.chars ++ more.chars

def Item.chars : Item Name → List Char
  | .positional value => value.chars
  | .named key before after value => key.chars ++ (before.1 ++ '=' :: (after.1 ++ value.chars))

def Further.chars : Further Name → List Char
  | .nothing => []
  | .next before after item more => before.1 ++ ',' :: (after.1 ++ (item.chars ++ more.chars))

end

mutual

def Phrase.tree : Phrase Name → (offset : Nat) → Expr
  | .metric name _, offset => .metric (String.ofList name) offset
  | .number n, _ => .number n.value
  | .string q, _ => .string (String.ofList q.content)
  | .boolean w, _ => .boolean w.value
  | .call name gap lead inside _, offset =>
      let start := offset + byteLength (name.chars ++ (gap.1 ++ '(' :: lead.1))
      .call
        { name := name.name
          arguments := inside.values start
          named := ByName.ofList (inside.entries start)
          argumentText := String.ofList inside.chars
          position := offset }

def Inside.values : Inside Name → (offset : Nat) → List Expr
  | .nothing, _ => []
  | .items first more, offset => first.values offset ++ more.values (offset + byteLength first.chars)

def Item.values : Item Name → (offset : Nat) → List Expr
  | .positional value, offset => [value.tree offset]
  | .named _ _ _ _, _ => []

def Further.values : Further Name → (offset : Nat) → List Expr
  | .nothing, _ => []
  | .next before after item more, offset =>
      let start := offset + byteLength (before.1 ++ ',' :: after.1)
      item.values start ++ more.values (start + byteLength item.chars)

def Inside.entries : Inside Name → (offset : Nat) → List (String × Expr)
  | .nothing, _ => []
  | .items first more, offset => first.entries offset ++ more.entries (offset + byteLength first.chars)

def Item.entries : Item Name → (offset : Nat) → List (String × Expr)
  | .positional _, _ => []
  | .named key before after value, offset =>
      [(key.name, value.tree (offset + byteLength (key.chars ++ (before.1 ++ '=' :: after.1))))]

def Further.entries : Further Name → (offset : Nat) → List (String × Expr)
  | .nothing, _ => []
  | .next before after item more, offset =>
      let start := offset + byteLength (before.1 ++ ',' :: after.1)
      item.entries start ++ more.entries (start + byteLength item.chars)

end

def Item.argument : Item Name → (offset : Nat) → Argument
  | .positional value, offset => .positional (value.tree offset)
  | .named key before after value, offset =>
      .named key.name (value.tree (offset + byteLength (key.chars ++ (before.1 ++ '=' :: after.1))))

def Further.arguments : Further Name → (offset : Nat) → List Argument
  | .nothing, _ => []
  | .next before after item more, offset =>
      let start := offset + byteLength (before.1 ++ ',' :: after.1)
      item.argument start :: more.arguments (start + byteLength item.chars)

def Inside.arguments : Inside Name → (offset : Nat) → List Argument
  | .nothing, _ => []
  | .items first more, offset => first.argument offset :: more.arguments (offset + byteLength first.chars)

def namedPairs (all : List Argument) : List (String × Expr) :=
  all.filterMap fun
    | .positional _ => none
    | .named name e => some (name, e)

theorem positional_cons (item : Item Name) (o : Nat) (rest : List Argument) :
    positionalOf (item.argument o :: rest) = item.values o ++ positionalOf rest := by
  cases item <;> simp [Item.values, Item.argument, positionalOf]

theorem named_cons (item : Item Name) (o : Nat) (rest : List Argument) :
    namedPairs (item.argument o :: rest) = item.entries o ++ namedPairs rest := by
  cases item <;> simp [Item.entries, Item.argument, namedPairs]

theorem further_arguments (more : Further Name) (o : Nat) :
    positionalOf (more.arguments o) = more.values o ∧ namedPairs (more.arguments o) = more.entries o := by
  match more with
  | .nothing => exact ⟨rfl, rfl⟩
  | .next before after item later =>
      obtain ⟨values, entries⟩ := further_arguments later (o + byteLength (before.1 ++ ',' :: after.1) + byteLength item.chars)
      simp only [Further.arguments, positional_cons, named_cons, values, entries, Further.values, Further.entries, and_self]

theorem inside_arguments (inside : Inside Name) (o : Nat) :
    positionalOf (inside.arguments o) = inside.values o ∧
      namedOf (inside.arguments o) = ByName.ofList (inside.entries o) := by
  cases inside with
  | nothing => exact ⟨rfl, rfl⟩
  | items first more =>
      obtain ⟨values, entries⟩ := further_arguments more (o + byteLength first.chars)
      refine ⟨?_, congrArg ByName.ofList ?_⟩
      · rw [Inside.arguments, positional_cons, values, Inside.values]
      · exact (named_cons first o _).trans (by rw [entries, Inside.entries])

theorem call_tree (name : Identifier) (gap lead : Space) (inside : Inside Name) (trail : Space) (o : Nat) :
    (Phrase.call name gap lead inside trail).tree o =
      let all := inside.arguments (o + byteLength (name.chars ++ (gap.1 ++ '(' :: lead.1)))
      .call
        { name := name.name
          arguments := positionalOf all
          named := namedOf all
          argumentText := String.ofList inside.chars
          position := o } := by
  obtain ⟨values, entries⟩ := inside_arguments inside (o + byteLength (name.chars ++ (gap.1 ++ '(' :: lead.1)))
  simp only [Phrase.tree, values, entries]

end TargetEval.Target

import TargetEval.Expr.Basic
import TargetEval.Number.Decimal
import TargetEval.Target.Cursor
import TargetEval.Target.MetricName

set_option autoImplicit false

namespace TargetEval.Target

def declinedAt {α : Type} (c : Cursor) : Outcome α := .declined ⟨c.offset, .delimiter⟩

def character (expected : Char) (c : Cursor) : Outcome Unit :=
  if c.rest.head? = some expected then .accepted () (c.skip 1) else declinedAt c

def endsHere (c : Cursor) : Bool := !c.rest.head?.any MetricName.isNameChar

def numberSign (c : Cursor) : Bool × Cursor :=
  match c.rest.head? with
  | some '-' => (true, c.skip 1)
  | some '+' => (false, c.skip 1)
  | _ => (false, c)

def mantissa (c : Cursor) : Outcome (List Char × List Char) :=
  let whole := c.run Char.isDigit
  let afterWhole := c.skipRun Char.isDigit
  if afterWhole.rest.head? = some '.' then
    let afterPoint := afterWhole.skip 1
    let decimals := afterPoint.run Char.isDigit
    if whole.isEmpty && decimals.isEmpty then declinedAt afterPoint
    else .accepted (whole, decimals) (afterPoint.skipRun Char.isDigit)
  else if whole.isEmpty then declinedAt c
  else .accepted (whole, []) afterWhole

def exponent (c : Cursor) (start : Nat) : Outcome Int :=
  if c.rest.head? = some 'e' || c.rest.head? = some 'E' then
    let (negative, afterSign) := numberSign (c.skip 1)
    let digits := afterSign.run Char.isDigit
    if digits.isEmpty then .refused ⟨start, .exponent⟩
    else
      let n : Int := Decimal.ofDigits digits
      .accepted (if negative then -n else n) (afterSign.skipRun Char.isDigit)
  else .accepted 0 c

def numeral (c : Cursor) : Outcome Decimal :=
  let (negative, unsigned) := numberSign c
  (mantissa unsigned).andThen fun (whole, decimals) afterMantissa =>
    (exponent afterMantissa c.offset).andThen fun power next =>
      .accepted ⟨negative, Decimal.ofDigits (whole ++ decimals), power - decimals.length⟩ next

def number (c : Cursor) : Outcome Expr :=
  (numeral c).andThen fun decimal next =>
    if endsHere next then .accepted (.number decimal.toFloat) next else declinedAt next

def word (expected : List Char) (value : Bool) (c : Cursor) : Outcome Expr :=
  if (c.rest.take expected.length).map Char.toLower = expected then
    let next := c.skip expected.length
    if endsHere next then .accepted (.boolean value) next else declinedAt next
  else declinedAt c

def boolean (c : Cursor) : Outcome Expr :=
  word ['t', 'r', 'u', 'e'] true c <|> word ['f', 'a', 'l', 's', 'e'] false c

def quotedBy (quote : Char) (c : Cursor) : Outcome Expr :=
  (character quote c).andThen fun _ start =>
    (character quote (start.skipRun (· ≠ quote))).andThen fun _ next =>
      .accepted (.string (String.ofList (start.run (· ≠ quote)))) next

def string (c : Cursor) : Outcome Expr := quotedBy '\'' c <|> quotedBy '"' c

def braceGroup (c : Cursor) : Outcome Unit :=
  (character '{' c).andThen fun _ start => character '}' (start.skipRun fun x => x ≠ '}' && x ≠ '(')

def piece (c : Cursor) : Outcome Unit :=
  if (c.run MetricName.isNameChar).isEmpty then braceGroup c
  else .accepted () (c.skipRun MetricName.isNameChar)

def pieces : (room : Nat) → Cursor → Cursor
  | 0, c => c
  | room + 1, c =>
      match piece c with
      | .accepted _ next => pieces room next
      | _ => c

def metric (c : Cursor) : Outcome Expr :=
  (piece c).andThen fun _ next =>
    let stop := pieces next.rest.length next
    .accepted (.metric (String.ofList (c.upTo stop)) c.offset) stop

end TargetEval.Target

import TargetEval.Number.Bounded
import TargetEval.Number.Numeral
import TargetEval.Text.Basic
import TargetEval.Toml.Table

set_option autoImplicit false

namespace TargetEval.Toml

def moreDigits (isDigit : Char → Bool) : Reader (List Char)
  | [] => some ([], [])
  | c :: rest =>
      if isDigit c then (moreDigits isDigit rest).map fun (digits, stop) => (c :: digits, stop)
      else
        match c, rest with
        | '_', digit :: behind =>
            if isDigit digit then
              (moreDigits isDigit behind).map fun (digits, stop) => (digit :: digits, stop)
            else none
        | _, _ => some ([], c :: rest)

def digits (isDigit : Char → Bool) : Reader (List Char)
  | [] => none
  | c :: rest =>
      if isDigit c then (moreDigits isDigit rest).map fun (digits, stop) => (c :: digits, stop) else none

def integer (n : Int) : Option Value := (Bounded.ofInt? n).map .integer

def basedInteger (base : Nat) : Reader Value := fun cs => do
  let isDigit (c : Char) : Bool := (hexValue? c).any (· < base)
  let (run, rest) ← digits isDigit cs
  let n := run.foldl (fun n c => base * n + (hexValue? c).getD 0) 0
  return (← integer n, rest)

def sign : List Char → Bool × List Char
  | '-' :: rest => (true, rest)
  | '+' :: rest => (false, rest)
  | cs => (false, cs)

def wholePart : Reader (List Char)
  | '0' :: rest => some (['0'], rest)
  | cs => digits Char.isDigit cs

def decimalPart : Reader (Option (List Char))
  | '.' :: rest => (digits Char.isDigit rest).map fun (run, stop) => (some run, stop)
  | cs => some (none, cs)

def powerPart : Reader (Option Int) := fun cs =>
  match cs with
  | c :: rest =>
      if c = 'e' || c = 'E' then do
        let (negative, unsigned) := sign rest
        let (run, stop) ← digits Char.isDigit unsigned
        let n : Int := Decimal.ofDigits run
        return (some (if negative then -n else n), stop)
      else some (none, cs)
  | [] => some (none, [])

def number? (n : Numeral) : Option Value :=
  if n.decimals.isSome || n.power.isSome then
    let x := n.decimal.toFloat
    if x == Binary64.positiveInfinity then none else some (.float x)
  else
    let magnitude : Int := Decimal.ofDigits n.whole
    integer (if n.negative then -magnitude else magnitude)

def decimalNumber : Reader Value := fun cs => do
  let (negative, unsigned) := sign cs
  let (whole, afterWhole) ← wholePart unsigned
  let (decimals, afterDecimals) ← decimalPart afterWhole
  let (power, rest) ← powerPart afterDecimals
  return (← number? ⟨negative, whole, decimals, power⟩, rest)

def specialNumber : Reader Value := fun cs =>
  let (negative, unsigned) := sign cs
  let infinite (_ : Unit) : Value := .float (Decimal.signed negative Binary64.positiveInfinity)
  Reader.either ((Reader.exactly ['i', 'n', 'f']).map infinite)
    ((Reader.exactly ['n', 'a', 'n']).map fun _ => .float Binary64.notANumber) unsigned

def number : Reader Value
  | '0' :: 'x' :: rest => basedInteger 16 rest
  | '0' :: 'o' :: rest => basedInteger 8 rest
  | '0' :: 'b' :: rest => basedInteger 2 rest
  | cs => Reader.either decimalNumber specialNumber cs

def boolean : Reader Value :=
  Reader.either ((Reader.exactly ['t', 'r', 'u', 'e']).map fun _ => .boolean true)
    ((Reader.exactly ['f', 'a', 'l', 's', 'e']).map fun _ => .boolean false)

def field (width low high : Nat) : Reader Nat := fun cs =>
  let run := cs.take width
  let n := Decimal.ofDigits run
  if run.length = width && run.all Char.isDigit && low ≤ n && n ≤ high then some (n, cs.drop width)
  else none

def daysOf (year month : Nat) : Nat :=
  if month = 2 then if (year % 4 = 0 && year % 100 ≠ 0) || year % 400 = 0 then 29 else 28
  else if month ∈ [4, 6, 9, 11] then 30
  else 31

def date : Reader Unit := fun cs => do
  let (year, afterYear) ← field 4 0 9999 cs
  let (_, monthStart) ← Reader.exactly ['-'] afterYear
  let (month, afterMonth) ← field 2 1 12 monthStart
  let (_, dayStart) ← Reader.exactly ['-'] afterMonth
  let (_, rest) ← field 2 1 (daysOf year month) dayStart
  return ((), rest)

def secondFraction (cs : List Char) : List Char :=
  match cs with
  | '.' :: c :: rest => if c.isDigit then rest.dropWhile Char.isDigit else cs
  | _ => cs

def time : Reader Unit := fun cs => do
  let (_, afterHour) ← field 2 0 23 cs
  let (_, minuteStart) ← Reader.exactly [':'] afterHour
  let (_, afterMinute) ← field 2 0 59 minuteStart
  let (_, secondStart) ← Reader.exactly [':'] afterMinute
  let (_, rest) ← field 2 0 60 secondStart
  return ((), secondFraction rest)

def offset : Reader Unit := fun cs =>
  match cs with
  | [] => none
  | c :: rest =>
      if c = 'Z' || c = 'z' then some ((), rest)
      else if c = '+' || c = '-' then do
        let (_, afterHour) ← field 2 0 23 rest
        let (_, minuteStart) ← Reader.exactly [':'] afterHour
        let (_, stop) ← field 2 0 59 minuteStart
        return ((), stop)
      else none

def timeBehindDate : Reader Unit := fun cs => do
  let start ← match cs with
    | c :: rest => if c = 'T' || c = 't' || c = ' ' then some rest else none
    | [] => none
  let (_, afterTime) ← time start
  return ((), ((offset afterTime).map Prod.snd).getD afterTime)

def dateMoment : Reader Unit := fun cs => do
  let (_, afterDate) ← date cs
  return ((), ((timeBehindDate afterDate).map Prod.snd).getD afterDate)

def moment : Reader Value := fun cs =>
  (Reader.either dateMoment time cs).map fun (_, rest) =>
    (.moment (String.ofList (cs.take (cs.length - rest.length))), rest)

end TargetEval.Toml

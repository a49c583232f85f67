import TargetEval.Number.Decimal
import TargetEval.Text.Basic
import TargetEval.Time.Seconds

set_option autoImplicit false

namespace TargetEval.Interval

inductive Fault where
  | malformed
  | unexpected (rest : String)
  | numberTooLarge
  | unknownUnit (unit : String)
  | overflow
deriving DecidableEq, Repr

def Fault.message (text : String) (fault : Fault) : String :=
  let subject := "invalid interval '" ++ text ++ "'"
  match fault with
  | .malformed => subject
  | .unexpected rest => subject ++ ": unexpected '" ++ rest ++ "'"
  | .numberTooLarge => subject ++ ": number too large"
  | .unknownUnit unit => subject ++ ": unknown unit '" ++ unit ++ "'"
  | .overflow => subject ++ ": overflow"

def unitSeconds? (unit : String) : Option Int :=
  if unit ∈ ["s", "sec", "secs", "second", "seconds"] then some 1
  else if unit ∈ ["m", "min", "mins", "minute", "minutes"] then some 60
  else if unit ∈ ["h", "hour", "hours"] then some 3600
  else if unit ∈ ["d", "day", "days"] then some 86400
  else if unit ∈ ["w", "week", "weeks"] then some 604800
  else if unit ∈ ["mon", "month", "months"] then some 2592000
  else if unit ∈ ["y", "year", "years"] then some 31536000
  else none

structure Part where
  digits : List Char
  letters : List Char
deriving DecidableEq, Repr

def part? (cs : List Char) : Option (Part × List Char) :=
  let digits := cs.takeWhile Char.isDigit
  let afterDigits := cs.dropWhile Char.isDigit
  let letters := afterDigits.takeWhile Char.isAlpha
  if digits.isEmpty || letters.isEmpty then none
  else some (⟨digits, letters⟩, afterDigits.dropWhile Char.isAlpha)

def parts : Nat → List Char → List Part × List Char
  | 0, cs => ([], cs)
  | room + 1, cs =>
      match part? cs with
      | none => ([], cs)
      | some (part, rest) =>
          let (more, left) := parts room rest
          (part :: more, left)

def add (total : Int) (part : Part) : Except Fault Int := do
  let count := Decimal.ofDigits part.digits
  if Bounded.greatest < count then throw .numberTooLarge
  let unit := String.ofList part.letters
  match unitSeconds? unit with
  | none => throw (.unknownUnit unit)
  | some seconds =>
      let next := total + count * seconds
      if Bounded.greatest < next then throw .overflow else return next

def sign? : List Char → Option Int × List Char
  | '+' :: rest => (some 1, rest)
  | '-' :: rest => (some (-1), rest)
  | cs => (none, cs)

def read (text : String) (defaultSign : Int) : Except Fault Seconds := do
  let (sign, unsigned) := sign? (trimChars text.toList)
  let (found, rest) := parts unsigned.length unsigned
  if found.isEmpty then throw .malformed
  if !rest.isEmpty then throw (.unexpected (String.ofList rest))
  let total ← found.foldlM add 0
  return Int64.ofInt (sign.getD defaultSign * total)

end TargetEval.Interval

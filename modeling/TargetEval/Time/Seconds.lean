import TargetEval.Number.Bounded
import TargetEval.Number.Decimal

set_option autoImplicit false

namespace TargetEval

abbrev Seconds := Int64

namespace Seconds

def plus (a b : Seconds) : Seconds := Bounded.clamp (a.toInt + b.toInt)

def text (s : Seconds) : String := toString s.toInt

def read? (text : String) : Option Seconds :=
  let (negative, digits) := match text.toList with
    | '-' :: rest => (true, rest)
    | '+' :: rest => (false, rest)
    | cs => (false, cs)
  let n : Int := Decimal.ofDigits digits
  if !digits.isEmpty && digits.all Char.isDigit then Bounded.ofInt? (if negative then -n else n) else none

end Seconds

structure Window where
  start : Seconds
  stop : Seconds
deriving DecidableEq, Repr

def Window.text (w : Window) : String := "[" ++ w.start.text ++ ", " ++ w.stop.text ++ ")"

end TargetEval

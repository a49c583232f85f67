import TargetEval.Proofs.Target.Characters
import TargetEval.Time.Interval

set_option autoImplicit false

namespace TargetEval.Interval

namespace Part

def text (p : Part) : List Char := p.digits ++ p.letters

def unit (p : Part) : Int := (unitSeconds? (String.ofList p.letters)).getD 0

def count (p : Part) : Nat := Decimal.ofDigits p.digits

def seconds (p : Part) : Int := p.count * p.unit

structure Written (p : Part) : Prop where
  counted : p.digits ≠ []
  digits : ∀ c ∈ p.digits, c.isDigit = true
  named : p.letters ≠ []
  letters : ∀ c ∈ p.letters, c.isAlpha = true

end Part

def text (ps : List Part) : List Char := ps.flatMap Part.text

def total (ps : List Part) : Int := ps.foldr (fun p sum => p.seconds + sum) 0

def marks : List (List Char × Option Int) := [([], none), (['+'], some 1), (['-'], some (-1))]

section

variable (p : Part) (written : p.Written) (rest : List Char)

include written

end

section

variable (source : String) (defaultSign : Int) (sign : Option Int) (body : List Char) (ps : List Part) (rest : List Char)
  (signed : sign? (trimChars source.toList) = (sign, body)) (split : parts body.length body = (ps, rest)) (v : Seconds)

include signed split

end

end TargetEval.Interval

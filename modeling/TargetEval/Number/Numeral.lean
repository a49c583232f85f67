import TargetEval.Number.Decimal

set_option autoImplicit false

namespace TargetEval

structure Numeral where
  negative : Bool
  whole : List Char
  decimals : Option (List Char)
  power : Option Int
deriving DecidableEq, Repr

namespace Numeral

def ofInt (n : Int) : Numeral := ⟨n < 0, (Nat.repr n.natAbs).toList, none, none⟩

def text (n : Numeral) : List Char :=
  let sign := if n.negative then ['-'] else []
  let decimals := match n.decimals with
    | none => []
    | some digits => '.' :: digits
  let power := match n.power with
    | none => []
    | some e => 'e' :: (if e < 0 then '-' else '+') :: (Nat.repr e.natAbs).toList
  sign ++ n.whole ++ decimals ++ power

def integer? (n : Numeral) : Option Int :=
  let magnitude := Decimal.ofDigits n.whole
  if n.decimals.isSome || n.power.isSome || (n.negative && magnitude = 0) then none
  else some (if n.negative then -magnitude else magnitude)

def decimal (n : Numeral) : Decimal :=
  let decimals := n.decimals.getD []
  ⟨n.negative, Decimal.ofDigits (n.whole ++ decimals), n.power.getD 0 - decimals.length⟩

def absorb : Nat → List Char → Nat × List Char
  | coefficient, [] => (coefficient, [])
  | coefficient, digit :: rest =>
      let next := 10 * coefficient + Decimal.digitValue digit
      if next < Nat.pow 2 64 then absorb next rest else (coefficient, digit :: rest)

def truncated (n : Numeral) : Decimal :=
  let decimals := n.decimals.getD []
  let (wholePart, unread) := absorb 0 n.whole
  let (coefficient, dropped) := absorb wholePart decimals
  -- Digits before the point that do not fit count as zeros, digits behind it are dropped.
  ⟨n.negative, coefficient,
    n.power.getD 0 + unread.length - (decimals.length - dropped.length : Nat)⟩

end Numeral

end TargetEval

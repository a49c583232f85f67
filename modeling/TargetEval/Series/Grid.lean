import TargetEval.Time.Seconds

set_option autoImplicit false

namespace TargetEval.Grid

def remainder? (time width : Seconds) : Option Int :=
  if width = 0 then none
  -- The remainder itself always fits; the quotient it is taken from may not.
  else (Bounded.ofInt? (time.toInt / width.toInt)).map fun _ => time.toInt % width.toInt

def floor? (time width : Seconds) : Option Seconds := do
  let excess ← remainder? time width
  Bounded.ofInt? (time.toInt - excess)

def ceiling? (time width : Seconds) : Option Seconds := do
  let below ← floor? time width
  -- A stop between two buckets stays where it is.
  if below = time then return below else Bounded.ofInt? (below.toInt + width.toInt)

def align? (start stop width : Seconds) : Option (Seconds × Seconds) := do
  return (← floor? start width, ← ceiling? stop width)

inductive Fault where
  | zeroWidth
  | unrepresentable
deriving DecidableEq, Repr

def count (start stop width : Seconds) : Except Fault Nat :=
  if stop ≤ start then .ok 0
  else
    match Bounded.ofInt? (stop.toInt - start.toInt) with
    | none => .error .unrepresentable
    | some span =>
        if width = 0 then .error .zeroWidth
        else
          let whole := span.toInt.tdiv width.toInt
          let n := if span.toInt.tmod width.toInt = 0 then whole else whole + 1
          if n < 0 then .error .unrepresentable else .ok n.toNat

end TargetEval.Grid

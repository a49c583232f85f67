import TargetEval.Error
import TargetEval.Number.Binary64

/-!
The named folds of a list of values to one value. NaN stands for "nothing": it is the fold of the
empty list, and callers leave a point absent when a fold gives it.
-/

set_option autoImplicit false

namespace TargetEval

def clampUnit (x : Float) : Float :=
  if x < 0.0 then 0.0 else if 1.0 < x then 1.0 else x

def ascending (values : List Float) : List Float :=
  (values.filter (fun v => !v.isNaN)).mergeSort (fun a b => a ≤ b)

def atRank (sorted : List Float) (rank : Float) : Float :=
  -- A rank that is NaN counts from the first value.
  let lower := rank.toUInt64.toNat
  let upper := if Float.ofNat lower < rank then lower + 1 else lower
  match sorted[lower]?, sorted[upper]? with
  | some low, some high => low + (high - low) * (rank - Float.ofNat lower)
  | _, _ => Binary64.notANumber

def percentile (values : List Float) (pct : Float) : Float :=
  let sorted := ascending values
  if sorted.isEmpty then Binary64.notANumber
  else atRank sorted (clampUnit (pct / 100.0) * Float.ofNat (sorted.length - 1))

inductive Reducer where
  | sum
  | average
  | min
  | max
  | last
  | range
  | multiply
  | stddev
  | median
  | diff
  | count
deriving DecidableEq, Repr

namespace Reducer

def all : List Reducer :=
  [average, count, diff, last, max, median, min, multiply, range, stddev, sum]

def name : Reducer → String
  | sum => "sum"
  | average => "average"
  | min => "min"
  | max => "max"
  | last => "last"
  | range => "range"
  | multiply => "multiply"
  | stddev => "stddev"
  | median => "median"
  | diff => "diff"
  | count => "count"

def aliases : List (String × Reducer) :=
  [("total", sum), ("avg", average), ("current", last), ("rangeOf", range)]

def ofName? (text : String) : Option Reducer :=
  match all.find? (fun r => r.name = text) with
  | some r => some r
  | none => (aliases.find? (fun entry => entry.1 = text)).map Prod.snd

def ofName (text : String) : Except Error Reducer :=
  match ofName? text with
  | some r => .ok r
  | none => .error (.unsupportedReducer text)

-- Negative zero is the neutral element of addition.
def total (values : List Float) : Float := values.foldl (· + ·) (-0.0)

def product (values : List Float) : Float := values.foldl (· * ·) 1.0

def mean (values : List Float) : Float := total values / Float.ofNat values.length

def extreme (better : Float → Float → Bool) (values : List Float) : Float :=
  -- Only a value that is strictly better replaces the best one, so the first of equal ones stays.
  values.foldl
    (fun best v => if v.isNaN then best else if best.isNaN || better v best then v else best)
    Binary64.notANumber

def least (values : List Float) : Float := extreme (fun v best => v < best) values

def greatest (values : List Float) : Float := extreme (fun v best => best < v) values

def deviation (values : List Float) : Float :=
  let centre := mean values
  let squares := values.map fun v => (v - centre) * (v - centre)
  (total squares / Float.ofNat values.length).sqrt

def difference : List Float → Float
  | [] => Binary64.notANumber
  | first :: rest => first - total rest

def fold : Reducer → List Float → Float
  | sum, values => total values
  | average, values => mean values
  | min, values => least values
  | max, values => greatest values
  | last, values => values.getLast?.getD Binary64.notANumber
  | range, values => greatest values - least values
  | multiply, values => product values
  | stddev, values => deviation values
  | median, values => percentile values 50.0
  | diff, values => difference values
  | count, values => Float.ofNat values.length

def reduce (r : Reducer) (values : List Float) : Float :=
  if values.isEmpty then Binary64.notANumber else r.fold values

def point? (r : Reducer) (values : List Float) : Option Float :=
  let value := r.reduce values
  if value.isNaN then none else some value

end Reducer

end TargetEval

import TargetEval.Number.Bounded
import TargetEval.Number.Layout

set_option autoImplicit false

namespace TargetEval

inductive Json where
  | null
  | boolean (value : Bool)
  | number (n : Numeral)
  | string (text : Option String)
  | array (items : List Json)
  | object (members : List (Option String × Json))

namespace Json

def ofText (s : String) : Json := .string (some s)

def ofInt (n : Int) : Json := .number (Numeral.ofInt n)

def ofFloat (x : Float) : Json :=
  match jsonNumeral? x with
  | some n => .number n
  | none => .null

def ofMembers (members : List (String × Json)) : Json :=
  .object (members.map fun (name, value) => (some name, value))

def text? : Json → Option String
  | .string text => text
  | _ => none

def boolean? : Json → Option Bool
  | .boolean value => some value
  | _ => none

def items? : Json → Option (List Json)
  | .array items => some items
  | _ => none

def integer? : Json → Option Int64
  | .number n => do
      let value ← n.integer?
      Bounded.ofInt? value
  | _ => none

def float? : Json → Option Float
  | .number n => n.truncated.scaled?
  | _ => none

def fields? (names : List String) : Json → Option (List (Option Json))
  | .object members =>
      let named := members.filterMap fun (name, value) => name.map fun n => (n, value)
      let known := (named.map Prod.fst).filter fun name => name ∈ names
      if named.length = members.length && known.Nodup then
        some (names.map fun name => named.lookup name)
      else none
  | .array items =>
      if items.length ≤ names.length then
        some (items.map some ++ List.replicate (names.length - items.length) none)
      else none
  | _ => none

end Json

end TargetEval

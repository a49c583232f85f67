import TargetEval.Text.Alphanumeric

set_option autoImplicit false

namespace TargetEval.MetricName

def isNameChar (c : Char) : Bool :=
  c ∈ ['.', '_', '-', '*', '?', '[', ']', ':', '~', '^', '$', '#', '%', '@'] || isAlphanumeric c

def pathFrom : (openBraces : Nat) → (held : List Char) → List Char → List Char
  | _, held, [] => held
  | openBraces, held, c :: rest =>
      if isNameChar c then pathFrom openBraces (held ++ [c]) rest
      else if c = '{' then pathFrom (openBraces + 1) (held ++ [c]) rest
      else if c = ')' then held
      else if c = '}' then
        if 0 < openBraces then pathFrom (openBraces - 1) (held ++ [c]) rest else held
      else if c = ',' then
        if 0 < openBraces then pathFrom openBraces (held ++ [c]) rest else held
      -- Behind any other character the path starts anew, also between braces.
      else pathFrom openBraces [] rest

def path (name : String) : String := String.ofList (pathFrom 0 [] name.toList)

def nodes (name : String) : List String := ((path name).toList.splitOn '.').map String.ofList

structure MissingNode where
  offset : Nat
  node : Int64
  count : Nat
deriving DecidableEq, Repr

def MissingNode.message (name : String) (m : MissingNode) : String :=
  "node " ++ toString m.node.toInt ++ " is out of range for '" ++ name ++ "' (" ++ toString m.count
    ++ " nodes)"

def node? (nodes : List String) (number : Int64) : Option String :=
  let n := if number < 0 then nodes.length + number.toInt else number.toInt
  if n < 0 then none else nodes[n.toNat]?

def chosen (nodes : List String) : Nat → List Int64 → Except MissingNode (List String)
  | _, [] => .ok []
  | offset, number :: rest =>
      match node? nodes number with
      | none => .error ⟨offset, number, nodes.length⟩
      | some node => (chosen nodes (offset + 1) rest).map (node :: ·)

def key (name : String) (numbers : List Int64) : Except MissingNode String :=
  (chosen (nodes name) 0 numbers).map (String.intercalate "." ·)

end TargetEval.MetricName

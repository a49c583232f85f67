import TargetEval.Toml.Scalar
import TargetEval.Toml.Text

set_option autoImplicit false

namespace TargetEval.Toml

def nestingLimit : Nat := 80

def bareKey : Reader String := fun cs =>
  (Reader.someOf (fun c => c.isAlphanum || c = '_' || c = '-') cs).map fun (run, rest) =>
    (String.ofList run, rest)

def keyParts : (room : Nat) → Reader (List String)
  | 0, _ => none
  | room + 1, cs => do
      let (first, after) ← Reader.either shortText bareKey (skipSpace cs)
      match skipSpace after with
      | '.' :: rest =>
          let (more, stop) ← keyParts room rest
          return (first :: more, stop)
      | stop => return ([first], stop)

def Key.ofParts (first : String) : List String → Key
  | [] => ⟨[], first⟩
  | second :: rest =>
      let key := Key.ofParts second rest
      ⟨first :: key.parents, key.name⟩

def key : Reader Key := fun cs => do
  match ← keyParts (cs.length + 1) cs with
  | (first :: rest, stop) =>
      if rest.length + 1 < nestingLimit then some (Key.ofParts first rest, stop) else none
  | ([], _) => none

def skipComment (cs : List Char) : List Char :=
  match cs with
  | '#' :: rest => rest.dropWhile isPlain
  | _ => cs

def skipFiller : (room : Nat) → List Char → List Char
  | 0, cs => cs
  | room + 1, cs =>
      let start := skipSpace cs
      match newline (skipComment start) with
      | some (_, rest) => skipFiller room rest
      | none => start

def entry (item : Reader Value) : Reader (Key × Value) := fun cs => do
  let (k, afterKey) ← key cs
  let (_, afterSign) ← Reader.exactly ['='] afterKey
  let (v, rest) ← item (skipSpace afterSign)
  return ((k, v), rest)

def arrayItems (item : Reader Value) : (room : Nat) → Reader (List Value)
  | 0, _ => none
  | room + 1, cs =>
      match skipFiller cs.length cs with
      | ']' :: rest => some ([], rest)
      | start => do
          let (first, after) ← item start
          match skipFiller after.length after with
          | ',' :: rest =>
              let (more, stop) ← arrayItems item room rest
              return (first :: more, stop)
          | ']' :: rest => return ([first], rest)
          | _ => none

def inlineEntries (item : Reader Value) : (room : Nat) → Reader (List (Key × Value))
  | 0, _ => none
  | room + 1, cs => do
      let (first, after) ← entry item cs
      match skipSpace after with
      | ',' :: rest =>
          let (more, stop) ← inlineEntries item room rest
          return (first :: more, stop)
      | '}' :: rest => return ([first], rest)
      | _ => none

def inlineTable (item : Reader Value) : Reader Value := fun cs =>
  match skipSpace cs with
  | '}' :: rest => some (.table .inlined [], rest)
  | start => do
      let (definitions, rest) ← inlineEntries item start.length start
      return (.table .inlined (← Entries.defineAll [] definitions), rest)

def text : Reader Value := (Reader.either longText shortText).map .string

def scalar : Reader Value :=
  Reader.either text (Reader.either moment (Reader.either number boolean))

def value : (levels : Nat) → Reader Value
  | 0 => scalar
  | levels + 1 => fun cs =>
      match cs with
      | '[' :: rest =>
          (arrayItems (value levels) rest.length rest).map fun (items, stop) => (.array items, stop)
      | '{' :: rest => inlineTable (value levels) rest
      | _ => scalar cs

inductive Line where
  | blank
  | header (h : Header)
  | entry (key : Key) (value : Value)

def lineEnd : Reader Unit := fun cs =>
  match skipComment (skipSpace cs) with
  | [] => some ((), [])
  | rest => newline rest

def header : Reader Header
  | '[' :: '[' :: rest => do
      let (k, after) ← key rest
      let (_, stop) ← Reader.exactly [']', ']'] after
      return (.element k, stop)
  | '[' :: rest => do
      let (k, after) ← key rest
      let (_, stop) ← Reader.exactly [']'] after
      return (.table k, stop)
  | _ => none

def line : Reader Line := fun cs =>
  match skipSpace cs with
  | [] => some (.blank, [])
  | c :: rest =>
      let start := c :: rest
      if c = '[' then do
        let (h, after) ← header start
        let (_, stop) ← lineEnd after
        return (.header h, stop)
      else if c = '#' || c = '\n' || c = '\r' then (lineEnd start).map fun (_, stop) => (.blank, stop)
      else do
        let ((k, v), after) ← entry (value (nestingLimit - 1)) start
        let (_, stop) ← lineEnd after
        return (.entry k v, stop)

def lines : (room : Nat) → List Char → Option (List Line)
  | _, [] => some []
  | 0, _ => none
  | room + 1, cs => do
      let (first, rest) ← line cs
      return first :: (← lines room rest)

def sections : List Line → List (Key × Value) × List Section
  | [] => ([], [])
  | .blank :: rest => sections rest
  | .entry k v :: rest =>
      let (leading, others) := sections rest
      ((k, v) :: leading, others)
  | .header h :: rest =>
      let (definitions, others) := sections rest
      ([], ⟨h, definitions⟩ :: others)

def read? (text : String) : Option Entries := do
  let cs := match text.toList with
    | '\uFEFF' :: rest => rest
    | cs => cs
  let (leading, others) := sections (← lines cs.length cs)
  others.foldlM Entries.add (← Entries.defineAll [] leading)

end TargetEval.Toml

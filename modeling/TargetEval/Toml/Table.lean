/-!
TOML values, and how the sections of a document build up its tables.

A table remembers how it came about, because that decides what may still be added to it: a table
that only stands for the path to another one may be headed later, one made by a dotted key may be
extended by other dotted keys, and one written inline is complete.
-/

set_option autoImplicit false

namespace TargetEval.Toml

inductive Origin where
  | headed
  | implied
  | dotted
  | inlined
deriving DecidableEq, Repr

inductive Value where
  | string (text : String)
  | integer (n : Int64)
  | float (x : Float)
  | boolean (b : Bool)
  | moment (text : String)
  | array (items : List Value)
  | table (origin : Origin) (entries : List (String × Value))
  | tables (elements : List (List (String × Value)))

abbrev Entries := List (String × Value)

structure Key where
  parents : List String
  name : String
deriving DecidableEq, Repr

namespace Entries

def change (name : String) (f : Option Value → Option Value) : Entries → Option Entries
  | [] => (f none).map fun v => [(name, v)]
  | (n, v) :: rest =>
      if n = name then (f (some v)).map fun v => (n, v) :: rest
      else (change name f rest).map ((n, v) :: ·)

def changeLast (f : Entries → Option Entries) : List Entries → Option (List Entries)
  | [] => none
  | [last] => (f last).map ([·])
  | first :: rest => (changeLast f rest).map (first :: ·)

def enter (name : String) (value : Value) : Entries → Option Entries :=
  change name fun
    | none => some value
    | some _ => none

def define (value : Value) : (parents : List String) → (name : String) → Entries → Option Entries
  | [], name => enter name value
  | parent :: parents, name =>
      change parent fun
        | none => (define value parents name []).map (.table .dotted)
        | some (.table .dotted inner) => (define value parents name inner).map (.table .dotted)
        -- What sections have made may be passed, but takes no entry by a dotted key itself.
        | some (.table .implied inner) =>
            if parents.isEmpty then none else (define value parents name inner).map (.table .implied)
        | some (.tables elements) =>
            if parents.isEmpty then none else (changeLast (define value parents name) elements).map .tables
        | some _ => none

def changeAt (f : Option Value → Option Value) :
    (parents : List String) → (name : String) → Entries → Option Entries
  | [], name => change name f
  | parent :: parents, name =>
      change parent fun
        | none => (changeAt f parents name []).map (.table .implied)
        | some (.table .inlined _) => none
        | some (.table origin inner) => (changeAt f parents name inner).map (.table origin)
        | some (.tables elements) => (changeLast (changeAt f parents name) elements).map .tables
        | some _ => none

def defineAll (entries : Entries) (definitions : List (Key × Value)) : Option Entries :=
  definitions.foldlM (fun entries (key, value) => define value key.parents key.name entries) entries

end Entries

inductive Header where
  | table (key : Key)
  | element (key : Key)
deriving DecidableEq, Repr

structure Section where
  header : Header
  definitions : List (Key × Value)

def Entries.add (entries : Entries) (s : Section) : Option Entries :=
  match s.header with
  | .table key =>
      -- A table is headed once, and only if nothing was entered under its name before.
      let head : Option Value → Option Value
        | none => (defineAll [] s.definitions).map (.table .headed)
        | some (.table .implied inner) => (defineAll inner s.definitions).map (.table .headed)
        | some _ => none
      changeAt head key.parents key.name entries
  | .element key =>
      let append : Option Value → Option Value
        | none => (defineAll [] s.definitions).map fun element => .tables [element]
        | some (.tables elements) =>
            (defineAll [] s.definitions).map fun element => .tables (elements ++ [element])
        | some _ => none
      changeAt append key.parents key.name entries

end TargetEval.Toml

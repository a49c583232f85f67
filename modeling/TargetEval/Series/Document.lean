import TargetEval.ByName
import TargetEval.Json.Reading
import TargetEval.Json.Writing
import TargetEval.Series.Index

set_option autoImplicit false

namespace TargetEval

namespace Series

def fieldNames : List String := ["name", "values", "is_absent", "start", "stop", "step"]

def toJson (s : Series) : Json :=
  .ofMembers
    [("name", .ofText s.name), ("values", .array (s.values.toList.map Json.ofFloat)),
      ("is_absent", .array (s.absent.toList.map Json.boolean)), ("start", .ofInt s.start.toInt),
      ("stop", .ofInt s.stop.toInt), ("step", .ofInt s.step.toInt)]

def ofJson? (json : Json) : Option Series :=
  match json.fields? fieldNames with
  | some [some name, some values, some absent, some start, some stop, some step] => do
      return {
        name := ← name.text?
        values := (← (← values.items?).mapM Json.float?).toArray
        absent := (← (← absent.items?).mapM Json.boolean?).toArray
        start := ← start.integer?
        stop := ← stop.integer?
        step := ← step.integer? }
  | _ => none

end Series

abbrev Fetched := ByName (List Series)

namespace Fetched

def ofMember? (member : Option String × Json) : Option (String × List Series) := do
  return (← member.1, ← (← member.2.items?).mapM Series.ofJson?)

def ofJson? : Json → Option Fetched
  -- Of several members of one name the last counts, but all have to be readable.
  | .object members => do return ByName.ofList (← members.mapM ofMember?)
  | _ => none

def read? (text : String) : Option Fetched := do ofJson? (← Json.read? text)

def all (fetched : Fetched) : List Series := fetched.flatMap fun entry => entry.2

def window (fetched : Fetched) (start? stop? : Option Seconds) : Window :=
  { start := (start? <|> (fetched.all.map Series.start).min?).getD 0
    stop := (stop? <|> (fetched.all.map Series.stop).max?).getD 0 }

def index (fetched : Fetched) (window : Window) : Except Error SeriesIndex :=
  fetched.foldlM (fun index (metric, series) =>
    match index.insert ⟨metric, window⟩ series with
    | (next, none) => .ok next
    | (_, some e) => .error e) SeriesIndex.empty

end Fetched

end TargetEval

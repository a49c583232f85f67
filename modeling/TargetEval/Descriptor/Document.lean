import TargetEval.Descriptor.Basic
import TargetEval.Json.Reading
import TargetEval.Json.Writing

set_option autoImplicit false

namespace TargetEval

namespace ParameterType

def all : List ParameterType :=
  [seriesList, seriesLists, integer, float, string, boolean, interval, reducer, node]

def word : ParameterType → String
  | seriesList => "seriesList"
  | seriesLists => "seriesLists"
  | integer => "integer"
  | float => "float"
  | string => "string"
  | boolean => "boolean"
  | interval => "interval"
  | reducer => "aggFunc"
  | node => "nodeOrTag"

def ofWord? (text : String) : Option ParameterType := all.find? fun t => t.word = text

def ofJson? : Json → Option ParameterType
  | .string (some text) => ofWord? text
  | .object [(some text, .null)] => ofWord? text
  | _ => none

end ParameterType

namespace Parameter

def fieldNames : List String := ["name", "type", "required", "multiple", "default", "options"]

def toJson (p : Parameter) : Json :=
  .ofMembers <|
    [("name", .ofText p.name), ("type", .ofText p.type.word), ("required", .boolean p.required),
      ("multiple", .boolean p.repeats)]
    ++ (p.default.map fun d => ("default", Json.ofText d)).toList
    ++ if p.options.isEmpty then [] else [("options", .array (p.options.map .ofText))]

def defaultOf? : Option Json → Option (Option String)
  | none => some none
  | some .null => some none
  | some json => json.text?.map some

def flagOf? : Option Json → Option Bool
  | none => some false
  | some json => json.boolean?

def optionsOf? : Option Json → Option (List String)
  | none => some []
  | some json => do (← json.items?).mapM Json.text?

def ofJson? (json : Json) : Option Parameter :=
  match json.fields? fieldNames with
  | some [some name, some type, required, repeats, default, options] => do
      return {
        name := ← name.text?
        type := ← ParameterType.ofJson? type
        required := ← flagOf? required
        repeats := ← flagOf? repeats
        default := ← defaultOf? default
        options := ← optionsOf? options }
  | _ => none

end Parameter

namespace Descriptor

def fieldNames : List String := ["name", "function", "group", "description", "params"]

def toJson (d : Descriptor) : Json :=
  .ofMembers
    [("name", .ofText d.name), ("function", .ofText d.signature), ("group", .ofText d.group),
      ("description", .ofText d.description), ("params", .array (d.parameters.map Parameter.toJson))]

def ofJson? (json : Json) : Option Descriptor :=
  match json.fields? fieldNames with
  | some [some name, some signature, some group, some description, some parameters] => do
      return {
        name := ← name.text?
        signature := ← signature.text?
        group := ← group.text?
        description := ← description.text?
        parameters := ← (← parameters.items?).mapM Parameter.ofJson? }
  | _ => none

def write (d : Descriptor) : String := d.toJson.compactText

def read? (text : String) : Option Descriptor := do ofJson? (← Json.read? text)

end Descriptor

end TargetEval

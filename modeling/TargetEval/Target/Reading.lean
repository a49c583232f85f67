import TargetEval.Error
import TargetEval.Target.Literal
import TargetEval.Text.Basic

/-!
Reading of target expressions. The alternatives are tried in a fixed order: call, boolean, number,
string, metric. Behind `name (` a text can only be a call, so from there on no alternative is tried.

The readers of calls take the reader of their arguments as a parameter; `expression` ties the knot
along the depth of nesting.
-/

set_option autoImplicit false

namespace TargetEval.Target

def identifier (c : Cursor) : Outcome String :=
  if c.rest.head?.any fun x => x.isAlpha || x = '_' then
    let isPart (x : Char) : Bool := x.isAlphanum || x = '_'
    .accepted (String.ofList (c.run isPart)) (c.skipRun isPart)
  else declinedAt c

inductive Argument where
  | positional (e : Expr)
  | named (name : String) (e : Expr)

section

variable (sub : Cursor → Outcome Expr)

def namedArgument (c : Cursor) : Outcome Argument :=
  (identifier c).andThen fun name afterName =>
    (character '=' afterName.skipSpace).andThen fun _ afterSign =>
      (sub afterSign.skipSpace).andThen fun e next => .accepted (.named name e) next

-- What looks like a named argument without a value is tried as an expression.
def argument (c : Cursor) : Outcome Argument :=
  namedArgument sub c <|> (sub c).andThen fun e next => .accepted (.positional e) next

def moreArguments : (room : Nat) → Cursor → Outcome (List Argument)
  | 0, c => .accepted [] c
  | room + 1, c =>
      match character ',' c.skipSpace with
      | .accepted _ afterComma =>
          match argument sub afterComma.skipSpace with
          | .accepted a next =>
              (moreArguments room next).andThen fun rest stop => .accepted (a :: rest) stop
          | .declined _ => .accepted [] c
          | .refused fault => .refused fault
      | _ => .accepted [] c

def arguments (c : Cursor) : Outcome (List Argument) :=
  match argument sub c with
  | .accepted a next =>
      (moreArguments sub next.rest.length next).andThen fun rest stop => .accepted (a :: rest) stop
  | .declined _ => .accepted [] c
  | .refused fault => .refused fault

def positionalOf (all : List Argument) : List Expr :=
  all.filterMap fun
    | .positional e => some e
    | .named _ _ => none

def namedOf (all : List Argument) : ByName Expr :=
  ByName.ofList (all.filterMap fun
    | .positional _ => none
    | .named name e => some (name, e))

def callOf (start : Cursor) (name : String) (all : List Argument) (inside : List Char) : Expr :=
  .call
    { name
      arguments := positionalOf all
      named := namedOf all
      argumentText := String.ofList (trimChars inside)
      position := start.offset }

def call (c : Cursor) : Outcome Expr :=
  (identifier c).andThen fun name afterName =>
    (character '(' afterName.skipSpace).andThen fun _ inside =>
      ((arguments sub inside.skipSpace).andThen fun all afterAll =>
        (character ')' afterAll.skipSpace).andThen fun _ next =>
          .accepted (callOf c name all (inside.upTo afterAll.skipSpace)) next).commit

end

def expression : (depth : Nat) → Cursor → Outcome Expr
  | 0, c => declinedAt c
  | depth + 1, c => call (expression depth) c <|> boolean c <|> number c <|> string c <|> metric c

-- Every call takes at least one character, so no nesting is deeper than the text is long.
def readAt (c : Cursor) : Outcome Expr := expression (c.rest.length + 1) c

def read (text : String) : Except Error Expr :=
  match readAt (Cursor.ofText text).skipSpace with
  | .accepted e next =>
      let stop := next.skipSpace
      if stop.rest.isEmpty then .ok e
      else .error (.parse stop.offset
        ("unexpected trailing input '" ++ String.ofList stop.rest ++ "'"))
  | .declined fault => .error (.parse fault.offset fault.message)
  | .refused fault => .error (.parse fault.offset fault.message)

end TargetEval.Target

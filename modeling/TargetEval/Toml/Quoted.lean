import TargetEval.Toml.Text

set_option autoImplicit false

namespace TargetEval.Toml

inductive Quotation where
  | basic
  | literal
  | longBasic
  | longLiteral
deriving DecidableEq, Repr

namespace Quotation

def quote : Quotation → Char
  | basic | longBasic => '"'
  | literal | longLiteral => '\''

def isLong : Quotation → Bool
  | basic | literal => false
  | longBasic | longLiteral => true

def escapes : Quotation → Bool
  | basic | longBasic => true
  | literal | longLiteral => false

def delimiter (q : Quotation) : List Char := List.replicate (if q.isLong then 3 else 1) q.quote

end Quotation

def hasRun (c : Char) (bound : Nat) : (run : Nat) → List Char → Bool
  | _, [] => false
  | run, x :: rest =>
      if x = c then bound ≤ run || hasRun c bound (run + 1) rest else hasRun c bound 0 rest

def fits (q : Quotation) (cs : List Char) : Bool :=
  cs.all (fun c => isPlain c || c = '\n') && (q.isLong || !cs.contains '\n')
    && !(q.escapes && cs.contains '\\') && !hasRun q.quote (if q.isLong then 2 else 0) 0 cs

def quotationOf (cs : List Char) : Quotation :=
  match [.basic, .literal, .longBasic, .longLiteral].find? fun q => fits q cs with
  | some q => q
  | none => if cs.contains '\n' then .longBasic else .basic

def controlDigits (n : Nat) : List Char :=
  let digits := (Nat.toDigits 16 n).map Char.toUpper
  List.replicate (4 - digits.length) '0' ++ digits

def escaped (c : Char) : List Char :=
  if c = '\x08' then ['\\', 'b']
  else if c = '\t' then ['\\', 't']
  else if c = '\x0c' then ['\\', 'f']
  else if c = '\r' then ['\\', 'r']
  else if c = '\\' then ['\\', '\\']
  else if isPlain c then [c]
  else '\\' :: 'u' :: controlDigits c.toNat

def escapedBody (isLong : Bool) : (run : Nat) → List Char → List Char
  | _, [] => []
  | run, c :: rest =>
      if c = '"' then
        -- Between three quotes, two in a row may stand bare.
        if isLong && run < 2 then '"' :: escapedBody isLong (run + 1) rest
        else '\\' :: '"' :: escapedBody isLong 0 rest
      else if c = '\n' then
        if isLong then '\n' :: escapedBody isLong 0 rest else '\\' :: 'n' :: escapedBody isLong 0 rest
      else escaped c ++ escapedBody isLong 0 rest

def quotedChars (cs : List Char) : List Char :=
  let q := quotationOf cs
  let lead := if q.isLong && cs.contains '\n' then ['\n'] else []
  let body := if q.escapes then escapedBody q.isLong 0 cs else cs
  q.delimiter ++ lead ++ body ++ q.delimiter

def quoted (s : String) : String := String.ofList (quotedChars s.toList)

end TargetEval.Toml

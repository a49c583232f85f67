import TargetEval.Text.Basic

set_option autoImplicit false

namespace TargetEval.Toml

def isPlain (c : Char) : Bool := c = '\t' || (0x20 ≤ c.toNat && c.toNat ≠ 0x7F)

def isSpace (c : Char) : Bool := c = ' ' || c = '\t'

def skipSpace (cs : List Char) : List Char := cs.dropWhile isSpace

def newline : Reader Unit
  | '\n' :: rest => some ((), rest)
  | '\r' :: '\n' :: rest => some ((), rest)
  | _ => none

def codePoint (length : Nat) : Reader Char := fun cs => do
  let digits ← (cs.take length).mapM hexValue?
  let code := digits.foldl (fun n digit => 16 * n + digit) 0
  if digits.length = length ∧ code.isValidChar then some (Char.ofNat code, cs.drop length) else none

def escape : Reader Char
  | 'b' :: rest => some ('\x08', rest)
  | 't' :: rest => some ('\t', rest)
  | 'n' :: rest => some ('\n', rest)
  | 'f' :: rest => some ('\x0c', rest)
  | 'r' :: rest => some ('\r', rest)
  | '"' :: rest => some ('"', rest)
  | '\\' :: rest => some ('\\', rest)
  | 'u' :: rest => codePoint 4 rest
  | 'U' :: rest => codePoint 8 rest
  | _ => none

def basicBody : (room : Nat) → Reader (List Char)
  | _, [] => none
  | 0, _ => none
  | room + 1, c :: rest =>
      if c = '"' then some ([], rest)
      else if c = '\\' then do
        let (escaped, after) ← escape rest
        let (more, stop) ← basicBody room after
        return (escaped :: more, stop)
      else if isPlain c then (basicBody room rest).map fun (more, stop) => (c :: more, stop)
      else none

def literalBody : Reader (List Char)
  | [] => none
  | c :: rest =>
      if c = '\'' then some ([], rest)
      else if isPlain c then (literalBody rest).map fun (more, stop) => (c :: more, stop)
      else none

def skipLines : (room : Nat) → List Char → List Char
  | 0, cs => cs
  | room + 1, cs =>
      match newline (skipSpace cs) with
      | some (_, rest) => skipLines room rest
      | none => skipSpace cs

def foldedLines : Reader Unit := fun cs =>
  (newline (skipSpace cs)).map fun (_, rest) => ((), skipLines rest.length rest)

def longPiece (escapes : Bool) : Reader (List Char) := fun cs =>
  match newline cs with
  | some (_, rest) => some (['\n'], rest)
  | none =>
      match cs with
      | [] => none
      | c :: rest =>
          if escapes && c = '\\' then
            Reader.either (foldedLines.map fun _ => []) (escape.map fun escaped => [escaped]) rest
          else if isPlain c then some ([c], rest)
          else none

def longBody (quote : Char) (escapes : Bool) : (room : Nat) → Reader (List Char)
  | 0, _ => none
  | room + 1, cs =>
      -- Of a run of up to five quotes the last three close, those before belong to the text.
      let run := (cs.takeWhile (· = quote)).length
      if 5 < run then none
      else if 3 ≤ run then some (List.replicate (run - 3) quote, cs.drop run)
      else do
        let (piece, after) ← longPiece escapes cs
        let (more, stop) ← longBody quote escapes room after
        return (piece ++ more, stop)

def long (quote : Char) (escapes : Bool) : Reader (List Char) := fun cs =>
  let start := match newline cs with
    | some (_, rest) => rest
    | none => cs
  longBody quote escapes (start.length + 1) start

def shortText : Reader String
  | '"' :: rest => (basicBody rest.length rest).map fun (text, stop) => (String.ofList text, stop)
  | '\'' :: rest => (literalBody rest).map fun (text, stop) => (String.ofList text, stop)
  | _ => none

def longText : Reader String
  | '"' :: '"' :: '"' :: rest => (long '"' true rest).map fun (text, stop) => (String.ofList text, stop)
  | '\'' :: '\'' :: '\'' :: rest =>
      (long '\'' false rest).map fun (text, stop) => (String.ofList text, stop)
  | _ => none

end TargetEval.Toml

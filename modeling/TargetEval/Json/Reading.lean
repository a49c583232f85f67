import TargetEval.Json.Basic
import TargetEval.Text.Basic

set_option autoImplicit false

namespace TargetEval.Json

def isSpace (c : Char) : Bool := c = ' ' || c = '\n' || c = '\t' || c = '\r'

def skipSpace (cs : List Char) : List Char := cs.dropWhile isSpace

def keyword (expected : List Char) (result : Json) : Reader Json :=
  (Reader.exactly expected).map fun _ => result

def someDigits : Reader (List Char) := Reader.someOf Char.isDigit

def wholePart : Reader (List Char)
  | '0' :: rest => if rest.head?.any Char.isDigit then none else some (['0'], rest)
  | cs => someDigits cs

def decimalPart : Reader (Option (List Char))
  | '.' :: rest => (someDigits rest).map fun (digits, after) => (some digits, after)
  | cs => some (none, cs)

def signedDigits : Reader Int
  | '-' :: rest => (someDigits rest).map fun (digits, after) => (-(Decimal.ofDigits digits : Int), after)
  | '+' :: rest => (someDigits rest).map fun (digits, after) => ((Decimal.ofDigits digits : Int), after)
  | cs => (someDigits cs).map fun (digits, after) => ((Decimal.ofDigits digits : Int), after)

def powerPart : Reader (Option Int)
  | 'e' :: rest => (signedDigits rest).map fun (power, after) => (some power, after)
  | 'E' :: rest => (signedDigits rest).map fun (power, after) => (some power, after)
  | cs => some (none, cs)

def numeral : Reader Numeral := fun cs => do
  let (negative, unsigned) := match cs with
    | '-' :: rest => (true, rest)
    | _ => (false, cs)
  let (whole, afterWhole) ← wholePart unsigned
  let (decimals, afterDecimals) ← decimalPart afterWhole
  let (power, rest) ← powerPart afterDecimals
  return (⟨negative, whole, decimals, power⟩, rest)

def codeUnit : Reader Nat
  | a :: b :: c :: d :: rest => do
      return (((← hexValue? a) * 16 + (← hexValue? b)) * 256 + (← hexValue? c) * 16 + (← hexValue? d), rest)
  | _ => none

inductive Unit16 where
  | whole (c : Char)
  | high (code : Nat)
  | low (code : Nat)
deriving DecidableEq, Repr

def Unit16.ofCode (code : Nat) : Unit16 :=
  if 0xD800 ≤ code ∧ code < 0xDC00 then .high code
  else if 0xDC00 ≤ code ∧ code < 0xE000 then .low code
  else .whole (Char.ofNat code)

def escape : Reader Unit16
  | '"' :: rest => some (.whole '"', rest)
  | '\\' :: rest => some (.whole '\\', rest)
  | '/' :: rest => some (.whole '/', rest)
  | 'b' :: rest => some (.whole '\x08', rest)
  | 'f' :: rest => some (.whole '\x0c', rest)
  | 'n' :: rest => some (.whole '\n', rest)
  | 'r' :: rest => some (.whole '\r', rest)
  | 't' :: rest => some (.whole '\t', rest)
  | 'u' :: rest => (codeUnit rest).map fun (code, after) => (Unit16.ofCode code, after)
  | _ => none

def stringBody : (room : Nat) → Reader (List Unit16)
  | _, [] => none
  | 0, _ => none
  | room + 1, c :: rest =>
      if c = '"' then some ([], rest)
      else if c = '\\' then do
        let (unit, after) ← escape rest
        let (units, stop) ← stringBody room after
        return (unit :: units, stop)
      else if c.toNat < 0x20 then none
      else (stringBody room rest).map fun (units, stop) => (.whole c :: units, stop)

def joinUnits : List Unit16 → Option (List Char)
  | [] => some []
  | .whole c :: rest => (joinUnits rest).map (c :: ·)
  | .high h :: .low l :: rest =>
      (joinUnits rest).map (Char.ofNat (0x10000 + (h - 0xD800) * 0x400 + (l - 0xDC00)) :: ·)
  -- A surrogate without its partner leaves no text.
  | .high _ :: _ => none
  | .low _ :: _ => none

def stringText : Reader (Option String)
  | '"' :: rest => do
      let (units, after) ← stringBody rest.length rest
      return ((joinUnits units).map String.ofList, after)
  | _ => none

section

variable {α : Type} (item : Reader α) (close : Char)

def itemsUntil : (room : Nat) → Reader (List α)
  | 0, _ => none
  | room + 1, cs => do
      let (first, after) ← item cs
      match skipSpace after with
      | ',' :: rest =>
          let (more, stop) ← itemsUntil room (skipSpace rest)
          return (first :: more, stop)
      | c :: rest => if c = close then return ([first], rest) else none
      | [] => none

def bracketed : Reader (List α) := fun cs =>
  let start := skipSpace cs
  if start.head? = some close then some ([], start.drop 1) else itemsUntil item close start.length start

end

def member (item : Reader Json) : Reader (Option String × Json) := fun cs => do
  let (name, afterName) ← stringText cs
  match skipSpace afterName with
  | ':' :: rest =>
      let (value, stop) ← item (skipSpace rest)
      return ((name, value), stop)
  | _ => none

def value : (depth : Nat) → Reader Json
  | 0 => fun _ => none
  | depth + 1 => fun cs =>
      match cs with
      | [] => none
      | '[' :: rest => (bracketed (value depth) ']' rest).map fun (items, stop) => (.array items, stop)
      | '{' :: rest =>
          (bracketed (member (value depth)) '}' rest).map fun (members, stop) => (.object members, stop)
      | '"' :: _ => (stringText cs).map fun (text, stop) => (.string text, stop)
      | 'n' :: _ => keyword ['n', 'u', 'l', 'l'] .null cs
      | 't' :: _ => keyword ['t', 'r', 'u', 'e'] (.boolean true) cs
      | 'f' :: _ => keyword ['f', 'a', 'l', 's', 'e'] (.boolean false) cs
      | _ => (numeral cs).map fun (n, stop) => (.number n, stop)

def read? (text : String) : Option Json := do
  let cs := skipSpace text.toList
  let (v, rest) ← value (cs.length + 1) cs
  if (skipSpace rest).isEmpty then some v else none

end TargetEval.Json

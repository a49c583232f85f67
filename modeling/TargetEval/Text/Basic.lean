set_option autoImplicit false

namespace TargetEval

abbrev CodePoints := List (Nat × Nat)

def CodePoints.contains : CodePoints → Nat → Bool
  | [], _ => false
  | (low, high) :: rest, point => if point ≤ high then low ≤ point else CodePoints.contains rest point

def isBlank (c : Char) : Bool :=
  let n := c.toNat
  (9 ≤ n && n ≤ 13) || n = 0x20 || n = 0x85 || n = 0xA0 || n = 0x1680 || (0x2000 ≤ n && n ≤ 0x200A)
    || n = 0x2028 || n = 0x2029 || n = 0x202F || n = 0x205F || n = 0x3000

def trimChars (cs : List Char) : List Char :=
  ((cs.dropWhile isBlank).reverse.dropWhile isBlank).reverse

abbrev Reader (α : Type) := List Char → Option (α × List Char)

namespace Reader

variable {α β : Type}

def exactly (expected : List Char) : Reader Unit := fun cs =>
  if expected.isPrefixOf cs then some ((), cs.drop expected.length) else none

def someOf (p : Char → Bool) : Reader (List Char) := fun cs =>
  let run := cs.takeWhile p
  if run.isEmpty then none else some (run, cs.dropWhile p)

def map (f : α → β) (reader : Reader α) : Reader β := fun cs =>
  (reader cs).map fun (value, rest) => (f value, rest)

def either (first second : Reader α) : Reader α := fun cs =>
  match first cs with
  | some taken => some taken
  | none => second cs

end Reader

def hexValue? (c : Char) : Option Nat :=
  if c.isDigit then some (c.toNat - '0'.toNat)
  else if 'a' ≤ c && c ≤ 'f' then some (c.toNat - 'a'.toNat + 10)
  else if 'A' ≤ c && c ≤ 'F' then some (c.toNat - 'A'.toNat + 10)
  else none

def replaceFrom (old new : List Char) : Nat → List Char → List Char
  | _, [] => []
  -- The character belongs to an occurrence that has been replaced already.
  | skip + 1, _ :: rest => replaceFrom old new skip rest
  | 0, c :: rest =>
      if old.isPrefixOf (c :: rest) then new ++ replaceFrom old new (old.length - 1) rest
      else c :: replaceFrom old new 0 rest

def replaceChars (old new text : List Char) : List Char :=
  if old.isEmpty then new ++ text.flatMap (fun c => c :: new) else replaceFrom old new 0 text

def replaceText (old new text : String) : String :=
  String.ofList (replaceChars old.toList new.toList text.toList)

end TargetEval

set_option autoImplicit false

namespace TargetEval

def byteLength (cs : List Char) : Nat := cs.foldr (fun c count => c.utf8Size + count) 0

structure Cursor where
  offset : Nat
  rest : List Char
deriving DecidableEq, Repr

namespace Cursor

def ofText (text : String) : Cursor := ⟨0, text.toList⟩

def skip (c : Cursor) (n : Nat) : Cursor := ⟨c.offset + byteLength (c.rest.take n), c.rest.drop n⟩

def run (c : Cursor) (p : Char → Bool) : List Char := c.rest.takeWhile p

def skipRun (c : Cursor) (p : Char → Bool) : Cursor := c.skip (c.run p).length

def isSpace (c : Char) : Bool := c = ' ' || c = '\t' || c = '\r' || c = '\n'

def skipSpace (c : Cursor) : Cursor := c.skipRun isSpace

def upTo (c later : Cursor) : List Char := c.rest.take (c.rest.length - later.rest.length)

end Cursor

inductive Expected where
  | delimiter
  | exponent
deriving DecidableEq, Repr

structure Fault where
  offset : Nat
  expected : Expected
deriving DecidableEq, Repr

def Fault.message (f : Fault) : String :=
  match f.expected with
  | .delimiter => "unexpected input (Char)"
  | .exponent => "unexpected input (Float)"

-- The result of one reader: a value and the place behind it, or a fault. After `declined` another
-- reader may be tried at the same place, after `refused` none.
inductive Outcome (α : Type) where
  | accepted (value : α) (next : Cursor)
  | declined (fault : Fault)
  | refused (fault : Fault)

namespace Outcome

variable {α β : Type}

def orElse (first : Outcome α) (second : Unit → Outcome α) : Outcome α :=
  match first with
  | .declined _ => second ()
  | decided => decided

def andThen (first : Outcome α) (second : α → Cursor → Outcome β) : Outcome β :=
  match first with
  | .accepted value next => second value next
  | .declined fault => .declined fault
  | .refused fault => .refused fault

def commit (first : Outcome α) : Outcome α :=
  match first with
  | .declined fault => .refused fault
  | decided => decided

instance : OrElse (Outcome α) := ⟨orElse⟩

end Outcome

end TargetEval

import TargetEval.Error

set_option autoImplicit false

namespace TargetEval

inductive Event where
  | evaluated (function : String) (succeeded : Bool)
  | dropped (function : String)
deriving DecidableEq, Repr

structure Answer (α : Type) where
  outcome : Except Error α
  events : List Event

namespace Answer

variable {α β : Type}

def done (value : α) : Answer α := ⟨.ok value, []⟩

def fail (e : Error) : Answer α := ⟨.error e, []⟩

def ofExcept (outcome : Except Error α) : Answer α := ⟨outcome, []⟩

def andThen (first : Answer α) (next : α → Answer β) : Answer β :=
  match first.outcome with
  | .error e => ⟨.error e, first.events⟩
  | .ok value =>
      let second := next value
      ⟨second.outcome, first.events ++ second.events⟩

instance : Monad Answer where
  pure := done
  bind := andThen

instance : MonadLift (Except Error) Answer := ⟨ofExcept⟩

def succeeded (a : Answer α) : Bool := a.outcome.isOk

def followedBy (a : Answer α) (records : Bool) (event : Event) : Answer α :=
  if records then { a with events := a.events ++ [event] } else a

def inOrder (compute : α → Answer β) : List α → Answer (List β)
  | [] => done []
  | item :: rest =>
      (compute item).andThen fun value => (inOrder compute rest).andThen fun more => done (value :: more)

def allOf (compute : α → Answer β) (items : List α) : Answer (List β) :=
  let answers := items.map compute
  ⟨answers.mapM outcome, answers.flatMap events⟩

end Answer

end TargetEval

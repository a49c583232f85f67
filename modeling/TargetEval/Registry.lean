import TargetEval.ByName
import TargetEval.Descriptor.Basic
import TargetEval.Error

set_option autoImplicit false

namespace TargetEval

structure Registry (ι : Type) where
  bindings : ByName ι

namespace Registry

variable {ι : Type}

def empty : Registry ι := ⟨[]⟩

def contains (r : Registry ι) (name : String) : Bool := r.bindings.contains name

def taken (name : String) : Error := .configuration ("function '" ++ name ++ "' is already registered")

def register (r : Registry ι) (name : String) (implementation : ι) : Registry ι × Option Error :=
  if r.contains name then (r, some (taken name)) else (⟨r.bindings.insert name implementation⟩, none)

def registerAll (r : Registry ι) (implementation : ι) : List String → Registry ι × Option Error
  | [] => (r, none)
  | name :: rest =>
      match r.register name implementation with
      | (next, none) => next.registerAll implementation rest
      | (same, some e) => (same, some e)

def resolve (r : Registry ι) (name : String) (position : Nat) : Except Error ι :=
  match r.bindings.find? name with
  | some implementation => .ok implementation
  | none => .error (.unknownFunction name position)

def names (r : Registry ι) : List String := r.bindings.keys

def size (r : Registry ι) : Nat := r.bindings.length

def catalogue (r : Registry ι) (describe : ι → List Descriptor) : ByName Descriptor :=
  -- Of several descriptors of one name, that of the implementation with the last name counts.
  let described := r.bindings.flatMap fun binding => describe binding.2
  ByName.ofList ((described.filter fun d => r.contains d.name).map fun d => (d.name, d))

def shown (r : Registry ι) : String :=
  "FunctionRegistry \x7b functions: [" ++ ", ".intercalate (r.names.map quoted) ++ "] \x7d"

end Registry

end TargetEval

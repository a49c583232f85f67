set_option autoImplicit false

namespace TargetEval

abbrev ByName (α : Type) := List (String × α)

namespace ByName

variable {α : Type}

def find? (name : String) : ByName α → Option α
  | [] => none
  | (key, value) :: rest => if key = name then some value else find? name rest

def contains (name : String) (entries : ByName α) : Bool := (find? name entries).isSome

def insert (name : String) (value : α) : ByName α → ByName α
  | [] => [(name, value)]
  | (key, old) :: rest =>
      if key = name then (name, value) :: rest
      else if name < key then (name, value) :: (key, old) :: rest
      else (key, old) :: insert name value rest

def keys (entries : ByName α) : List String := entries.map Prod.fst

def ofList (entries : List (String × α)) : ByName α :=
  entries.foldl (fun map entry => insert entry.1 entry.2 map) []

theorem find_insert (name other : String) (value : α) (entries : ByName α) :
    find? other (insert name value entries) = if name = other then some value else find? other entries := by
  induction entries with
  | nil => simp [insert, find?]
  | cons entry rest ih =>
      obtain ⟨key, old⟩ := entry
      by_cases same : key = name
      · subst same
        by_cases hit : key = other <;> simp [insert, find?, hit]
      · by_cases before : name < key
        · simp [insert, find?, same, before]
        · simp only [insert, if_neg same, if_neg before, find?]
          by_cases hit : key = other
          · subst hit
            simp [Ne.symm same]
          · simp [hit, ih]

def lastValue (name : String) (entries : List (String × α)) : Option α :=
  (entries.reverse.find? fun entry => entry.1 = name).map Prod.snd

theorem find_inserted_each (name : String) (entries : List (String × α)) (map : ByName α) :
    find? name (entries.foldl (fun map entry => insert entry.1 entry.2 map) map) =
      (lastValue name entries).or (find? name map) := by
  induction entries generalizing map with
  | nil => rfl
  | cons entry rest ih =>
      have last : lastValue name (entry :: rest) =
          (lastValue name rest).or (if entry.1 = name then some entry.2 else none) := by
        by_cases hit : entry.1 = name <;> simp [lastValue, List.find?_append, hit]
      rw [List.foldl_cons, ih, find_insert, last, Option.or_assoc]
      by_cases hit : entry.1 = name <;> simp [hit]

theorem find_of_list (name : String) (entries : List (String × α)) :
    find? name (ofList entries) = lastValue name entries := by
  rw [ofList, find_inserted_each, find?, Option.or_none]

end ByName

end TargetEval

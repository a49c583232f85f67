import TargetEval.Proofs.Registry
import TargetEval.Proofs.Target.Faults
import TargetEval.Proofs.Target.Grammar

set_option autoImplicit false

namespace TargetEval

theorem byte_length_size (cs : List Char) : byteLength cs = (String.ofList cs).utf8ByteSize := by
  induction cs with
  | nil => rfl
  | cons c rest ih =>
      have split : String.ofList (c :: rest) = String.singleton c ++ String.ofList rest := by
        rw [String.singleton_eq_ofList, ← String.ofList_append, List.singleton_append]
      rw [byte_length_cons, ih, split, String.utf8ByteSize_append, String.utf8ByteSize_singleton]

theorem ByName.mem_inserted_each {α : Type} (entries : List (String × α)) (map : ByName α) (entry : String × α)
    (member : entry ∈ entries.foldl (fun map entry => ByName.insert entry.1 entry.2 map) map) :
    entry ∈ map ∨ entry ∈ entries := by
  induction entries generalizing map with
  | nil => exact .inl member
  | cons first rest ih =>
      rcases ih _ member with earlier | later
      · exact (ByName.mem_insert _ _ _ entry earlier).elim (fun same => .inr (by simp [same])) .inl
      · exact .inr (List.mem_cons_of_mem _ later)

namespace Target

/-- The characters are written in the text at a byte offset. The offset lies between two characters
or at an end, and it is the size of the text less what is left from there, which is no more. -/
structure StandsAt (text : String) (offset : Nat) (cs : List Char) : Prop where
  boundary : (⟨offset⟩ : String.Pos.Raw).IsValid text
  written : ∃ before after, text.toList = before ++ (cs ++ after) ∧ offset = byteLength before ∧
    byteLength (cs ++ after) ≤ text.utf8ByteSize ∧ offset = text.utf8ByteSize - byteLength (cs ++ after)

theorem stands_at (text : String) (before cs after : List Char) (whole : text.toList = before ++ (cs ++ after)) :
    StandsAt text (byteLength before) cs := by
  have same : text = String.ofList before ++ String.ofList (cs ++ after) := by
    rw [← String.ofList_append, ← whole, String.ofList_toList]
  have size : text.utf8ByteSize = byteLength before + byteLength (cs ++ after) := by
    rw [same, String.utf8ByteSize_append, byte_length_size, byte_length_size]
  refine ⟨String.Pos.Raw.isValid_iff_exists_append.mpr ⟨_, _, same, ?_⟩, before, after, whole, rfl, by omega, by omega⟩
  rw [byte_length_size]
  rfl

theorem leads_stands (text : String) (place : Cursor) (leads : (Cursor.ofText text).Leads place) :
    StandsAt text place.offset [] := by
  obtain ⟨before, reads⟩ := leads
  have here := stands_at text before [] place.rest reads.rest
  have offset : place.offset = byteLength before := by
    rw [reads.offset]
    exact Nat.zero_add _
  rwa [offset]

inductive Occurs (node : Expr) : Expr → Prop where
  | itself : Occurs node node
  | positional (c : Call Expr) (e : Expr) (member : e ∈ c.arguments) (inside : Occurs node e) : Occurs node (.call c)
  | named (c : Call Expr) (key : String) (e : Expr) (member : (key, e) ∈ c.named) (inside : Occurs node e) :
      Occurs node (.call c)

def spelled (c : Call Expr) (gap lead trail : Space) : List Char :=
  c.name.toList ++ (gap.1 ++ '(' :: (lead.1 ++ (c.argumentText.toList ++ (trail.1 ++ [')']))))

inductive WrittenTo (text : String) : Expr → (stop : Nat) → Prop where
  | metric (name : String) (position : Nat) (stands : StandsAt text position name.toList) :
      WrittenTo text (.metric name position) (position + byteLength name.toList)
  | call (c : Call Expr) (gap lead trail : Space) (stands : StandsAt text c.position (spelled c gap lead trail)) :
      WrittenTo text (.call c) (c.position + byteLength (spelled c gap lead trail))

def children (c : Call Expr) : List Expr := c.arguments ++ c.named.map Prod.snd

def places (es : List Expr) : List Nat := (es.filter Expr.isSeries).map Expr.position

/-- The node is written at its place. The children of a call are written between its parentheses, the
positional ones one behind the other. -/
inductive Placed (text : String) : Expr → Prop where
  | metric (name : String) (position : Nat) (stands : StandsAt text position name.toList) :
      Placed text (.metric name position)
  | call (c : Call Expr) (gap lead trail : Space) (stands : StandsAt text c.position (spelled c gap lead trail))
      (inside : ∀ child ∈ children c, child.isSeries = true → ∃ stop, WrittenTo text child stop ∧
        c.position + byteLength (c.name.toList ++ (gap.1 ++ ['('])) ≤ child.position ∧
        stop < c.position + byteLength (spelled c gap lead trail))
      (ordered : (places c.arguments).Pairwise (· < ·)) :
      Placed text (.call c)

section

variable {Name : List Char → Prop}

theorem Phrase.tree_position (p : Phrase Name) (o : Nat) (series : (p.tree o).isSeries = true) :
    (p.tree o).position = o := by
  cases p with
  | metric _ _ => rfl
  | call _ _ _ _ _ => rfl
  | number _ => cases series
  | string _ => cases series
  | boolean _ => cases series

theorem Phrase.places_tree (p : Phrase Name) (o : Nat) : ∀ place ∈ places [p.tree o], place = o := by
  intro place member
  obtain ⟨e, kept, rfl⟩ := List.mem_map.mp member
  obtain ⟨here, series⟩ := List.mem_filter.mp kept
  rw [List.mem_singleton.mp here] at series ⊢
  exact p.tree_position o series

theorem places_append (xs ys : List Expr) : places (xs ++ ys) = places xs ++ places ys := by
  simp [places]

theorem Item.places_values (item : Item Name) (o : Nat) : ∀ place ∈ places (item.values o), place = o := by
  cases item with
  | positional value => exact value.places_tree o
  | named _ _ _ _ => exact fun place member => by cases member

theorem byte_length_positive (cs : List Char) (occupied : cs ≠ []) : 0 < byteLength cs := by
  cases cs with
  | nil => exact absurd rfl occupied
  | cons c rest =>
      rw [byte_length_cons]
      exact Nat.add_pos_left c.utf8Size_pos _

theorem item_before (item : Item Name) (occupied : item.chars ≠ []) (o : Nat) (later : List Expr)
    (behind : ∀ place ∈ places later, o + byteLength item.chars ≤ place) (ordered : (places later).Pairwise (· < ·)) :
    (∀ place ∈ places (item.values o ++ later), o ≤ place) ∧ (places (item.values o ++ later)).Pairwise (· < ·) := by
  have here := item.places_values o
  have positive := byte_length_positive item.chars occupied
  rw [places_append]
  constructor
  · intro place member
    rcases List.mem_append.mp member with first | second
    · exact Nat.le_of_eq (here place first).symm
    · exact Nat.le_trans (Nat.le_add_right _ _) (behind place second)
  · refine List.pairwise_append.mpr ⟨?_, ordered, fun x first y second => ?_⟩
    · cases item with
      | positional value => by_cases series : (value.tree o).isSeries <;> simp [places, Item.values, series]
      | named _ _ _ _ => exact List.Pairwise.nil
    · have start := here x first
      have bound := behind y second
      omega

section

variable (valid : ∀ cs, Name cs → IsMetric cs)
include valid

theorem Further.ordered : ∀ (more : Further Name) (o : Nat),
    (∀ place ∈ places (more.values o), o ≤ place) ∧ (places (more.values o)).Pairwise (· < ·)
  | .nothing, _ => ⟨fun place member => (by cases member), List.Pairwise.nil⟩
  | .next before after item later, o => by
      obtain ⟨behind, ordered⟩ := later.ordered (o + byteLength (before.1 ++ ',' :: after.1) + byteLength item.chars)
      obtain ⟨bound, increasing⟩ := item_before item (item.solid valid).occupied _ _ behind ordered
      exact ⟨fun place member => Nat.le_trans (Nat.le_add_right _ _) (bound place member), increasing⟩

theorem Inside.ordered (inside : Inside Name) (o : Nat) : (places (inside.values o)).Pairwise (· < ·) := by
  cases inside with
  | nothing => exact List.Pairwise.nil
  | items first more =>
      obtain ⟨behind, ordered⟩ := more.ordered valid (o + byteLength first.chars)
      exact (item_before first (first.solid valid).occupied o _ behind ordered).2

end

def From (Name : List Char → Prop) (cs : List Char) (offset : Nat) (e : Expr) : Prop :=
  ∃ (q : Phrase Name) (front back : List Char), cs = front ++ (q.chars ++ back) ∧ e = q.tree (offset + byteLength front)

theorem From.within (front back : List Char) {cs : List Char} {offset : Nat} {e : Expr}
    (inner : From Name cs (offset + byteLength front) e) : From Name (front ++ (cs ++ back)) offset e := by
  obtain ⟨q, before, after, rfl, rfl⟩ := inner
  refine ⟨q, front ++ before, after ++ back, by simp, ?_⟩
  rw [byte_length_append, Nat.add_assoc]

theorem Item.from (item : Item Name) (o : Nat) (e : Expr) (member : e ∈ item.values o ++ (item.entries o).map Prod.snd) :
    From Name item.chars o e := by
  cases item with
  | positional value =>
      have same : e = value.tree o := by simpa [Item.values, Item.entries] using member
      exact ⟨value, [], [], by simp [Item.chars], by simp [same, byte_length_nil]⟩
  | named key before after value =>
      have same : e = value.tree (o + byteLength (key.chars ++ (before.1 ++ '=' :: after.1))) := by
        simpa [Item.values, Item.entries] using member
      exact ⟨value, key.chars ++ (before.1 ++ '=' :: after.1), [], by simp [Item.chars], same⟩

theorem item_or_later (item : Item Name) (o : Nat) (values : List Expr) (entries : List (String × Expr)) (e : Expr)
    (member : e ∈ (item.values o ++ values) ++ (item.entries o ++ entries).map Prod.snd) :
    From Name item.chars o e ∨ e ∈ values ++ entries.map Prod.snd := by
  have here := item.from o e
  simp only [List.map_append, List.mem_append] at member here ⊢
  rcases member with (value | value) | (entry | entry)
  · exact .inl (here (.inl value))
  · exact .inr (.inl value)
  · exact .inl (here (.inr entry))
  · exact .inr (.inr entry)

theorem Further.from (more : Further Name) (o : Nat) (e : Expr)
    (member : e ∈ more.values o ++ (more.entries o).map Prod.snd) : From Name more.chars o e := by
  match more with
  | .nothing => cases member
  | .next before after item later =>
      have split : (Further.next before after item later).chars =
          (before.1 ++ ',' :: after.1) ++ (item.chars ++ later.chars) := by simp [Further.chars]
      rw [split]
      rcases item_or_later item _ _ _ e member with here | there
      · exact here.within _ _
      · have inner := later.from _ e there
        have whole : From Name (item.chars ++ (later.chars ++ [])) (o + byteLength (before.1 ++ ',' :: after.1)) e :=
          inner.within _ _
        rw [List.append_nil] at whole
        simpa using whole.within _ []

theorem Inside.from (inside : Inside Name) (o : Nat) (e : Expr)
    (member : e ∈ inside.values o ++ (inside.entries o).map Prod.snd) : From Name inside.chars o e := by
  cases inside with
  | nothing => cases member
  | items first more =>
      rcases item_or_later first _ _ _ e member with here | there
      · simpa [Inside.chars, byte_length_nil] using here.within [] more.chars
      · have inner := more.from _ e there
        simpa [Inside.chars] using inner.within _ []

def callAt (name : Identifier) (gap lead : Space) (inside : Inside Name) (o : Nat) : Call Expr where
  name := name.name
  arguments := inside.values (o + byteLength (name.chars ++ (gap.1 ++ '(' :: lead.1)))
  named := ByName.ofList (inside.entries (o + byteLength (name.chars ++ (gap.1 ++ '(' :: lead.1))))
  argumentText := String.ofList inside.chars
  position := o

theorem spelled_call (name : Identifier) (gap lead : Space) (inside : Inside Name) (trail : Space) (o : Nat) :
    spelled (callAt name gap lead inside o) gap lead trail = (Phrase.call name gap lead inside trail).chars := by
  simp only [spelled, callAt, Identifier.name, String.toList_ofList, Phrase.chars]

theorem Phrase.written_to (p : Phrase Name) (text : String) (before after : List Char)
    (whole : text.toList = before ++ (p.chars ++ after)) (series : (p.tree (byteLength before)).isSeries = true) :
    WrittenTo text (p.tree (byteLength before)) (byteLength before + byteLength p.chars) := by
  have stands := stands_at text before p.chars after whole
  cases p with
  | metric name _ =>
      have named : (String.ofList name).toList = name := String.toList_ofList
      have written : WrittenTo text _ _ := .metric (String.ofList name) (byteLength before) (by rwa [named])
      rwa [named] at written
  | call name gap lead inside trail =>
      have chars := spelled_call name gap lead inside trail (byteLength before)
      have written : WrittenTo text _ _ := .call _ gap lead trail (by rwa [chars])
      rwa [chars] at written
  | number _ => cases series
  | string _ => cases series
  | boolean _ => cases series

theorem child_phrase (name : Identifier) (gap lead : Space) (inside : Inside Name) (trail : Space) (text : String)
    (before after : List Char) (whole : text.toList = before ++ ((Phrase.call name gap lead inside trail).chars ++ after))
    (e : Expr) (member : e ∈ children (callAt name gap lead inside (byteLength before))) :
    ∃ (q : Phrase Name) (front back : List Char), text.toList = front ++ (q.chars ++ back) ∧
      e = q.tree (byteLength front) ∧ byteLength before + byteLength (name.chars ++ (gap.1 ++ ['('])) ≤ byteLength front ∧
      byteLength front + byteLength q.chars <
        byteLength before + byteLength (Phrase.call name gap lead inside trail).chars := by
  let start := byteLength before + byteLength (name.chars ++ (gap.1 ++ '(' :: lead.1))
  have listed : e ∈ inside.values start ++ (inside.entries start).map Prod.snd := by
    rcases List.mem_append.mp member with value | entry
    · exact List.mem_append_left _ value
    · obtain ⟨pair, kept, rfl⟩ := List.mem_map.mp entry
      rcases ByName.mem_inserted_each _ [] pair kept with impossible | here
      · cases impossible
      · exact List.mem_append_right _ (List.mem_map_of_mem here)
  obtain ⟨q, front, back, split, rfl⟩ := inside.from start e listed
  let opening := before ++ (name.chars ++ (gap.1 ++ '(' :: lead.1))
  refine ⟨q, opening ++ front, back ++ (trail.1 ++ ')' :: after), ?_, congrArg q.tree ?_, ?_, ?_⟩
  · rw [whole, Phrase.chars, split]
    simp [opening]
  · simp only [start, opening, byte_length_append]
  · simp only [opening, byte_length_append, byte_length_cons, byte_length_nil]
    omega
  · rw [Phrase.chars, split]
    simp only [opening, byte_length_append, byte_length_cons, byte_length_nil]
    have close : ')'.utf8Size = 1 := rfl
    omega

variable (valid : ∀ cs, Name cs → IsMetric cs)
include valid

theorem Phrase.placed (p : Phrase Name) (text : String) (before after : List Char)
    (whole : text.toList = before ++ (p.chars ++ after)) (series : (p.tree (byteLength before)).isSeries = true) :
    Placed text (p.tree (byteLength before)) := by
  have stands := stands_at text before p.chars after whole
  cases p with
  | metric name _ => exact .metric _ _ (by rwa [String.toList_ofList])
  | call name gap lead inside trail =>
      have chars := spelled_call name gap lead inside trail (byteLength before)
      refine .call (callAt name gap lead inside (byteLength before)) gap lead trail (by rwa [chars]) ?_ (inside.ordered valid _)
      intro child member isSeries
      obtain ⟨q, front, back, split, rfl, opened, closed⟩ :=
        child_phrase name gap lead inside trail text before after whole child member
      refine ⟨_, q.written_to text front back split isSeries, ?_, ?_⟩
      · rw [q.tree_position _ isSeries]
        simpa [callAt, Identifier.name] using opened
      · rwa [chars]
  | number _ => cases series
  | string _ => cases series
  | boolean _ => cases series

theorem Phrase.nodes_placed (text : String) (node e : Expr) (occurs : Occurs node e) (series : node.isSeries = true) :
    ∀ (p : Phrase Name) (before after : List Char), text.toList = before ++ (p.chars ++ after) →
      e = p.tree (byteLength before) → Placed text node := by
  -- A child of a call is a phrase of its own, to which the induction hypothesis applies.
  have descend : ∀ (c : Call Expr) (child : Expr), child ∈ children c →
      (∀ (q : Phrase Name) (front back : List Char), text.toList = front ++ (q.chars ++ back) →
        child = q.tree (byteLength front) → Placed text node) →
      ∀ (p : Phrase Name) (before after : List Char), text.toList = before ++ (p.chars ++ after) →
        Expr.call c = p.tree (byteLength before) → Placed text node := by
    intro c child member inner p before after whole same
    cases p with
    | call name gap lead inside trail =>
        have call : c = callAt name gap lead inside (byteLength before) := Expr.call.inj same
        rw [call] at member
        obtain ⟨q, front, back, split, tree, _⟩ := child_phrase name gap lead inside trail text before after whole child member
        exact inner q front back split tree
    | metric _ _ => cases same
    | number _ => cases same
    | string _ => cases same
    | boolean _ => cases same
  -- The phrase of the node is found on the way down to it.
  induction occurs with
  | itself =>
      rintro p before after whole rfl
      exact p.placed valid text before after whole series
  | positional c child member _ ih => exact descend c child (List.mem_append_left _ member) ih
  | named c key child member _ ih =>
      exact descend c child (List.mem_append_right _ (List.mem_map_of_mem (f := Prod.snd) member)) ih

end

/-- The places of a text. In every tree that is read, each metric and each call is written at its own
place, with the children of a call between its parentheses and the positional ones in order. Every
text that is not read is refused with a place in it. -/
theorem places_in_text (text : String) :
    (∀ e, read text = .ok e → ∀ node, Occurs node e → node.isSeries = true → Placed text node) ∧
    ∀ error, read text = .error error → ∃ place detail, error = .parse place detail ∧ StandsAt text place [] := by
  constructor
  · intro e accepted node occurs series
    obtain ⟨p, before, after, whole, tree⟩ := (read_iff text e).mp accepted
    exact Phrase.nodes_placed (fun _ isMetric => isMetric) text node e occurs series p before.1 after.1 whole tree
  · intro error failed
    obtain ⟨place, detail, leads, same⟩ := read_fault text error failed
    exact ⟨place.offset, detail, same, leads_stands text place leads⟩

def accented : Expr :=
  .call
    { name := "sum"
      arguments := [.metric "ü.a" 4]
      named := [("k", .call ⟨"max", [.metric "c.{d,e}" 25], [], "c.{d,e}", 20⟩)]
      argumentText := "ü.a , k=b, k = max( c.{d,e} )"
      position := 0 }

theorem accented_places :
    read "sum(ü.a , k=b, k = max( c.{d,e} ))" = .ok accented ∧ Occurs (.metric "c.{d,e}" 25) accented ∧
      Placed "sum(ü.a , k=b, k = max( c.{d,e} ))" (.metric "c.{d,e}" 25) ∧
      read "ü.a)" = .error (.parse 4 "unexpected trailing input ')'") ∧ StandsAt "ü.a)" 4 [] := by
  have accepted : read "sum(ü.a , k=b, k = max( c.{d,e} ))" = .ok accented := rfl
  have occurs : Occurs (.metric "c.{d,e}" 25) accented :=
    .named _ "k" _ List.mem_cons_self (.positional _ _ List.mem_cons_self .itself)
  have refused : read "ü.a)" = .error (.parse 4 "unexpected trailing input ')'") := rfl
  obtain ⟨place, _, same, stands⟩ := (places_in_text "ü.a)").2 _ refused
  cases same
  exact ⟨accepted, occurs, (places_in_text _).1 _ accepted _ occurs rfl, refused, stands⟩

end Target

end TargetEval

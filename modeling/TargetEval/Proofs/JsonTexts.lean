import TargetEval.Json.Reading
import TargetEval.Json.Writing
import Mathlib.Data.List.Basic

set_option autoImplicit false

namespace TargetEval.Json

inductive Textual : Json → Prop where
  | null : Textual .null
  | boolean (b : Bool) : Textual (.boolean b)
  | string (s : String) : Textual (.string (some s))
  | array (items : List Json) (each : ∀ item ∈ items, Textual item) : Textual (.array items)
  | object (members : List (Option String × Json)) (named : ∀ m ∈ members, m.1.isSome)
      (each : ∀ m ∈ members, Textual m.2) : Textual (.object members)

section Strings

theorem hex_value_of_digit (n : Nat) (least : n < 16) : hexValue? (hexDigit n) = some n := by
  revert n
  decide

theorem escape_control (c : Char) (control : c.toNat < 0x20) (rest : List Char) :
    escape ('u' :: '0' :: '0' :: hexDigit (c.toNat / 16) :: hexDigit (c.toNat % 16) :: rest) = some (.whole c, rest) := by
  have zero : hexValue? '0' = some 0 := by decide
  have code : codeUnit ('0' :: '0' :: hexDigit (c.toNat / 16) :: hexDigit (c.toNat % 16) :: rest) = some (c.toNat, rest) := by
    rw [codeUnit, zero, hex_value_of_digit _ (by omega), hex_value_of_digit _ (by omega)]
    change some (((0 * 16 + 0) * 256 + c.toNat / 16 * 16 + c.toNat % 16), rest) = _
    rw [show (0 * 16 + 0) * 256 + c.toNat / 16 * 16 + c.toNat % 16 = c.toNat by omega]
  have whole : Unit16.ofCode c.toNat = .whole c := by
    rw [Unit16.ofCode, if_neg (by omega), if_neg (by omega), Char.ofNat_toNat]
  rw [escape, code, Option.map_some]
  dsimp only
  rw [whole]

theorem string_body_escaped (c : Char) (room : Nat) (rest : List Char) :
    stringBody (room + 1) (escaped c ++ rest) = (stringBody room rest).map fun (units, stop) => (.whole c :: units, stop) := by
  -- Escaped or not, a character takes one round of the reader.
  have behind (cs : List Char) (taken : escape (cs ++ rest) = some (.whole c, rest)) :
      stringBody (room + 1) ('\\' :: cs ++ rest) = (stringBody room rest).map fun (units, stop) => (.whole c :: units, stop) := by
    rw [List.cons_append, stringBody, if_neg (by decide), if_pos rfl, taken, Option.bind_eq_bind, Option.bind_some]
    dsimp only
    cases stringBody room rest with
    | none => rfl
    | some found => rfl
  unfold escaped
  split
  case isTrue quote => exact behind ['"'] (by rw [quote]; rfl)
  split
  case isTrue backslash => exact behind ['\\'] (by rw [backslash]; rfl)
  split
  case isTrue backspace => exact behind ['b'] (by rw [backspace]; rfl)
  split
  case isTrue tab => exact behind ['t'] (by rw [tab]; rfl)
  split
  case isTrue newline => exact behind ['n'] (by rw [newline]; rfl)
  split
  case isTrue feed => exact behind ['f'] (by rw [feed]; rfl)
  split
  case isTrue carriage => exact behind ['r'] (by rw [carriage]; rfl)
  split
  case isTrue control => exact behind ['u', '0', '0', _, _] (escape_control c control rest)
  case isFalse notQuote notBackslash _ _ _ _ _ notControl =>
    rw [List.singleton_append, stringBody, if_neg notQuote, if_neg notBackslash, if_neg notControl]

theorem string_body_read (cs : List Char) (room : Nat) (enough : cs.length < room) (rest : List Char) :
    stringBody room (cs.flatMap escaped ++ '"' :: rest) = some (cs.map .whole, rest) := by
  induction cs generalizing room with
  | nil =>
      obtain ⟨room, rfl⟩ := Nat.exists_eq_add_of_lt enough
      rw [List.flatMap_nil, List.nil_append, stringBody, if_pos rfl, List.map_nil]
  | cons c cs ih =>
      obtain ⟨room, rfl⟩ : ∃ n, room = n + 1 := ⟨room - 1, by omega⟩
      rw [List.flatMap_cons, List.append_assoc, string_body_escaped, ih room (by simpa using enough), Option.map_some,
        List.map_cons]

theorem join_units_whole (cs : List Char) : joinUnits (cs.map .whole) = some cs := by
  induction cs with
  | nil => rfl
  | cons c cs ih => rw [List.map_cons, joinUnits, ih, Option.map_some]

theorem escaped_length (c : Char) : 1 ≤ (escaped c).length := by
  unfold escaped
  repeat' split
  all_goals exact Nat.le_add_left 1 _

theorem length_le_escaped (cs : List Char) : cs.length ≤ (cs.flatMap escaped).length := by
  induction cs with
  | nil => exact Nat.le_refl _
  | cons c cs ih =>
      rw [List.flatMap_cons, List.length_append, List.length_cons, Nat.add_comm]
      exact Nat.add_le_add (escaped_length c) ih

theorem string_text_read (s : String) (rest : List Char) : stringText (stringChars s ++ rest) = some (some s, rest) := by
  have enough : s.toList.length < (s.toList.flatMap escaped ++ '"' :: rest).length := by
    rw [List.length_append, List.length_cons]
    have each := length_le_escaped s.toList
    omega
  rw [stringChars, List.append_assoc, List.cons_append, List.singleton_append, stringText, string_body_read _ _ enough]
  simp only [Option.bind_eq_bind, Option.bind_some, join_units_whole, Option.map_some, String.ofList_toList, Option.pure_def]

end Strings

section Brackets

variable {α : Type}

def Opens (close : Char) (cs : List Char) : Prop := ∃ c rest, cs = c :: rest ∧ isSpace c = false ∧ c ≠ close

theorem Opens.append {close : Char} {cs : List Char} (opens : Opens close cs) (rest : List Char) : Opens close (cs ++ rest) := by
  obtain ⟨c, more, rfl, space, other⟩ := opens
  exact ⟨c, more ++ rest, rfl, space, other⟩

theorem Opens.skip {close : Char} {cs : List Char} (opens : Opens close cs) : skipSpace cs = cs := by
  obtain ⟨c, rest, rfl, space, _⟩ := opens
  exact List.dropWhile_cons_of_neg (by rw [space]; decide)

theorem Opens.head {close : Char} {cs : List Char} (opens : Opens close cs) : cs.head? ≠ some close := by
  obtain ⟨c, rest, rfl, _, other⟩ := opens
  exact fun same => other (Option.some.inj same)

theorem skip_line_break (style : Style) (level : Nat) (rest : List Char) :
    skipSpace (style.lineBreak level ++ rest) = skipSpace rest := by
  cases style with
  | compact => rfl
  | indented =>
      refine List.dropWhile_append_of_pos fun c among => ?_
      rcases List.mem_cons.mp among with rfl | blank
      · rfl
      · rw [List.eq_of_mem_replicate blank]
        rfl

theorem skip_bracket (style : Style) (level : Nat) (c : Char) (dark : isSpace c = false) (rest : List Char) :
    skipSpace (style.lineBreak level ++ c :: rest) = c :: rest := by
  rw [skip_line_break]
  exact List.dropWhile_cons_of_neg (by rw [dark]; decide)

def commaSeparated (style : Style) (level : Nat) (texts : List (List Char)) : List Char :=
  texts.flatMap fun text => ',' :: style.lineBreak level ++ text

theorem comma_separated_cons (style : Style) (level : Nat) (text : List Char) (texts : List (List Char)) (rest : List Char) :
    commaSeparated style level (text :: texts) ++ rest =
      ',' :: (style.lineBreak level ++ (text ++ (commaSeparated style level texts ++ rest))) := by
  simp only [commaSeparated, List.flatMap_cons, List.cons_append, List.append_assoc]

variable (item : Reader α) (close : Char) (style : Style) (shown : α → List Char)

def Reads (values : List α) : Prop :=
  ∀ v ∈ values, Opens close (shown v) ∧ ∀ rest, item (shown v ++ rest) = some (v, rest)

theorem items_until_closed (plain : close ≠ ',') (room : Nat) (cs after rest : List Char) (first : α)
    (taken : item cs = some (first, after)) (closed : skipSpace after = close :: rest) :
    itemsUntil item close (room + 1) cs = some ([first], rest) := by
  rw [itemsUntil, taken, Option.bind_eq_bind, Option.bind_some]
  dsimp only
  rw [closed]
  split
  next same => exact absurd (List.cons.inj same).1 plain
  next same =>
    obtain ⟨rfl, rfl⟩ := List.cons.inj same
    rw [if_pos rfl]
    rfl
  next same => cases same

theorem items_until_comma (room : Nat) (cs after rest stop : List Char) (first : α) (more : List α)
    (taken : item cs = some (first, after)) (comma : skipSpace after = ',' :: rest)
    (others : itemsUntil item close room (skipSpace rest) = some (more, stop)) :
    itemsUntil item close (room + 1) cs = some (first :: more, stop) := by
  rw [itemsUntil, taken, Option.bind_eq_bind, Option.bind_some]
  dsimp only
  rw [comma]
  change (itemsUntil item close room (skipSpace rest)).bind _ = _
  rw [others]
  rfl

theorem items_read (dark : isSpace close = false) (plain : close ≠ ',') (inner outer : Nat) (first : α) (more : List α)
    (reads : Reads item close shown (first :: more)) (room : Nat) (enough : more.length < room) (rest : List Char) :
    itemsUntil item close room
        (shown first ++ (commaSeparated style inner (more.map shown) ++ (style.lineBreak outer ++ close :: rest))) =
      some (first :: more, rest) := by
  induction more generalizing first room with
  | nil =>
      obtain ⟨room, rfl⟩ := Nat.exists_eq_add_of_lt enough
      exact items_until_closed item close plain _ _ _ rest first ((reads first (List.mem_cons_self ..)).2 _)
        (skip_bracket style outer close dark rest)
  | cons second more ih =>
      obtain ⟨room, rfl⟩ : ∃ n, room = n + 1 := ⟨room - 1, by omega⟩
      have later : Reads item close shown (second :: more) := fun v among => reads v (List.mem_cons_of_mem _ among)
      rw [List.map_cons, comma_separated_cons]
      refine items_until_comma item close room _ _ _ rest first (second :: more)
        ((reads first (List.mem_cons_self ..)).2 _) (List.dropWhile_cons_of_neg (by decide)) ?_
      rw [skip_line_break, ((later second (List.mem_cons_self ..)).1.append _).skip]
      exact ih second later room (by simpa using enough)

def listed (style : Style) (level : Nat) : List (List Char) → List Char
  | [] => []
  | first :: rest => style.lineBreak (level + 1) ++ first ++ commaSeparated style (level + 1) rest ++ style.lineBreak level

theorem length_le_comma_separated (style : Style) (level : Nat) (texts : List (List Char)) :
    texts.length ≤ (commaSeparated style level texts).length := by
  induction texts with
  | nil => exact Nat.le_refl _
  | cons text texts ih =>
      have split := congrArg List.length (comma_separated_cons style level text texts [])
      simp only [List.append_nil, List.length_cons, List.length_append] at split ⊢
      omega

theorem bracketed_read (dark : isSpace close = false) (plain : close ≠ ',') (level : Nat) (values : List α)
    (reads : Reads item close shown values) (rest : List Char) :
    bracketed item close (listed style level (values.map shown) ++ close :: rest) = some (values, rest) := by
  cases values with
  | nil =>
      have skipped : skipSpace (close :: rest) = close :: rest := List.dropWhile_cons_of_neg (by rw [dark]; decide)
      rw [List.map_nil, listed, List.nil_append, bracketed]
      simp only [skipped, List.head?_cons, List.drop_one, List.tail_cons, if_true]
  | cons first more =>
      have opens := (reads first (List.mem_cons_self ..)).1
      rw [List.map_cons, listed, List.append_assoc, List.append_assoc, List.append_assoc, bracketed, skip_line_break,
        (opens.append _).skip]
      simp only [if_neg (opens.append _).head]
      refine items_read item close style shown dark plain (level + 1) level first more reads _ ?_ rest
      have long := length_le_comma_separated style (level + 1) (more.map shown)
      simp only [List.length_map, List.length_append, List.length_cons] at long ⊢
      omega

end Brackets

section Values

variable (style : Style)

theorem item_chars_separated (level : Nat) (items : List Json) :
    itemChars style level items = commaSeparated style level (items.map (chars style level)) := by
  induction items with
  | nil => rw [itemChars]; rfl
  | cons item items ih => rw [itemChars, ih]; rfl

def memberText (level : Nat) (m : Option String × Json) : List Char :=
  stringChars (m.1.getD "") ++ style.colon ++ chars style level m.2

theorem member_chars_separated (level : Nat) (members : List (Option String × Json)) :
    memberChars style level members = commaSeparated style level (members.map (memberText style level)) := by
  induction members with
  | nil => rw [memberChars]; rfl
  | cons m members ih =>
      rw [memberChars, ih, List.map_cons, commaSeparated, commaSeparated, List.flatMap_cons, memberText]
      simp only [List.cons_append, List.append_assoc]

theorem array_chars (level : Nat) (items : List Json) :
    chars style level (.array items) = '[' :: (listed style level (items.map (chars style (level + 1))) ++ [']']) := by
  cases items with
  | nil => rw [chars]; rfl
  | cons item items => rw [chars, item_chars_separated]; rfl

theorem object_chars (level : Nat) (members : List (Option String × Json)) :
    chars style level (.object members) =
      '{' :: (listed style level (members.map (memberText style (level + 1))) ++ ['}']) := by
  cases members with
  | nil => rw [chars]; rfl
  | cons m members =>
      obtain ⟨name, item⟩ := m
      rw [chars, member_chars_separated, List.map_cons, listed, memberText]
      simp only [List.cons_append, List.append_assoc]

theorem length_of_listed (level : Nat) (texts : List (List Char)) (text : List Char) (among : text ∈ texts) :
    text.length ≤ (listed style level texts).length := by
  cases texts with
  | nil => cases among
  | cons first rest =>
      rw [listed, List.length_append, List.length_append, List.length_append]
      rcases List.mem_cons.mp among with rfl | behind
      · omega
      · have part : text.length ≤ (commaSeparated style (level + 1) rest).length := by
          obtain ⟨before, after, rfl⟩ := List.append_of_mem behind
          rw [commaSeparated, List.flatMap_append, List.flatMap_cons]
          simp only [List.length_append, List.length_cons]
          omega
        omega

theorem chars_open (level : Nat) (json : Json) (textual : Textual json) (close : Char) (closing : close ∈ [']', '}']) :
    Opens close (chars style level json) := by
  have other (c : Char) (rest : List Char) (among : c ∈ ['n', 't', 'f', '"', '[', '{']) : Opens close (c :: rest) := by
    simp only [List.mem_cons, List.not_mem_nil, or_false] at among closing
    refine ⟨c, rest, rfl, ?_, ?_⟩
    · rcases among with rfl | rfl | rfl | rfl | rfl | rfl <;> rfl
    · rintro rfl
      rcases closing with rfl | rfl <;> revert among <;> decide
  cases textual with
  | null => rw [chars]; exact other 'n' _ (by decide)
  | boolean b =>
      cases b with
      | true => rw [chars]; exact other 't' _ (by decide)
      | false => rw [chars]; exact other 'f' _ (by decide)
  | string s => rw [chars]; exact other '"' _ (by decide)
  | array items each => rw [array_chars]; exact other '[' _ (by decide)
  | object members named each => rw [object_chars]; exact other '{' _ (by decide)

theorem member_read (item : Reader Json) (level : Nat) (m : Option String × Json) (named : m.1.isSome)
    (textual : Textual m.2) (rest : List Char)
    (reads : item (chars style level m.2 ++ rest) = some (m.2, rest)) :
    member item (memberText style level m ++ rest) = some (m, rest) := by
  obtain ⟨name?, json⟩ := m
  obtain ⟨name, rfl⟩ := Option.isSome_iff_exists.mp named
  have colon (cs : List Char) :
      ∃ spaces, style.colon ++ cs = ':' :: (spaces ++ cs) ∧ skipSpace (spaces ++ cs) = skipSpace cs := by
    cases style with
    | compact => exact ⟨[], rfl, rfl⟩
    | indented => exact ⟨[' '], rfl, rfl⟩
  obtain ⟨spaces, behind, skipped⟩ := colon (chars style level json ++ rest)
  rw [memberText, List.append_assoc, List.append_assoc, member, Option.getD_some, string_text_read, Option.bind_eq_bind,
    Option.bind_some, behind]
  change (item (skipSpace (spaces ++ (chars style level json ++ rest)))).bind _ = _
  rw [skipped, ((chars_open style level json textual ']' (by decide)).append rest).skip, reads]
  rfl

theorem value_read (json : Json) (textual : Textual json) (level depth : Nat)
    (deep : (chars style level json).length ≤ depth) (rest : List Char) :
    value (depth + 1) (chars style level json ++ rest) = some (json, rest) := by
  -- The brackets around items take characters, so the depth that is left suffices for each of them.
  induction textual generalizing level depth rest with
  | null => rw [chars]; rfl
  | boolean b =>
      cases b with
      | true => rw [chars]; rfl
      | false => rw [chars]; rfl
  | string s =>
      rw [chars, Option.getD_some]
      change (stringText (stringChars s ++ rest)).map _ = _
      rw [string_text_read, Option.map_some]
  | array items each ih =>
      rw [array_chars, List.length_cons, List.length_append, List.length_singleton] at deep
      obtain ⟨depth, rfl⟩ : ∃ n, depth = n + 1 := ⟨depth - 1, by omega⟩
      have reads : Reads (value (depth + 1)) ']' (chars style (level + 1)) items := fun item among =>
        ⟨chars_open style _ item (each item among) ']' (by decide), ih item among (level + 1) depth (by
          have inside := length_of_listed style level _ _ (List.mem_map_of_mem (f := chars style (level + 1)) among)
          omega)⟩
      rw [array_chars, List.cons_append, List.append_assoc, List.singleton_append]
      change (bracketed (value (depth + 1)) ']' _).map _ = _
      rw [bracketed_read _ ']' style _ rfl (by decide) level items reads rest, Option.map_some]
  | object members named each ih =>
      rw [object_chars, List.length_cons, List.length_append, List.length_singleton] at deep
      obtain ⟨depth, rfl⟩ : ∃ n, depth = n + 1 := ⟨depth - 1, by omega⟩
      have reads : Reads (member (value (depth + 1))) '}' (memberText style (level + 1)) members := fun m among => by
        refine ⟨⟨'"', _, rfl, rfl, by decide⟩, fun rest => ?_⟩
        refine member_read style _ (level + 1) m (named m among) (each m among) rest (ih m among (level + 1) depth ?_ rest)
        have inside := length_of_listed style level _ _ (List.mem_map_of_mem (f := memberText style (level + 1)) among)
        rw [memberText, List.length_append] at inside
        omega
      rw [object_chars, List.cons_append, List.append_assoc, List.singleton_append]
      change (bracketed (member (value (depth + 1))) '}' _).map _ = _
      rw [bracketed_read _ '}' style _ rfl (by decide) level members reads rest, Option.map_some]

theorem read_of_chars (json : Json) (textual : Textual json) : read? (String.ofList (chars style 0 json)) = some json := by
  have skipped : skipSpace (chars style 0 json) = chars style 0 json := (chars_open style 0 json textual ']' (by decide)).skip
  have whole := value_read style json textual 0 _ (Nat.le_refl _) []
  rw [List.append_nil] at whole
  simp only [read?, String.toList_ofList, skipped, whole, Option.bind_eq_bind, Option.bind_some]
  rfl

end Values

end TargetEval.Json

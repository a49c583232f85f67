import TargetEval.Proofs.Target.Numeral

set_option autoImplicit false

namespace TargetEval.Target

open Cursor (Ends ends_cons ends_mono ends_drop ends_append ends_of_append head_ne_of_ends skip_one skip_past skip_run_past take_run run)

section

variable (x : Char)

theorem character_past (o : Nat) (rest : List Char) : character x ⟨o, x :: rest⟩ = .accepted () ⟨o + x.utf8Size, rest⟩ := by
  rw [character, List.head?_cons, if_pos rfl, skip_one]

theorem character_accepted (c next : Cursor) (accepted : character x c = .accepted () next) : c.Reads [x] next := by
  unfold character at accepted
  split at accepted
  next here =>
    obtain ⟨tail, behind⟩ := List.head?_eq_some_iff.mp here
    cases accepted
    have reads := c.skip_reads 1
    rwa [behind] at reads
  next => cases accepted

theorem character_declines (c : Cursor) (other : c.rest.head? ≠ some x) : character x c = declinedAt c := if_neg other

end

theorem identifier_past (i : Identifier) (o : Nat) (rest : List Char) (ends : Ends isPart rest) :
    identifier ⟨o, i.chars ++ rest⟩ = .accepted i.name ⟨o + byteLength i.chars, rest⟩ := by
  have starts : ((i.chars ++ rest).head?.any fun x => x.isAlpha || x = '_') = true := i.starts
  have past := skip_run_past isPart o i.chars rest i.parts ends
  have split := take_run isPart i.chars rest i.parts ends
  exact (if_pos starts).trans (by
    change Outcome.accepted (String.ofList ((i.chars ++ rest).takeWhile isPart)) _ = _
    rw [split]
    exact congrArg (Outcome.accepted i.name) past)

theorem identifier_accepted (c next : Cursor) (name : String) (accepted : identifier c = .accepted name next) :
    ∃ i : Identifier, c.Reads i.chars next ∧ name = i.name ∧ Ends isPart next.rest := by
  obtain ⟨o, rest⟩ := c
  unfold identifier at accepted
  split at accepted
  next starts =>
    cases rest with
    | nil => cases starts
    | cons first rest =>
        have part : isPart first = true := start_part first starts
        have reads := Cursor.skip_run_reads ⟨o, first :: rest⟩ isPart
        have all := Cursor.run_all ⟨o, first :: rest⟩ isPart
        have ends := Cursor.skip_run_ends ⟨o, first :: rest⟩ isPart
        have front : Cursor.run ⟨o, first :: rest⟩ isPart = first :: rest.takeWhile isPart := by
          rw [Cursor.run, List.takeWhile_cons_of_pos part]
        rw [front] at reads all
        cases accepted
        refine ⟨⟨first, rest.takeWhile isPart, starts, (List.forall_mem_cons.mp all).2⟩, reads, ?_, ends⟩
        exact congrArg String.ofList front
  next => cases accepted

theorem identifier_declines (c : Cursor) (other : Ends (fun x => x.isAlpha || x = '_') c.rest) :
    identifier c = declinedAt c := by
  refine if_neg ?_
  rw [other]
  exact Bool.false_ne_true

theorem identifier_not_refused (c : Cursor) (fault : Fault) : identifier c ≠ .refused fault := by
  intro refused
  unfold identifier at refused
  split at refused <;> cases refused

theorem word_accepted (expected : List Char) (value : Bool) (c next : Cursor) (e : Expr)
    (accepted : word expected value c = .accepted e next) :
    ∃ letters : List Char, letters.map Char.toLower = expected ∧ c.Reads letters next ∧ e = .boolean value ∧
      Ends MetricName.isNameChar next.rest := by
  unfold word at accepted
  split at accepted
  next spelled =>
    dsimp only at accepted
    split at accepted
    next alone =>
      cases accepted
      exact ⟨_, spelled, c.skip_reads _, rfl, by simpa [endsHere, Ends] using alone⟩
    next => cases accepted
  next => cases accepted

theorem word_not_refused (expected : List Char) (value : Bool) (c : Cursor) (fault : Fault) :
    word expected value c ≠ .refused fault := by
  intro refused
  unfold word at refused
  split at refused
  next =>
    dsimp only at refused
    split at refused <;> cases refused
  next => cases refused

theorem boolean_accepted (c next : Cursor) (e : Expr) (accepted : boolean c = .accepted e next) :
    ∃ w : Word, c.Reads w.letters next ∧ e = .boolean w.value ∧ Ends MetricName.isNameChar next.rest := by
  rcases Outcome.or_else_accepted accepted with here | ⟨_, here⟩
  · obtain ⟨letters, spelled, reads, rfl, alone⟩ := word_accepted _ _ _ _ _ here
    exact ⟨⟨letters, true, spelled⟩, reads, rfl, alone⟩
  · obtain ⟨letters, spelled, reads, rfl, alone⟩ := word_accepted _ _ _ _ _ here
    exact ⟨⟨letters, false, spelled⟩, reads, rfl, alone⟩

theorem boolean_not_refused (c : Cursor) (fault : Fault) : boolean c ≠ .refused fault := by
  intro refused
  rcases Outcome.or_else_refused refused with here | here <;> exact word_not_refused _ _ _ _ here

theorem word_past (letters expected : List Char) (value : Bool) (o : Nat) (rest : List Char)
    (spelled : letters.map Char.toLower = expected) (ends : Ends MetricName.isNameChar rest) :
    word expected value ⟨o, letters ++ rest⟩ = .accepted (.boolean value) ⟨o + byteLength letters, rest⟩ := by
  have length : expected.length = letters.length := by rw [← spelled, List.length_map]
  have alone : endsHere ⟨o + byteLength letters, rest⟩ = true := by
    rw [endsHere, ends]
    rfl
  simp only [word, length, List.take_left, spelled, ↓reduceIte, skip_past, alone]

theorem boolean_past (w : Word) (o : Nat) (rest : List Char) (ends : Ends MetricName.isNameChar rest) :
    boolean ⟨o, w.letters ++ rest⟩ = .accepted (.boolean w.value) ⟨o + byteLength w.letters, rest⟩ := by
  obtain ⟨letters, value, spelled⟩ := w
  cases value with
  | true =>
      change letters.map Char.toLower = ['t', 'r', 'u', 'e'] at spelled
      rw [boolean, word_past letters _ true o rest spelled ends]
      rfl
  | false =>
      change letters.map Char.toLower = ['f', 'a', 'l', 's', 'e'] at spelled
      -- The other word is shorter, so it is compared with letters only.
      have other : word ['t', 'r', 'u', 'e'] true ⟨o, letters ++ rest⟩ = declinedAt ⟨o, letters ++ rest⟩ := by
        have five : letters.length = 5 := by simpa using congrArg List.length spelled
        refine if_neg ?_
        have front : ((letters ++ rest).take 4).map Char.toLower = ['f', 'a', 'l', 's'] := by
          rw [List.take_append_of_le_length (by omega), List.map_take, spelled]
          rfl
        change ¬ ((letters ++ rest).take 4).map Char.toLower = ['t', 'r', 'u', 'e']
        rw [front]
        decide
      rw [boolean, other, word_past letters _ false o rest spelled ends]
      rfl

theorem alpha_of_lower (c : Char) (alpha : c.toLower.isAlpha = true) : c.isAlpha = true := by
  by_cases upper : c.isUpper = true
  · exact (Bool.or_eq_true _ _).mpr (.inl upper)
  · have same : c.toLower = c := by
      exact dif_neg fun range => upper (decide_eq_true range)
    rwa [same] at alpha

theorem Word.letters_alpha (w : Word) : ∀ c ∈ w.letters, c.isAlpha = true := by
  intro c member
  have all : ∀ x ∈ w.letters.map Char.toLower, x.isAlpha = true := by
    rw [w.spelled]
    refine List.all_eq_true.mp ?_
    cases w.value <;> rfl
  exact alpha_of_lower c (all c.toLower (List.mem_map_of_mem member))

theorem Word.letters_named (w : Word) : ∀ c ∈ w.letters, MetricName.isNameChar c = true := fun c member =>
  alphanum_named c (by simp [Char.isAlphanum, w.letters_alpha c member])

theorem Word.letters_occupied (w : Word) : w.letters ≠ [] := by
  intro none
  have spelled := w.spelled
  rw [none] at spelled
  cases value : w.value <;> rw [value] at spelled <;> cases spelled

theorem boolean_declines (c : Cursor) (plain : Ends Char.isAlpha c.rest) : (boolean c).Declines := by
  refine Outcome.declines_of _ (fun e next accepted => ?_) (boolean_not_refused c)
  obtain ⟨w, reads, _⟩ := boolean_accepted c next e accepted
  rw [reads.rest] at plain
  have bare := ends_of_append _ _ _ plain
  have occupied := w.letters_occupied
  have alpha := w.letters_alpha
  generalize w.letters = letters at bare occupied alpha
  cases letters with
  | nil => exact occupied rfl
  | cons first rest =>
      rw [ends_cons, alpha first List.mem_cons_self] at bare
      cases bare

theorem boolean_declines_number (c : Cursor) (start : c.rest.head?.any isNumberStart = true) : (boolean c).Declines :=
  boolean_declines c (ends_mono (fun x alpha => by simp [alpha]) (number_start_bare c.rest start))

theorem quoted_past (quote : Char) (content : List Char) (free : quote ∉ content) (o : Nat) (rest : List Char) :
    quotedBy quote ⟨o, quote :: (content ++ quote :: rest)⟩ =
      .accepted (.string (String.ofList content)) ⟨o + byteLength (quote :: (content ++ [quote])), rest⟩ := by
  have all : ∀ c ∈ content, (fun x => decide (x ≠ quote)) c = true := fun c member =>
    decide_eq_true fun same => free (same ▸ member)
  have ends : Ends (fun x => decide (x ≠ quote)) (quote :: rest) := by simp [ends_cons]
  have split := take_run _ content _ all ends
  have past := skip_run_past _ (o + quote.utf8Size) content _ all ends
  simp only [quotedBy, character_past, Outcome.andThen, run, split, past]
  rw [byte_length_cons, byte_length_append, byte_length_cons, byte_length_nil, Nat.add_zero, Nat.add_assoc, Nat.add_assoc]

theorem quoted_accepted (quote : Char) (c next : Cursor) (e : Expr) (accepted : quotedBy quote c = .accepted e next) :
    ∃ content : List Char, quote ∉ content ∧ c.Reads (quote :: (content ++ [quote])) next ∧
      e = .string (String.ofList content) := by
  obtain ⟨_, start, opened, later⟩ := Outcome.and_then_accepted accepted
  obtain ⟨_, stop, closed, given⟩ := Outcome.and_then_accepted later
  cases given
  have inside := start.skip_run_reads (· ≠ quote)
  refine ⟨start.run (· ≠ quote), fun member => ?_, ?_, rfl⟩
  · exact of_decide_eq_true (start.run_all _ quote member) rfl
  · exact (character_accepted quote c start opened).trans (inside.trans (character_accepted quote _ next closed))

theorem character_not_refused (x : Char) (c : Cursor) (fault : Fault) : character x c ≠ .refused fault := by
  intro refused
  unfold character at refused
  split at refused <;> cases refused

theorem quoted_not_refused (quote : Char) (c : Cursor) (fault : Fault) : quotedBy quote c ≠ .refused fault := by
  intro refused
  rcases Outcome.and_then_refused refused with opened | ⟨_, _, _, later⟩
  · exact character_not_refused _ _ _ opened
  · rcases Outcome.and_then_refused later with closed | ⟨_, _, _, given⟩
    · exact character_not_refused _ _ _ closed
    · cases given

theorem string_past (q : Quotation) (o : Nat) (rest : List Char) :
    string ⟨o, q.chars ++ rest⟩ = .accepted (.string (String.ofList q.content)) ⟨o + byteLength q.chars, rest⟩ := by
  obtain ⟨quote, content, isQuote, free⟩ := q
  simp only [Quotation.chars, List.cons_append, List.append_assoc, List.nil_append, string]
  rcases isQuote with rfl | rfl
  · rw [quoted_past _ content free]
    rfl
  · have other : quotedBy '\'' ⟨o, '"' :: (content ++ '"' :: rest)⟩ = declinedAt ⟨o, '"' :: (content ++ '"' :: rest)⟩ :=
      rfl
    rw [other, quoted_past _ content free]
    rfl

theorem string_accepted (c next : Cursor) (e : Expr) (accepted : string c = .accepted e next) :
    ∃ q : Quotation, c.Reads q.chars next ∧ e = .string (String.ofList q.content) := by
  rcases Outcome.or_else_accepted accepted with here | ⟨_, here⟩
  · obtain ⟨content, free, reads, same⟩ := quoted_accepted _ c next e here
    exact ⟨⟨_, content, .inl rfl, free⟩, reads, same⟩
  · obtain ⟨content, free, reads, same⟩ := quoted_accepted _ c next e here
    exact ⟨⟨_, content, .inr rfl, free⟩, reads, same⟩

theorem string_declines (c : Cursor) (plain : Ends (fun x => x = '\'' || x = '"') c.rest) : (string c).Declines := by
  refine Outcome.declines_of _ (fun e next accepted => ?_) fun fault refused => ?_
  · obtain ⟨q, reads, _⟩ := string_accepted c next e accepted
    rw [reads.rest, Quotation.chars, List.cons_append, ends_cons] at plain
    rcases q.isQuote with same | same <;> rw [same] at plain <;> cases plain
  · rcases Outcome.or_else_refused refused with here | here <;> exact quoted_not_refused _ _ _ here

section

variable {cs : List Char}

theorem Pattern.of_named (cs : List Char) (named : ∀ c ∈ cs, MetricName.isNameChar c = true) : Pattern cs := by
  induction cs with
  | nil => exact .nil
  | cons c rest ih =>
      obtain ⟨here, later⟩ := List.forall_mem_cons.mp named
      exact .char c rest here (ih later)

theorem Pattern.tail (c : Char) (rest : List Char) (plain : c ≠ '{') (pattern : Pattern (c :: rest)) : Pattern rest := by
  generalize same : c :: rest = whole at pattern
  cases pattern with
  | nil => cases same
  | char _ _ _ later => cases same; exact later
  | group _ _ _ _ =>
      cases same
      exact absurd rfl plain

theorem Pattern.behind (front back : List Char) (plain : ∀ c ∈ front, c ≠ '{') (pattern : Pattern (front ++ back)) :
    Pattern back := by
  induction front with
  | nil => exact pattern
  | cons c front ih =>
      obtain ⟨here, later⟩ := List.forall_mem_cons.mp plain
      exact ih later (pattern.tail c _ here)

theorem named_unbraced (c : Char) (named : MetricName.isNameChar c = true) : c ≠ '{' := by
  rintro rfl
  cases named

theorem Pattern.head (pattern : Pattern cs) : ∀ c ∈ cs.head?, MetricName.isNameChar c = true ∨ c = '{' := by
  intro c head
  cases pattern with
  | nil => cases head
  | char _ _ named _ => cases head; exact .inl named
  | group _ _ _ _ => cases head; exact .inr rfl

theorem Pattern.ends (p : Char → Bool) (unnamed : ∀ c, p c = true → MetricName.isNameChar c = false)
    (brace : p '{' = false) (pattern : Pattern cs) : Ends p cs := by
  cases pattern with
  | nil => rfl
  | group _ _ _ _ => exact (ends_cons ..).mpr brace
  | char c _ named _ =>
      rw [ends_cons]
      refine eq_false_of_ne_true fun held => ?_
      rw [unnamed c held] at named
      cases named

end

theorem brace_group_past (inside rest : List Char) (closed : ∀ c ∈ inside, c ≠ '}' ∧ c ≠ '(') (o : Nat) :
    braceGroup ⟨o, '{' :: (inside ++ '}' :: rest)⟩ =
      .accepted () ⟨o + byteLength ('{' :: (inside ++ ['}'])), rest⟩ := by
  have all : ∀ c ∈ inside, (fun x => x ≠ '}' && x ≠ '(') c = true := fun c member => by
    simpa using closed c member
  have past := skip_run_past _ (o + '{'.utf8Size) inside ('}' :: rest) all ((ends_cons ..).mpr (by decide))
  simp only [braceGroup, character_past, Outcome.andThen, past]
  rw [byte_length_cons, byte_length_append, byte_length_cons, byte_length_nil, Nat.add_zero, Nat.add_assoc, Nat.add_assoc]

theorem brace_group_accepted (c next : Cursor) (accepted : braceGroup c = .accepted () next) :
    ∃ inside : List Char, (∀ x ∈ inside, x ≠ '}' ∧ x ≠ '(') ∧ c.Reads ('{' :: (inside ++ ['}'])) next := by
  obtain ⟨_, start, opened, closed⟩ := Outcome.and_then_accepted accepted
  refine ⟨start.run fun x => x ≠ '}' && x ≠ '(', fun x member => ?_, ?_⟩
  · simpa using start.run_all _ x member
  · exact (character_accepted '{' c start opened).trans
      ((start.skip_run_reads _).trans (character_accepted '}' _ next closed))

theorem piece_run (front rest : List Char) (o : Nat) (occupied : front ≠ [])
    (named : ∀ c ∈ front, MetricName.isNameChar c = true) (ends : Ends MetricName.isNameChar rest) :
    piece ⟨o, front ++ rest⟩ = .accepted () ⟨o + byteLength front, rest⟩ := by
  have split := take_run _ front rest named ends
  have past := skip_run_past _ o front rest named ends
  have some : front.isEmpty = false := by simpa using occupied
  simp only [piece, run, split, past, some, Bool.false_eq_true, ↓reduceIte]

theorem piece_brace (c : Cursor) (ends : Ends MetricName.isNameChar c.rest) : piece c = braceGroup c := by
  refine if_pos ?_
  have none := take_run MetricName.isNameChar [] c.rest (by simp) ends
  rw [List.nil_append] at none
  rw [run, none]
  rfl

theorem piece_past (cs rest : List Char) (o : Nat) (pattern : Pattern cs) (occupied : cs ≠ [])
    (ends : Ends MetricName.isNameChar rest) :
    ∃ front back, cs = front ++ back ∧ front ≠ [] ∧ Pattern back ∧
      piece ⟨o, cs ++ rest⟩ = .accepted () ⟨o + byteLength front, back ++ rest⟩ := by
  cases pattern with
  | nil => exact absurd rfl occupied
  | char c later named pattern =>
      -- The reader takes all the name characters that stand here, the pattern lists them one by one.
      have split := List.takeWhile_append_dropWhile (p := MetricName.isNameChar) (l := later)
      have all : ∀ x ∈ later.takeWhile MetricName.isNameChar, MetricName.isNameChar x = true :=
        fun _ member => List.mem_takeWhile_imp member
      have stops := ends_append _ _ rest (ends_drop MetricName.isNameChar later) ends
      have back : Pattern (later.dropWhile MetricName.isNameChar) := by
        rw [← split] at pattern
        exact pattern.behind _ _ fun x member => named_unbraced x (all x member)
      refine ⟨c :: later.takeWhile MetricName.isNameChar, later.dropWhile MetricName.isNameChar, ?_,
        List.cons_ne_nil _ _, back, ?_⟩
      · rw [List.cons_append, split]
      · have read := piece_run (c :: later.takeWhile MetricName.isNameChar) _ o (List.cons_ne_nil _ _)
          (List.forall_mem_cons.mpr ⟨named, all⟩) stops
        rwa [← List.append_assoc, List.cons_append, split] at read
  | group inside later closed pattern =>
      refine ⟨'{' :: (inside ++ ['}']), later, by simp, List.cons_ne_nil _ _, pattern, ?_⟩
      have read := brace_group_past inside (later ++ rest) closed o
      rw [piece_brace _ ((ends_cons ..).mpr (by decide)), ← read]
      simp

theorem piece_declines (o : Nat) (rest : List Char) (ends : Ends MetricName.isNameChar rest)
    (brace : Ends (fun c => c = '{') rest) : (piece ⟨o, rest⟩).Declines := by
  have closed : (character '{' ⟨o, rest⟩).Declines := ⟨_, character_declines '{' _ (head_ne_of_ends '{' rest brace)⟩
  rw [piece_brace _ ends]
  exact closed.and_then _

theorem pieces_past (room : Nat) (cs rest : List Char) (o : Nat) (pattern : Pattern cs) (enough : cs.length ≤ room)
    (ends : Ends MetricName.isNameChar rest) (brace : Ends (fun c => c = '{') rest) :
    pieces room ⟨o, cs ++ rest⟩ = ⟨o + byteLength cs, rest⟩ := by
  induction room generalizing o cs with
  | zero =>
      have none : cs = [] := List.length_eq_zero_iff.mp (by omega)
      rw [none]
      rfl
  | succ room ih =>
      by_cases none : cs = []
      · obtain ⟨fault, declined⟩ := piece_declines o rest ends brace
        rw [none, List.nil_append, pieces, declined]
        rfl
      · obtain ⟨front, back, rfl, occupied, later, read⟩ := piece_past cs rest o pattern none ends
        have shorter : back.length ≤ room := by
          have some := List.length_pos_iff.mpr occupied
          rw [List.length_append] at enough
          omega
        simp only [pieces, read]
        rw [ih back (o + byteLength front) later shorter, byte_length_append, Nat.add_assoc]

theorem metric_past (cs rest : List Char) (o : Nat) (pattern : Pattern cs) (occupied : cs ≠ [])
    (ends : Ends MetricName.isNameChar rest) (brace : Ends (fun c => c = '{') rest) :
    metric ⟨o, cs ++ rest⟩ = .accepted (.metric (String.ofList cs) o) ⟨o + byteLength cs, rest⟩ := by
  obtain ⟨front, back, rfl, _, later, read⟩ := piece_past cs rest o pattern occupied ends
  have stop := pieces_past (back ++ rest).length back rest (o + byteLength front) later (by simp) ends brace
  have whole : Cursor.Reads ⟨o, (front ++ back) ++ rest⟩ (front ++ back) ⟨o + byteLength (front ++ back), rest⟩ :=
    ⟨rfl, rfl⟩
  have next : (⟨o + byteLength front + byteLength back, rest⟩ : Cursor) = ⟨o + byteLength (front ++ back), rest⟩ := by
    rw [byte_length_append, Nat.add_assoc]
  simp only [metric, read, Outcome.andThen, stop, next, whole.up_to]

theorem piece_accepted (c next : Cursor) (accepted : piece c = .accepted () next) :
    ∃ front, front ≠ [] ∧ c.Reads front next ∧ ∀ back, Pattern back → Pattern (front ++ back) := by
  unfold piece at accepted
  split at accepted
  next none =>
    obtain ⟨inside, closed, reads⟩ := brace_group_accepted c next accepted
    refine ⟨_, List.cons_ne_nil _ _, reads, fun back later => ?_⟩
    simpa using Pattern.group inside back closed later
  next some =>
    cases accepted
    refine ⟨_, by simpa using some, c.skip_run_reads _, fun back later => ?_⟩
    have named := c.run_all MetricName.isNameChar
    generalize c.run MetricName.isNameChar = front at named
    induction front with
    | nil => exact later
    | cons x front ih =>
        obtain ⟨here, rest⟩ := List.forall_mem_cons.mp named
        exact .char x _ here (ih rest)

theorem pieces_reads (room : Nat) (c : Cursor) : ∃ cs, Pattern cs ∧ c.Reads cs (pieces room c) := by
  induction room generalizing c with
  | zero => exact ⟨[], .nil, .refl c⟩
  | succ room ih =>
      cases here : piece c with
      | declined fault => exact ⟨[], .nil, by rw [pieces, here]; exact .refl c⟩
      | refused fault => exact ⟨[], .nil, by rw [pieces, here]; exact .refl c⟩
      | accepted _ next =>
          obtain ⟨front, _, reads, extend⟩ := piece_accepted c next here
          obtain ⟨back, later, rest⟩ := ih next
          refine ⟨front ++ back, extend back later, ?_⟩
          rw [pieces, here]
          exact reads.trans rest

theorem metric_accepted (c next : Cursor) (e : Expr) (accepted : metric c = .accepted e next) :
    ∃ cs, Pattern cs ∧ cs ≠ [] ∧ c.Reads cs next ∧ e = .metric (String.ofList cs) c.offset := by
  obtain ⟨_, afterPiece, first, given⟩ := Outcome.and_then_accepted accepted
  obtain ⟨front, occupied, reads, extend⟩ := piece_accepted c afterPiece first
  obtain ⟨back, later, rest⟩ := pieces_reads afterPiece.rest.length afterPiece
  have whole := reads.trans rest
  cases given
  refine ⟨front ++ back, extend back later, by simp [occupied], whole, ?_⟩
  rw [whole.up_to]

theorem metric_declines (c : Cursor) (ends : Ends MetricName.isNameChar c.rest)
    (brace : Ends (fun c => c = '{') c.rest) : (metric c).Declines :=
  (piece_declines c.offset c.rest ends brace).and_then _

end TargetEval.Target

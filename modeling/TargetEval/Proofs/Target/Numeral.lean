import TargetEval.Proofs.Target.Characters

set_option autoImplicit false

namespace TargetEval.Target

open Cursor (Ends ends_cons ends_mono head_ne_of_ends skip_one skip_run_past take_run run)

def isSign (c : Char) : Bool := c = '-' || c = '+'

theorem number_sign_past (sign : Sign) (o : Nat) (rest : List Char) (bare : sign = none → Ends isSign rest) :
    numberSign ⟨o, sign.chars ++ rest⟩ = (sign.isMinus, ⟨o + byteLength sign.chars, rest⟩) := by
  cases sign with
  | some minus => cases minus <;> exact congrArg (Prod.mk _) (skip_one o _ rest)
  | none =>
      have ends := bare rfl
      cases rest with
      | nil => rfl
      | cons c rest =>
          rw [ends_cons] at ends
          simp only [isSign, Bool.or_eq_false_iff, decide_eq_false_iff_not] at ends
          simp only [Sign.chars, List.nil_append, numberSign, List.head?_cons]
          split
          next same => exact absurd (Option.some.inj same) ends.1
          next same => exact absurd (Option.some.inj same) ends.2
          next => rfl

theorem number_sign_reads (c : Cursor) :
    ∃ sign : Sign, c.Reads sign.chars (numberSign c).2 ∧ (numberSign c).1 = sign.isMinus := by
  obtain ⟨o, rest⟩ := c
  by_cases minus : rest.head? = some '-'
  · obtain ⟨tail, rfl⟩ := List.head?_eq_some_iff.mp minus
    exact ⟨some true, ⟨rfl, rfl⟩, rfl⟩
  · by_cases plus : rest.head? = some '+'
    · obtain ⟨tail, rfl⟩ := List.head?_eq_some_iff.mp plus
      exact ⟨some false, ⟨rfl, rfl⟩, rfl⟩
    · refine ⟨none, ?_⟩
      unfold numberSign
      split
      next same => exact absurd same minus
      next same => exact absurd same plus
      next => exact ⟨.refl _, rfl⟩

theorem number_sign_rest (c : Cursor) : (numberSign c).2.rest = unsigned c.rest := by
  obtain ⟨o, rest⟩ := c
  unfold numberSign unsigned
  split
  next same =>
    obtain ⟨tail, rfl⟩ := List.head?_eq_some_iff.mp same
    rfl
  next same =>
    obtain ⟨tail, rfl⟩ := List.head?_eq_some_iff.mp same
    rfl
  next noMinus noPlus =>
    cases rest with
    | nil => rfl
    | cons c rest =>
        dsimp only
        split
        next same => exact absurd (congrArg List.head? same) noMinus
        next same => exact absurd (congrArg List.head? same) noPlus
        next => rfl

def isPoint (c : Char) : Bool := c = '.'

theorem mantissa_past (m : Mantissa) (o : Nat) (rest : List Char) (digits : Ends Char.isDigit rest)
    (point : m.decimals = none → Ends isPoint rest) :
    mantissa ⟨o, m.chars ++ rest⟩ =
      .accepted (m.whole, m.decimals.getD []) ⟨o + byteLength m.chars, rest⟩ := by
  obtain ⟨whole, decimals, wholeDigits, decimalDigits, occupied⟩ := m
  cases decimals with
  | none =>
      have bare : whole.isEmpty = false := by simpa using occupied
      have split := take_run Char.isDigit whole rest wholeDigits digits
      have past := skip_run_past Char.isDigit o whole rest wholeDigits digits
      have noPoint := head_ne_of_ends '.' rest (point rfl)
      simp only [Mantissa.chars, List.append_nil, mantissa, run, split, past, if_neg noPoint, bare, Option.getD_none]
      rfl
  | some decimals =>
      have noDigit : Ends Char.isDigit ('.' :: (decimals ++ rest)) := (ends_cons ..).mpr (by decide)
      have split := take_run Char.isDigit whole _ wholeDigits noDigit
      have past := skip_run_past Char.isDigit o whole _ wholeDigits noDigit
      have splitDecimals := take_run Char.isDigit decimals rest decimalDigits digits
      have pastDecimals := skip_run_past Char.isDigit (o + byteLength whole + '.'.utf8Size) decimals rest
        decimalDigits digits
      have some : (whole.isEmpty && decimals.isEmpty) = false := by
        simpa using occupied
      simp only [Mantissa.chars, List.append_assoc, List.cons_append, mantissa, run, split, past, List.head?_cons,
        ↓reduceIte, skip_one, splitDecimals, pastDecimals, some, Option.getD_some, Bool.false_eq_true]
      rw [byte_length_append, byte_length_cons, Nat.add_assoc, Nat.add_assoc]

theorem mantissa_accepted (c next : Cursor) (parts : List Char × List Char) (accepted : mantissa c = .accepted parts next) :
    ∃ m : Mantissa, c.Reads m.chars next ∧ parts = (m.whole, m.decimals.getD []) := by
  unfold mantissa at accepted
  have whole := c.skip_run_reads Char.isDigit
  have wholeDigits := c.run_all Char.isDigit
  dsimp only at accepted
  split at accepted
  next point =>
    split at accepted
    next => cases accepted
    next bare =>
      obtain ⟨tail, behind⟩ := List.head?_eq_some_iff.mp point
      have mark : (c.skipRun Char.isDigit).Reads ['.'] ((c.skipRun Char.isDigit).skip 1) := by
        have reads := (c.skipRun Char.isDigit).skip_reads 1
        rwa [behind] at reads
      have decimals := ((c.skipRun Char.isDigit).skip 1).skip_run_reads Char.isDigit
      cases accepted
      refine ⟨⟨c.run Char.isDigit, some (Cursor.run _ Char.isDigit), wholeDigits, Cursor.run_all _ _, ?_⟩,
        whole.trans (mark.trans decimals), rfl⟩
      intro none
      obtain ⟨left, right⟩ := List.append_eq_nil_iff.mp none
      exact bare (by simp_all)
  next =>
    split at accepted
    next => cases accepted
    next bare =>
      cases accepted
      refine ⟨⟨c.run Char.isDigit, none, wholeDigits, by simp, by simpa using bare⟩, ?_, rfl⟩
      exact whole.trans (.refl _)

theorem mantissa_not_refused (c : Cursor) (fault : Fault) : mantissa c ≠ .refused fault := by
  intro refused
  unfold mantissa at refused
  dsimp only at refused
  split at refused
  next => split at refused <;> cases refused
  next => split at refused <;> cases refused

def isMark (c : Char) : Bool := c = 'e' || c = 'E'

theorem exponent_bare (c : Cursor) (start : Nat) (ends : Ends isMark c.rest) : exponent c start = .accepted 0 c := by
  refine if_neg ?_
  cases behind : c.rest with
  | nil => simp
  | cons x rest =>
      rw [behind, ends_cons] at ends
      simpa [isMark] using ends

theorem exponent_marked (mark : Char) (rest : List Char) (o start : Nat) (marks : isPowerMark mark) :
    exponent ⟨o, mark :: rest⟩ start =
      let (negative, afterSign) := numberSign ⟨o + mark.utf8Size, rest⟩
      let digits := afterSign.run Char.isDigit
      if digits.isEmpty then .refused ⟨start, .exponent⟩
      else
        .accepted (if negative then -(Decimal.ofDigits digits : Int) else Decimal.ofDigits digits)
          (afterSign.skipRun Char.isDigit) := by
  have marked : mark = 'e' ∨ mark = 'E' := marks
  unfold exponent
  rw [if_pos (by simpa using marked), skip_one]

theorem exponent_past (power : Option Power) (o start : Nat) (rest : List Char) (digits : Ends Char.isDigit rest)
    (bare : power = none → Ends isMark rest) :
    exponent ⟨o, Numeral.powerChars power ++ rest⟩ start =
      .accepted (Numeral.powerValue power) ⟨o + byteLength (Numeral.powerChars power), rest⟩ := by
  cases power with
  | none => exact exponent_bare ⟨o, rest⟩ start (bare rfl)
  | some power =>
      obtain ⟨mark, sign, ds, marks, areDigits, occupied⟩ := power
      have signed := number_sign_past sign (o + mark.utf8Size) (ds ++ rest) fun _ => by
        cases ds with
        | nil => exact absurd rfl occupied
        | cons d ds =>
            rw [List.cons_append, ends_cons]
            refine eq_false_of_ne_true fun sign => ?_
            have digit := areDigits d List.mem_cons_self
            simp only [isSign, Bool.or_eq_true, decide_eq_true_eq] at sign
            rcases sign with rfl | rfl <;> cases digit
      have some : ds.isEmpty = false := by simpa using occupied
      have split := take_run Char.isDigit ds rest areDigits digits
      have past := skip_run_past Char.isDigit (o + mark.utf8Size + byteLength sign.chars) ds rest areDigits digits
      simp only [Numeral.powerChars, Power.chars, List.cons_append, List.append_assoc]
      rw [exponent_marked mark _ o start marks, signed]
      simp only [run, split, past, some, Bool.false_eq_true, ↓reduceIte, Numeral.powerValue, Power.value]
      rw [byte_length_cons, byte_length_append, Nat.add_assoc, Nat.add_assoc]

theorem exponent_unfinished (mark : Char) (after : List Char) (o start : Nat) (marks : isPowerMark mark)
    (noDigit : Ends Char.isDigit (unsigned after)) :
    exponent ⟨o, mark :: after⟩ start = .refused ⟨start, .exponent⟩ := by
  have none : run (numberSign ⟨o + mark.utf8Size, after⟩).2 Char.isDigit = [] := by
    rw [run, number_sign_rest]
    exact take_run Char.isDigit [] _ (by simp) noDigit
  rw [exponent_marked mark after o start marks]
  simp only [none, List.isEmpty_nil, ↓reduceIte]

theorem exponent_cases (c : Cursor) (start : Nat) :
    (∃ power next, exponent c start = .accepted (Numeral.powerValue power) next ∧
      c.Reads (Numeral.powerChars power) next) ∨
    ∃ mark after, c.rest = mark :: after ∧ isPowerMark mark ∧ Ends Char.isDigit (unsigned after) := by
  obtain ⟨o, rest⟩ := c
  by_cases bare : Ends isMark rest
  · exact .inl ⟨none, _, exponent_bare _ start bare, .refl _⟩
  · obtain ⟨mark, after, rfl, marks⟩ : ∃ mark after, rest = mark :: after ∧ isPowerMark mark := by
      cases rest with
      | nil => exact absurd rfl bare
      | cons mark after => exact ⟨mark, after, rfl, by simpa [isPowerMark, ends_cons, isMark, or_iff_not_imp_left] using bare⟩
    obtain ⟨sign, signed, minus⟩ := number_sign_reads ⟨o + mark.utf8Size, after⟩
    have first : Cursor.Reads ⟨o, mark :: after⟩ [mark] ⟨o + mark.utf8Size, after⟩ := ⟨rfl, rfl⟩
    have digits := (numberSign ⟨o + mark.utf8Size, after⟩).2.skip_run_reads Char.isDigit
    by_cases none : (numberSign ⟨o + mark.utf8Size, after⟩).2.run Char.isDigit = []
    · refine .inr ⟨mark, after, rfl, marks, ?_⟩
      have ends := (numberSign ⟨o + mark.utf8Size, after⟩).2.skip_run_ends Char.isDigit
      rw [none] at digits
      rw [← number_sign_rest ⟨o + mark.utf8Size, after⟩, digits.rest]
      exact ends
    · refine .inl ⟨some ⟨mark, sign, _, marks, Cursor.run_all _ Char.isDigit, none⟩, _, ?_,
        first.trans (signed.trans digits)⟩
      rw [exponent_marked mark after o start marks]
      simp only [List.isEmpty_iff, if_neg none, minus, Numeral.powerValue, Power.value]

theorem numeral_unfold (c : Cursor) :
    numeral c = (mantissa (numberSign c).2).andThen fun parts afterMantissa =>
      (exponent afterMantissa c.offset).andThen fun power next =>
        .accepted ⟨(numberSign c).1, Decimal.ofDigits (parts.1 ++ parts.2), power - parts.2.length⟩ next := rfl

theorem power_ends (p : Char → Bool) (named : ∀ c, p c = true → MetricName.isNameChar c = true)
    (noMark : p 'e' = false ∧ p 'E' = false) (power : Option Power) (rest : List Char)
    (ends : Ends MetricName.isNameChar rest) : Ends p (Numeral.powerChars power ++ rest) := by
  cases power with
  | none => exact ends_mono named ends
  | some power =>
      change Ends p (power.mark :: _)
      rw [ends_cons]
      rcases power.marks with same | same
      · rw [same]
        exact noMark.1
      · rw [same]
        exact noMark.2

theorem point_named (c : Char) (point : isPoint c = true) : MetricName.isNameChar c = true := by
  rw [of_decide_eq_true point]
  rfl

theorem mark_named (c : Char) (mark : isMark c = true) : MetricName.isNameChar c = true := by
  simp only [isMark, Bool.or_eq_true, decide_eq_true_eq] at mark
  rcases mark with rfl | rfl <;> rfl

theorem mantissa_head (m : Mantissa) : ∃ c tail, m.chars = c :: tail ∧ (c.isDigit = true ∨ c = '.') := by
  obtain ⟨whole, decimals, wholeDigits, decimalDigits, occupied⟩ := m
  cases whole with
  | cons c rest => exact ⟨c, _, rfl, .inl (wholeDigits c List.mem_cons_self)⟩
  | nil =>
      cases decimals with
      | none => exact absurd rfl occupied
      | some digits => exact ⟨'.', digits, rfl, .inr rfl⟩

theorem mantissa_unsigned (m : Mantissa) (rest : List Char) : Ends isSign (m.chars ++ rest) := by
  obtain ⟨c, tail, same, head⟩ := mantissa_head m
  rw [same, List.cons_append, ends_cons]
  refine eq_false_of_ne_true fun sign => ?_
  simp only [isSign, Bool.or_eq_true, decide_eq_true_eq] at sign
  rcases sign with rfl | rfl <;> rcases head with digit | point <;> contradiction

theorem numeral_past (n : Numeral) (o : Nat) (rest : List Char) (ends : Ends MetricName.isNameChar rest) :
    number ⟨o, n.chars ++ rest⟩ = .accepted (.number n.value) ⟨o + byteLength n.chars, rest⟩ := by
  obtain ⟨sign, m, power⟩ := n
  have signed := number_sign_past sign o (m.chars ++ (Numeral.powerChars power ++ rest)) fun _ => mantissa_unsigned m _
  have digits := mantissa_past m (o + byteLength sign.chars) (Numeral.powerChars power ++ rest)
    (power_ends _ digit_named (by decide) power rest ends) fun _ => power_ends _ point_named (by decide) power rest ends
  have powered := exponent_past power (o + byteLength sign.chars + byteLength m.chars) o rest
    (ends_mono digit_named ends) fun _ => ends_mono mark_named ends
  have alone : endsHere ⟨o + byteLength sign.chars + byteLength m.chars + byteLength (Numeral.powerChars power), rest⟩ =
      true := by
    rw [endsHere, ends]
    rfl
  simp only [number, numeral_unfold, Numeral.chars, List.append_assoc, signed, digits, powered, Outcome.andThen, alone,
    ↓reduceIte, Numeral.value]
  rw [byte_length_append, byte_length_append, Nat.add_assoc, Nat.add_assoc]

theorem number_accepted (c next : Cursor) (e : Expr) (accepted : number c = .accepted e next) :
    ∃ n : Numeral, c.Reads n.chars next ∧ e = .number n.value ∧ Ends MetricName.isNameChar next.rest := by
  obtain ⟨decimal, later, read, ended⟩ := Outcome.and_then_accepted accepted
  split at ended
  next alone =>
    cases ended
    rw [numeral_unfold] at read
    obtain ⟨parts, afterMantissa, mantissa, powered⟩ := Outcome.and_then_accepted read
    obtain ⟨power, afterPower, exponent, valued⟩ := Outcome.and_then_accepted powered
    obtain ⟨sign, signed, minus⟩ := number_sign_reads c
    obtain ⟨m, digits, rfl⟩ := mantissa_accepted _ _ _ mantissa
    rcases exponent_cases afterMantissa c.offset with ⟨p, stop, given, reads⟩ | ⟨mark, after, behind, marks, noDigit⟩
    · rw [given] at exponent
      cases exponent
      cases valued
      refine ⟨⟨sign, m, p⟩, signed.trans (digits.trans reads), ?_, ?_⟩
      · rw [minus]
        rfl
      · simpa [endsHere, Ends] using alone
    · obtain ⟨o, rest⟩ := afterMantissa
      cases behind
      rw [exponent_unfinished mark after _ _ marks noDigit] at exponent
      cases exponent
  next => cases ended

theorem number_refused (c : Cursor) (fault : Fault) (refused : number c = .refused fault) : Unfinished c.rest := by
  rcases Outcome.and_then_refused refused with read | ⟨_, _, _, ended⟩
  · rw [numeral_unfold] at read
    rcases Outcome.and_then_refused read with mantissa | ⟨parts, afterMantissa, mantissa, powered⟩
    · exact absurd mantissa (mantissa_not_refused _ fault)
    · obtain ⟨sign, signed, _⟩ := number_sign_reads c
      obtain ⟨m, digits, rfl⟩ := mantissa_accepted _ _ _ mantissa
      rcases exponent_cases afterMantissa c.offset with ⟨p, stop, given, _⟩ | ⟨mark, after, behind, marks, noDigit⟩
      · rw [given] at powered
        cases powered
      · refine ⟨sign, m, mark, after, ?_, marks, noDigit⟩
        rw [signed.rest, digits.rest, behind]
  · split at ended <;> cases ended

theorem number_unfinished (o : Nat) (cs : List Char) (unfinished : Unfinished cs) :
    number ⟨o, cs⟩ = .refused ⟨o, .exponent⟩ := by
  obtain ⟨sign, m, mark, after, rfl, marks, noDigit⟩ := unfinished
  have signed := number_sign_past sign o (m.chars ++ mark :: after) fun _ => mantissa_unsigned m _
  have noDigitMark : Ends Char.isDigit (mark :: after) := by
    rw [ends_cons]
    rcases marks with rfl | rfl <;> rfl
  have noPoint : Ends isPoint (mark :: after) := by
    rw [ends_cons]
    rcases marks with rfl | rfl <;> rfl
  have digits := mantissa_past m (o + byteLength sign.chars) (mark :: after) noDigitMark fun _ => noPoint
  have powered := exponent_unfinished mark after (o + byteLength sign.chars + byteLength m.chars) o marks noDigit
  simp only [number, numeral_unfold, signed, digits, powered, Outcome.andThen]

def isNumberStart (c : Char) : Bool := c.isDigit || c = '+' || c = '-' || c = '.'

theorem number_start (sign : Sign) (m : Mantissa) (rest : List Char) :
    (sign.chars ++ (m.chars ++ rest)).head?.any isNumberStart = true := by
  cases sign with
  | some minus => cases minus <;> rfl
  | none =>
      obtain ⟨c, tail, same, head⟩ := mantissa_head m
      rw [same]
      rcases head with digit | rfl
      · simp [Sign.chars, isNumberStart, digit]
      · rfl

theorem Numeral.starts (n : Numeral) (rest : List Char) : (n.chars ++ rest).head?.any isNumberStart = true := by
  rw [Numeral.chars, List.append_assoc, List.append_assoc]
  exact number_start n.sign n.mantissa _

theorem Unfinished.starts {cs : List Char} (unfinished : Unfinished cs) : cs.head?.any isNumberStart = true := by
  obtain ⟨sign, m, mark, after, rfl, _⟩ := unfinished
  exact number_start sign m (mark :: after)

theorem number_start_bare (cs : List Char) (start : cs.head?.any isNumberStart = true) :
    Ends (fun x => x.isAlpha || x = '_') cs := by
  cases cs with
  | nil => rfl
  | cons c rest =>
      rw [ends_cons]
      refine eq_false_of_ne_true fun letter => ?_
      simp only [List.head?_cons, Option.any_some, isNumberStart, Bool.or_eq_true, decide_eq_true_eq] at start
      rcases start with ((digit | rfl) | rfl) | rfl
      · simp only [Bool.or_eq_true, decide_eq_true_eq] at letter
        rcases letter with alpha | rfl
        · have letters := alpha_points c alpha
          have digits := digit_points c digit
          omega
        · cases digit
      all_goals cases letter

theorem number_declines (c : Cursor) (plain : Ends isNumberStart c.rest) : (number c).Declines := by
  refine Outcome.declines_of _ (fun e next accepted => ?_) fun fault refused => ?_
  · obtain ⟨n, reads, _⟩ := number_accepted c next e accepted
    rw [reads.rest, Ends, n.starts next.rest] at plain
    cases plain
  · rw [Ends, (number_refused c fault refused).starts] at plain
    cases plain

def isNumberChar (c : Char) : Bool := MetricName.isNameChar c || c = '+'

theorem digits_number_chars (digits : List Char) (all : ∀ c ∈ digits, c.isDigit = true) :
    ∀ c ∈ digits, isNumberChar c = true := fun c member => by
  simp [isNumberChar, digit_named c (all c member)]

theorem sign_number_chars (sign : Sign) : ∀ c ∈ sign.chars, isNumberChar c = true := by
  match sign with
  | none => exact List.forall_mem_nil _
  | some true => exact List.forall_mem_singleton.mpr (by decide)
  | some false => exact List.forall_mem_singleton.mpr (by decide)

theorem mantissa_number_chars (m : Mantissa) : ∀ c ∈ m.chars, isNumberChar c = true := by
  obtain ⟨whole, decimals, wholeDigits, decimalDigits, _⟩ := m
  refine List.forall_mem_append.mpr ⟨digits_number_chars whole wholeDigits, ?_⟩
  cases decimals with
  | none => simp
  | some digits => exact List.forall_mem_cons.mpr ⟨by decide, digits_number_chars digits decimalDigits⟩

theorem mark_number_char (mark : Char) (marks : isPowerMark mark) : isNumberChar mark = true := by
  rcases marks with rfl | rfl <;> decide

theorem numeral_number_chars (n : Numeral) : ∀ c ∈ n.chars, isNumberChar c = true := by
  refine List.forall_mem_append.mpr ⟨sign_number_chars n.sign, ?_⟩
  refine List.forall_mem_append.mpr ⟨mantissa_number_chars n.mantissa, ?_⟩
  cases n.power with
  | none => simp [Numeral.powerChars]
  | some p =>
      refine List.forall_mem_cons.mpr ⟨mark_number_char p.mark p.marks, ?_⟩
      exact List.forall_mem_append.mpr ⟨sign_number_chars p.sign, digits_number_chars p.digits p.areDigits⟩

end TargetEval.Target

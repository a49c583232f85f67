import TargetEval.Proofs.Target.Leaf

set_option autoImplicit false

namespace TargetEval

def Cursor.Leads (c later : Cursor) : Prop := ∃ cs, c.Reads cs later

namespace Cursor.Leads

theorem refl (c : Cursor) : c.Leads c := ⟨[], .refl c⟩

theorem trans {a b c : Cursor} (first : a.Leads b) (second : b.Leads c) : a.Leads c := by
  obtain ⟨_, here⟩ := first
  obtain ⟨_, there⟩ := second
  exact ⟨_, here.trans there⟩

theorem skip (c : Cursor) (n : Nat) : c.Leads (c.skip n) := ⟨_, c.skip_reads n⟩

theorem skip_run (c : Cursor) (p : Char → Bool) : c.Leads (c.skipRun p) := ⟨_, c.skip_run_reads p⟩

theorem skip_space (c : Cursor) : c.Leads c.skipSpace := skip_run c Cursor.isSpace

end Cursor.Leads

namespace Outcome

variable {α β : Type}

inductive Stays (c : Cursor) : Outcome α → Prop where
  | accepted (value : α) (next : Cursor) (leads : c.Leads next) : Stays c (.accepted value next)
  | declined (fault : Fault) (later : Cursor) (leads : c.Leads later) (same : fault.offset = later.offset) :
      Stays c (.declined fault)
  | refused (fault : Fault) (later : Cursor) (leads : c.Leads later) (same : fault.offset = later.offset) :
      Stays c (.refused fault)

namespace Stays

variable {c d : Cursor}

theorem declined_at (c : Cursor) : Stays c (Target.declinedAt c : Outcome α) := .declined _ c (.refl c) rfl

theorem behind (leads : c.Leads d) {a : Outcome α} (stays : Stays d a) : Stays c a := by
  cases stays with
  | accepted value next further => exact .accepted value next (leads.trans further)
  | declined fault later further same => exact .declined fault later (leads.trans further) same
  | refused fault later further same => exact .refused fault later (leads.trans further) same

theorem and_then {first : Outcome α} {second : α → Cursor → Outcome β} (here : Stays c first)
    (later : ∀ value next, c.Leads next → Stays c (second value next)) : Stays c (first.andThen second) := by
  cases here with
  | accepted value next leads => exact later value next leads
  | declined fault later leads same => exact .declined fault later leads same
  | refused fault later leads same => exact .refused fault later leads same

theorem or_else {first second : Outcome α} (here : Stays c first) (other : Stays c second) :
    Stays c (first <|> second) := by
  cases here with
  | accepted value next leads => exact .accepted value next leads
  | declined _ _ _ _ => exact other
  | refused fault later leads same => exact .refused fault later leads same

theorem commit {first : Outcome α} (here : Stays c first) : Stays c first.commit := by
  cases here with
  | accepted value next leads => exact .accepted value next leads
  | declined fault later leads same => exact .refused fault later leads same
  | refused fault later leads same => exact .refused fault later leads same

end Stays

end Outcome

namespace Target

open Outcome (Stays)
open Cursor (Leads)

theorem character_stays (expected : Char) (c : Cursor) : Stays c (character expected c) := by
  by_cases here : c.rest.head? = some expected
  · rw [character, if_pos here]
    exact .accepted () _ (.skip c 1)
  · rw [character_declines expected c here]
    exact .declined_at c

theorem identifier_stays (c : Cursor) : Stays c (identifier c) := by
  unfold identifier
  split
  · exact .accepted _ _ (.skip_run c _)
  · exact .declined_at c

theorem number_sign_leads (c : Cursor) : c.Leads (numberSign c).2 := by
  unfold numberSign
  split
  · exact .skip c 1
  · exact .skip c 1
  · exact .refl c

theorem mantissa_stays (c : Cursor) : Stays c (mantissa c) := by
  have whole := Leads.skip_run c Char.isDigit
  have point := whole.trans (Leads.skip _ 1)
  unfold mantissa
  dsimp only
  split
  · split
    · exact .behind point (.declined_at _)
    · exact .accepted _ _ (point.trans (Leads.skip_run _ Char.isDigit))
  · split
    · exact .declined_at c
    · exact .accepted _ _ whole

theorem exponent_stays (start c : Cursor) (leads : start.Leads c) : Stays start (exponent c start.offset) := by
  have sign := (leads.trans (Leads.skip c 1)).trans (number_sign_leads (c.skip 1))
  unfold exponent
  dsimp only
  split
  · split
    -- A power of ten without digits is a fault of the whole number, and lies at its start.
    · exact .refused _ start (.refl start) rfl
    · exact .accepted _ _ (sign.trans (Leads.skip_run _ Char.isDigit))
  · exact .accepted _ _ leads

theorem number_stays (c : Cursor) : Stays c (number c) := by
  have numeral : Stays c (numeral c) := by
    refine ((mantissa_stays _).behind (number_sign_leads c)).and_then fun digits next leads => ?_
    exact (exponent_stays c next leads).and_then fun power last later => .accepted _ _ later
  refine numeral.and_then fun decimal next leads => ?_
  split
  · exact .accepted _ _ leads
  · exact (Stays.declined_at next).behind leads

theorem boolean_stays (c : Cursor) : Stays c (boolean c) := by
  have word (expected : List Char) (value : Bool) : Stays c (word expected value c) := by
    have leads := Leads.skip c expected.length
    unfold Target.word
    dsimp only
    split
    · split
      · exact .accepted _ _ leads
      · exact (Stays.declined_at _).behind leads
    · exact .declined_at c
  exact (word _ true).or_else (word _ false)

theorem string_stays (c : Cursor) : Stays c (string c) := by
  have quoted (quote : Char) : Stays c (quotedBy quote c) := by
    refine (character_stays quote c).and_then fun _ start leads => ?_
    have content := leads.trans (Leads.skip_run start (· ≠ quote))
    exact ((character_stays quote _).behind content).and_then fun _ next later => .accepted _ _ later
  exact (quoted _).or_else (quoted _)

theorem piece_stays (c : Cursor) : Stays c (piece c) := by
  unfold piece
  split
  · refine (character_stays '{' c).and_then fun _ start leads => ?_
    exact (character_stays '}' _).behind (leads.trans (Leads.skip_run start _))
  · exact .accepted _ _ (.skip_run c _)

theorem metric_stays (c : Cursor) : Stays c (metric c) := by
  refine (piece_stays c).and_then fun _ next leads => .accepted _ _ (leads.trans ?_)
  obtain ⟨cs, _, reads⟩ := pieces_reads next.rest.length next
  exact ⟨cs, reads⟩

section

variable {sub : Cursor → Outcome Expr} (each : ∀ c, Stays c (sub c))
include each

theorem argument_stays (c : Cursor) : Stays c (argument sub c) := by
  have named : Stays c (namedArgument sub c) := by
    refine (identifier_stays c).and_then fun name afterName first => ?_
    refine ((character_stays '=' _).behind (first.trans (.skip_space afterName))).and_then fun _ afterSign second => ?_
    refine ((each _).behind (second.trans (.skip_space afterSign))).and_then fun e next third => ?_
    exact .accepted _ _ third
  exact named.or_else ((each c).and_then fun e next leads => .accepted _ _ leads)

theorem more_stays (room : Nat) (c : Cursor) : Stays c (moreArguments sub room c) := by
  induction room generalizing c with
  | zero => exact .accepted [] c (.refl c)
  | succ room ih =>
      have nothing : Stays c (Outcome.accepted ([] : List Argument) c) := .accepted [] c (.refl c)
      have comma := (character_stays ',' _).behind (Leads.skip_space c)
      rw [moreArguments]
      generalize character ',' c.skipSpace = mark at comma
      cases comma with
      | declined _ _ _ _ => exact nothing
      | refused _ _ _ _ => exact nothing
      | accepted _ afterComma leads =>
          have item := (argument_stays each _).behind (leads.trans (.skip_space afterComma))
          dsimp only
          generalize argument sub afterComma.skipSpace = found at item
          cases item with
          | declined _ _ _ _ => exact nothing
          | refused fault later leads same => exact .refused fault later leads same
          | accepted a next leads =>
              exact ((ih next).behind leads).and_then fun rest stop further => .accepted _ _ further

theorem arguments_stays (c : Cursor) : Stays c (arguments sub c) := by
  have item := argument_stays each c
  rw [arguments]
  generalize argument sub c = found at item
  cases item with
  | declined _ _ _ _ => exact .accepted [] c (.refl c)
  | refused fault later leads same => exact .refused fault later leads same
  | accepted a next leads =>
      exact ((more_stays each _ next).behind leads).and_then fun rest stop further => .accepted _ _ further

theorem call_stays (c : Cursor) : Stays c (call sub c) := by
  refine (identifier_stays c).and_then fun name afterName first => ?_
  refine ((character_stays '(' _).behind (first.trans (.skip_space afterName))).and_then fun _ inside second => ?_
  refine Stays.commit (((arguments_stays each _).behind (second.trans (.skip_space inside))).and_then ?_)
  intro all afterAll third
  exact ((character_stays ')' _).behind (third.trans (.skip_space afterAll))).and_then fun _ next last =>
    .accepted _ _ last

end

theorem expression_stays (depth : Nat) (c : Cursor) : Stays c (expression depth c) := by
  induction depth generalizing c with
  | zero => exact .declined_at c
  | succ depth ih =>
      have literals := (boolean_stays c).or_else ((number_stays c).or_else ((string_stays c).or_else (metric_stays c)))
      exact (call_stays ih c).or_else literals

theorem read_fault (text : String) (e : Error) (failed : read text = .error e) :
    ∃ place detail, (Cursor.ofText text).Leads place ∧ e = .parse place.offset detail := by
  have start := Leads.skip_space (Cursor.ofText text)
  have stays := (expression_stays ((Cursor.ofText text).skipSpace.rest.length + 1) _).behind start
  rw [read, readAt] at failed
  generalize expression _ _ = found at stays failed
  cases stays with
  | declined fault later leads same =>
      cases failed
      exact ⟨later, fault.message, leads, congrArg (Error.parse · fault.message) same⟩
  | refused fault later leads same =>
      cases failed
      exact ⟨later, fault.message, leads, congrArg (Error.parse · fault.message) same⟩
  | accepted value next leads =>
      dsimp only at failed
      split at failed
      · cases failed
      · cases failed
        exact ⟨next.skipSpace, _, leads.trans (.skip_space next), rfl⟩

end Target

end TargetEval

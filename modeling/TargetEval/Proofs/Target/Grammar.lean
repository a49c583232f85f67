import TargetEval.Proofs.Target.Reading

set_option autoImplicit false

namespace TargetEval.Target

theorem identifier_gap (c afterName afterMark : Cursor) (name : String) (mark : Char)
    (named : identifier c = .accepted name afterName)
    (marked : character mark afterName.skipSpace = .accepted () afterMark) :
    ∃ (i : Identifier) (gap : Space), c.Reads (i.chars ++ (gap.1 ++ [mark])) afterMark ∧ name = i.name := by
  obtain ⟨i, first, rfl, _⟩ := identifier_accepted c afterName name named
  obtain ⟨gap, skipped⟩ := afterName.skip_space_reads
  have last := character_accepted mark _ afterMark marked
  exact ⟨i, gap, first.trans (skipped.trans last), rfl⟩

def Writes (sub : Cursor → Outcome Expr) : Prop :=
  ∀ (c next : Cursor) (e : Expr), sub c = .accepted e next → Stops next.rest →
    ∃ p : Phrase IsMetric, c.Reads p.chars next ∧ e = p.tree c.offset

theorem stops_of_mark (c next : Cursor) (mark : Char) (marked : character mark c.skipSpace = .accepted () next)
    (stops : mark = ',' ∨ mark = ')') : Stops c.rest := by
  obtain ⟨gap, skipped⟩ := c.skip_space_reads
  have last := character_accepted mark _ next marked
  rw [skipped.rest, last.rest]
  exact stops_gap gap mark next.rest stops

theorem nothing_more (c stop : Cursor) (all : List Argument) (same : Outcome.accepted [] c = .accepted all stop)
    (stops : Stops stop.rest) :
    Stops c.rest ∧ ∃ more : Further IsMetric, c.Reads more.chars stop ∧ all = more.arguments c.offset := by
  cases same
  exact ⟨stops, .nothing, .refl c, rfl⟩

section

variable {sub : Cursor → Outcome Expr} (writes : Writes sub)
include writes

theorem argument_accepted (c next : Cursor) (a : Argument) (accepted : argument sub c = .accepted a next)
    (stops : Stops next.rest) : ∃ item : Item IsMetric, c.Reads item.chars next ∧ a = item.argument c.offset := by
  rcases Outcome.or_else_accepted accepted with named | ⟨_, positional⟩
  · obtain ⟨name, afterName, read, later⟩ := Outcome.and_then_accepted named
    obtain ⟨_, afterSign, sign, later⟩ := Outcome.and_then_accepted later
    obtain ⟨e, stop, value, given⟩ := Outcome.and_then_accepted later
    cases given
    obtain ⟨key, before, head, rfl⟩ := identifier_gap c afterName afterSign name '=' read sign
    obtain ⟨after, skipped⟩ := afterSign.skip_space_reads
    obtain ⟨p, body, rfl⟩ := writes _ _ _ value stops
    have front : c.Reads (key.chars ++ (before.1 ++ '=' :: after.1)) afterSign.skipSpace := by
      simpa using head.trans skipped
    refine ⟨.named key before after p, ?_, ?_⟩
    · simpa [Item.chars] using front.trans body
    · rw [Item.argument, ← front.offset]
  · obtain ⟨e, stop, value, given⟩ := Outcome.and_then_accepted positional
    cases given
    obtain ⟨p, body, rfl⟩ := writes _ _ _ value stops
    exact ⟨.positional p, body, rfl⟩

theorem more_accepted (room : Nat) (c stop : Cursor) (all : List Argument)
    (accepted : moreArguments sub room c = .accepted all stop) (stops : Stops stop.rest) :
    Stops c.rest ∧ ∃ more : Further IsMetric, c.Reads more.chars stop ∧ all = more.arguments c.offset := by
  -- What may follow an argument is only known from the arguments behind it, so both parts are shown
  -- in one induction.
  induction room generalizing c all with
  | zero => exact nothing_more c stop all accepted stops
  | succ room ih =>
      rw [moreArguments] at accepted
      cases comma : character ',' c.skipSpace with
      | declined _ => rw [comma] at accepted; exact nothing_more c stop all accepted stops
      | refused _ => rw [comma] at accepted; exact nothing_more c stop all accepted stops
      | accepted _ afterComma =>
          rw [comma] at accepted
          dsimp only at accepted
          cases read : argument sub afterComma.skipSpace with
          | declined _ => rw [read] at accepted; exact nothing_more c stop all accepted stops
          | refused _ => rw [read] at accepted; cases accepted
          | accepted a next =>
              rw [read] at accepted
              obtain ⟨rest, last, behind, given⟩ := Outcome.and_then_accepted accepted
              cases given
              obtain ⟨nextStops, more, later, rfl⟩ := ih next rest behind
              obtain ⟨item, here, rfl⟩ := argument_accepted writes _ next a read nextStops
              obtain ⟨before, toComma⟩ := c.skip_space_reads
              obtain ⟨after, toItem⟩ := afterComma.skip_space_reads
              have front : c.Reads (before.1 ++ ',' :: after.1) afterComma.skipSpace := by
                simpa using toComma.trans ((character_accepted ',' _ _ comma).trans toItem)
              refine ⟨stops_of_mark c afterComma ',' comma (.inl rfl), .next before after item more, ?_, ?_⟩
              · simpa [Further.chars] using front.trans (here.trans later)
              · rw [Further.arguments, ← front.offset, ← here.offset]

theorem arguments_accepted (c stop : Cursor) (all : List Argument) (accepted : arguments sub c = .accepted all stop)
    (stops : Stops stop.rest) :
    ∃ inside : Inside IsMetric, c.Reads inside.chars stop ∧ all = inside.arguments c.offset := by
  rw [arguments] at accepted
  cases read : argument sub c with
  | declined _ =>
      rw [read] at accepted
      cases accepted
      exact ⟨.nothing, .refl c, rfl⟩
  | refused _ =>
      rw [read] at accepted
      cases accepted
  | accepted a next =>
      rw [read] at accepted
      obtain ⟨rest, last, behind, given⟩ := Outcome.and_then_accepted accepted
      cases given
      obtain ⟨nextStops, more, later, rfl⟩ := more_accepted writes _ next stop rest behind stops
      obtain ⟨item, here, rfl⟩ := argument_accepted writes c next a read nextStops
      refine ⟨.items item more, here.trans later, ?_⟩
      rw [Inside.arguments, ← here.offset]

theorem call_accepted (c next : Cursor) (e : Expr) (accepted : call sub c = .accepted e next) :
    ∃ p : Phrase IsMetric, c.Reads p.chars next ∧ e = p.tree c.offset := by
  obtain ⟨name, afterName, read, later⟩ := Outcome.and_then_accepted accepted
  obtain ⟨_, opened, mark, later⟩ := Outcome.and_then_accepted later
  obtain ⟨all, afterAll, listed, later⟩ := Outcome.and_then_accepted (Outcome.commit_accepted later)
  obtain ⟨_, stop, close, given⟩ := Outcome.and_then_accepted later
  cases given
  obtain ⟨i, gap, head, rfl⟩ := identifier_gap c afterName opened name '(' read mark
  obtain ⟨lead, toArguments⟩ := opened.skip_space_reads
  obtain ⟨trail, toClose⟩ := afterAll.skip_space_reads
  obtain ⟨inside, body, rfl⟩ :=
    arguments_accepted writes _ afterAll all listed (stops_of_mark afterAll next ')' close (.inr rfl))
  have front : c.Reads (i.chars ++ (gap.1 ++ '(' :: lead.1)) opened.skipSpace := by
    simpa using head.trans toArguments
  have between := (toArguments.trans (body.trans toClose)).up_to
  refine ⟨.call i gap lead inside trail, ?_, ?_⟩
  · simpa [Phrase.chars] using front.trans (body.trans (toClose.trans (character_accepted ')' _ next close)))
  · rw [call_tree, callOf, between, inside.trimmed (fun _ isMetric => isMetric) lead trail, front.offset]

end

theorem expression_accepted (depth : Nat) : Writes (expression depth) := by
  induction depth with
  | zero =>
      intro c next e accepted
      cases accepted
  | succ depth ih =>
      intro c next e accepted stops
      rw [expression] at accepted
      rcases Outcome.or_else_accepted accepted with called | ⟨_, accepted⟩
      · exact call_accepted ih c next e called
      rcases Outcome.or_else_accepted accepted with spelled | ⟨noBoolean, accepted⟩
      · obtain ⟨w, reads, rfl, _⟩ := boolean_accepted c next e spelled
        exact ⟨.boolean w, reads, rfl⟩
      rcases Outcome.or_else_accepted accepted with counted | ⟨noNumber, accepted⟩
      · obtain ⟨n, reads, rfl, _⟩ := number_accepted c next e counted
        exact ⟨.number n, reads, rfl⟩
      rcases Outcome.or_else_accepted accepted with quoted | ⟨_, named⟩
      · obtain ⟨q, reads, rfl⟩ := string_accepted c next e quoted
        exact ⟨.string q, reads, rfl⟩
      · obtain ⟨cs, pattern, occupied, reads, rfl⟩ := metric_accepted c next e named
        rw [reads.eq_start] at noBoolean noNumber
        exact ⟨.metric cs (.of_declined stops pattern occupied c.offset noBoolean noNumber), reads, rfl⟩

theorem read_accepted (text : String) (e : Expr) (accepted : read text = .ok e) :
    ∃ (p : Phrase IsMetric) (before after : Space),
      text.toList = before.1 ++ (p.chars ++ after.1) ∧ e = p.tree (byteLength before.1) := by
  rw [read] at accepted
  split at accepted
  next e next read =>
    dsimp only at accepted
    split at accepted
    next whole =>
      cases accepted
      obtain ⟨before, start⟩ := (Cursor.ofText text).skip_space_reads
      obtain ⟨after, stop⟩ := next.skip_space_reads
      have behind : next.rest = after.1 := by
        rw [stop.rest, List.isEmpty_iff.mp whole, List.append_nil]
      have stops : Stops next.rest := by
        have bare := stops_space after.1 [] after.2 stops_nil
        rwa [List.append_nil, ← behind] at bare
      obtain ⟨p, body, rfl⟩ := expression_accepted _ _ next e read stops
      refine ⟨p, before, after, ?_, ?_⟩
      · have text := (start.trans body).rest
        rwa [behind, List.append_assoc] at text
      · rw [start.offset]
        exact congrArg p.tree (Nat.zero_add _)
    next => cases accepted
  next => cases accepted
  next => cases accepted

theorem read_iff (text : String) (e : Expr) :
    read text = .ok e ↔
      ∃ (p : Phrase IsMetric) (before after : Space),
        text.toList = before.1 ++ (p.chars ++ after.1) ∧ e = p.tree (byteLength before.1) := by
  constructor
  · exact read_accepted text e
  · rintro ⟨p, before, after, same, rfl⟩
    rw [← String.ofList_toList (s := text), same]
    exact read_past (fun _ isMetric => isMetric) p before after

end TargetEval.Target

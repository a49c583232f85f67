import Mathlib.Algebra.BigOperators.Group.Finset.Piecewise
import TargetEval.Telemetry.Basic

set_option autoImplicit false

namespace TargetEval

namespace Event

def function : Event → String
  | .evaluated function _ => function
  | .dropped function => function

def isEvaluation (succeeded : Bool) : Event → Bool
  | .evaluated _ outcome => outcome = succeeded
  | .dropped _ => false

def isDrop : Event → Bool
  | .evaluated _ _ => false
  | .dropped _ => true

end Event

namespace Telemetry

def evaluationsTotal (t : Telemetry) (function : String) (succeeded : Bool) : Nat :=
  match t.evaluations.find? function with
  | none => 0
  | some tally => if succeeded then tally.succeeded else tally.failed

def droppedTotal (t : Telemetry) (function : String) : Nat := (t.dropped.find? function).getD 0

def recordAll (t : Telemetry) (events : List Event) : Telemetry := events.foldl record t

theorem record_evaluations (t : Telemetry) (event : Event) (function : String) (succeeded : Bool) :
    (t.record event).evaluationsTotal function succeeded =
      t.evaluationsTotal function succeeded + if event = .evaluated function succeeded then 1 else 0 := by
  cases event with
  | dropped other => simp [record, droppedGroup, evaluationsTotal]
  | evaluated other outcome =>
      simp only [record, evaluated, evaluationsTotal, ByName.find_insert, Event.evaluated.injEq]
      by_cases same : other = function
      · subst same
        cases t.evaluations.find? other <;> cases succeeded <;> cases outcome <;> simp
      · simp [same]

theorem record_dropped (t : Telemetry) (event : Event) (function : String) :
    (t.record event).droppedTotal function =
      t.droppedTotal function + if event = .dropped function then 1 else 0 := by
  cases event with
  | evaluated other outcome => simp [record, evaluated, droppedTotal]
  | dropped other =>
      simp only [record, droppedGroup, droppedTotal, ByName.find_insert, Event.dropped.injEq]
      by_cases same : other = function
      · subst same
        simp
      · simp [same]

theorem record_all_count (counter : Telemetry → Nat) (counted : Event)
    (step : ∀ t event, counter (t.record event) = counter t + if event = counted then 1 else 0)
    (events : List Event) : ∀ t : Telemetry, counter (t.recordAll events) = counter t + events.count counted := by
  induction events with
  | nil => exact fun _ => rfl
  | cons event rest ih =>
      intro t
      have first := step t event
      have later := ih (t.record event)
      rw [List.count_cons]
      change counter ((t.record event).recordAll rest) = _
      simp only [beq_iff_eq]
      omega

theorem record_all_evaluations (t : Telemetry) (events : List Event) (function : String) (succeeded : Bool) :
    (t.recordAll events).evaluationsTotal function succeeded =
      t.evaluationsTotal function succeeded + events.count (.evaluated function succeeded) :=
  record_all_count (fun t => t.evaluationsTotal function succeeded) _
    (fun t event => record_evaluations t event function succeeded) events t

theorem record_all_dropped (t : Telemetry) (events : List Event) (function : String) :
    (t.recordAll events).droppedTotal function = t.droppedTotal function + events.count (.dropped function) :=
  record_all_count (fun t => t.droppedTotal function) _ (fun t event => record_dropped t event function) events t

def durationsTotal (t : Telemetry) (function : String) : Nat :=
  match t.evaluations.find? function with
  | none => 0
  | some tally => tally.durations.total

def recordTimed (t : Telemetry) : Event × Float → Telemetry
  | (.evaluated function succeeded, seconds) => t.evaluated function succeeded seconds
  | (.dropped function, _) => t.droppedGroup function

def recordAllTimed (t : Telemetry) (timed : List (Event × Float)) : Telemetry := timed.foldl recordTimed t

theorem record_timed_evaluations (t : Telemetry) (entry : Event × Float) (function : String) (succeeded : Bool) :
    (t.recordTimed entry).evaluationsTotal function succeeded =
      t.evaluationsTotal function succeeded + if entry.1 = .evaluated function succeeded then 1 else 0 := by
  rw [← record_evaluations]
  obtain ⟨event, seconds⟩ := entry
  cases event with
  | evaluated other outcome =>
      simp only [recordTimed, record, evaluated, evaluationsTotal, ByName.find_insert]
      by_cases same : other = function
      · simp [same]
      · simp [same]
  | dropped other => rfl

theorem record_timed_dropped (t : Telemetry) (entry : Event × Float) (function : String) :
    (t.recordTimed entry).droppedTotal function =
      t.droppedTotal function + if entry.1 = .dropped function then 1 else 0 := by
  rw [← record_dropped]
  obtain ⟨event, seconds⟩ := entry
  cases event with
  | evaluated other outcome => rfl
  | dropped other => rfl

theorem record_timed_durations (t : Telemetry) (entry : Event × Float) (function : String) :
    (t.recordTimed entry).durationsTotal function = t.durationsTotal function +
      ((if entry.1 = .evaluated function true then 1 else 0) +
        if entry.1 = .evaluated function false then 1 else 0) := by
  obtain ⟨event, seconds⟩ := entry
  cases event with
  | dropped other => simp [recordTimed, droppedGroup, durationsTotal]
  | evaluated other outcome =>
      simp only [recordTimed, evaluated, durationsTotal, ByName.find_insert, Event.evaluated.injEq]
      by_cases same : other = function
      · subst same
        cases t.evaluations.find? other <;> cases outcome <;> simp [Histogram.observe, Histogram.empty]
      · simp [same]

def growth (counter : Telemetry → String → Nat) (before after : Telemetry) (function : String) : Int :=
  counter after function - counter before function

section

variable (before : Telemetry) (timed : List (Event × Float))

theorem growth_count (counter : Telemetry → String → Nat) (function : String) (counted : Event)
    (step : ∀ t entry, counter (recordTimed t entry) function =
      counter t function + if entry.1 = counted then 1 else 0) :
    growth counter before (before.recordAllTimed timed) function = (timed.map Prod.fst).count counted := by
  induction timed generalizing before with
  | nil => simp [growth, recordAllTimed]
  | cons entry rest ih =>
      have first := step before entry
      have later := ih (before.recordTimed entry)
      rw [List.map_cons, List.count_cons]
      simp only [growth, recordAllTimed, List.foldl_cons, beq_iff_eq] at later ⊢
      omega

theorem growth_evaluations (function : String) (succeeded : Bool) :
    growth (evaluationsTotal · · succeeded) before (before.recordAllTimed timed) function =
      (timed.map Prod.fst).count (.evaluated function succeeded) :=
  growth_count before timed _ function _ fun t entry => record_timed_evaluations t entry function succeeded

theorem growth_dropped (function : String) :
    growth droppedTotal before (before.recordAllTimed timed) function =
      (timed.map Prod.fst).count (.dropped function) :=
  growth_count before timed _ function _ fun t entry => record_timed_dropped t entry function

theorem growth_durations (function : String) :
    growth durationsTotal before (before.recordAllTimed timed) function =
      growth (evaluationsTotal · · true) before (before.recordAllTimed timed) function +
        growth (evaluationsTotal · · false) before (before.recordAllTimed timed) function := by
  induction timed generalizing before with
  | nil => simp [growth, recordAllTimed]
  | cons entry rest ih =>
      have durations := record_timed_durations before entry function
      have successes := record_timed_evaluations before entry function true
      have failures := record_timed_evaluations before entry function false
      have later := ih (before.recordTimed entry)
      simp only [growth, recordAllTimed, List.foldl_cons] at later ⊢
      omega

end

theorem sum_count (kind : String → Event) (ofKind : Event → Bool)
    (kinds : ∀ event function, event = kind function ↔ ofKind event = true ∧ event.function = function)
    (functions : Finset String) (events : List Event) (all : ∀ event ∈ events, event.function ∈ functions) :
    ∑ function ∈ functions, events.count (kind function) = events.countP ofKind := by
  induction events with
  | nil => simp
  | cons event rest ih =>
      obtain ⟨here, later⟩ := List.forall_mem_cons.mp all
      have one : ∑ function ∈ functions, (if event = kind function then 1 else 0) = if ofKind event then 1 else 0 := by
        by_cases hit : ofKind event
        · simp [kinds, hit, here]
        · simp [kinds, hit]
      simp only [List.count_cons, List.countP_cons, beq_iff_eq, Finset.sum_add_distrib, ih later, one]

end Telemetry

end TargetEval

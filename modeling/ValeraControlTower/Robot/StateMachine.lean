import ValeraControlTower.Library.AppendLog
import ValeraControlTower.Robot.Events

/-!
# `robot/state_machine.py`

The log of a task takes events in order, up to the first terminal one.
-/

namespace ValeraControlTower

namespace Robot

variable {K : Type}

/-- `TERMINAL_EVENT_TYPES`. -/
def EventType.isTerminal : EventType → Bool
  | taskCompleted | taskFailed => true
  | _ => false

structure TaskEventLog (K : Type) where
  taskId : PyStr
  events : List (EventEnvelope K) := []

namespace TaskEventLog

/-- `terminal_event_type`. -/
def terminalEventType (log : TaskEventLog K) : Option EventType :=
  (log.events.find? (·.eventType.isTerminal)).map (·.eventType)

/-- `last_sequence`. -/
def lastSequence (log : TaskEventLog K) : ℤ :=
  match log.events.getLast? with
  | none => 0
  | some event => event.sequence

/-- `append`. -/
def append (log : TaskEventLog K) (event : EventEnvelope K) : Except Exception (TaskEventLog K) :=
  if event.taskId ≠ log.taskId then
    .error (.invalid (py "event task_id does not match event log task_id"))
  else if log.terminalEventType ≠ none then
    .error (.invalid (py "cannot append event after terminal state"))
  else if event.sequence ≤ log.lastSequence then
    .error (.invalid (py "event sequence must be monotonic per task"))
  else .ok { log with events := log.events ++ [event] }

/-- The loop of `validate`. -/
def validateFrom (taskId : PyStr) (seenTerminal : Option EventType) (lastSequence : ℤ) :
    List (EventEnvelope K) → Except Exception Unit
  | [] => .ok ()
  | event :: events =>
      if event.taskId ≠ taskId then
        .error (.invalid (py "event task_id does not match event log task_id"))
      else if event.sequence ≤ lastSequence then
        .error (.invalid (py "event sequence must be monotonic per task"))
      else if seenTerminal ≠ none then
        .error (.invalid (py "cannot append event after terminal state"))
      else
        validateFrom taskId
          (if event.eventType.isTerminal then some event.eventType else seenTerminal)
          event.sequence events

/-- `validate`. -/
def validate (log : TaskEventLog K) : Except Exception Unit :=
  validateFrom log.taskId none 0 log.events

/-! ## What a log may take -/

/-- Events as items of a numbered log. -/
def view : AppendLog.View (EventEnvelope K) PyStr ℤ where
  owner event := event.taskId
  number event := event.sequence
  closes event := event.eventType.isTerminal

/-- An event that a log may take. -/
abbrev Follows (log : TaskEventLog K) (event : EventEnvelope K) : Prop :=
  AppendLog.Follows view log.taskId 0 log.events event

/-- A log of one task with increasing sequences, whose last event only may be terminal. -/
abbrev Ordered (log : TaskEventLog K) : Prop := AppendLog.Ordered view log.taskId 0 log.events

theorem lastSequence_eq (log : TaskEventLog K) :
    log.lastSequence = AppendLog.last view 0 log.events := by
  unfold lastSequence AppendLog.last
  cases log.events.getLast? <;> rfl

theorem terminalEventType_eq_none {log : TaskEventLog K} :
    log.terminalEventType = none ↔ ∀ event ∈ log.events, event.eventType.isTerminal = false := by
  simp [terminalEventType]

/-- `append` takes the events that follow and refuses the others. -/
theorem append_eq_ok {log : TaskEventLog K} {event : EventEnvelope K} {longer : TaskEventLog K} :
    log.append event = .ok longer ↔
      log.Follows event ∧ longer = { log with events := log.events ++ [event] } := by
  unfold append
  split
  · next foreign => exact iff_of_false nofun fun taken => foreign taken.1.owned
  · next owned =>
      split
      · next closed =>
          exact iff_of_false nofun fun taken =>
            closed (terminalEventType_eq_none.mpr taken.1.isOpen)
      · next isOpen =>
          split
          · next early =>
              refine iff_of_false nofun fun taken => not_lt.mpr early ?_
              rw [lastSequence_eq]
              exact taken.1.later
          · next later =>
              rw [not_not] at owned isOpen
              rw [lastSequence_eq, not_le] at later
              have follows : log.Follows event :=
                ⟨owned, terminalEventType_eq_none.mp isOpen, later⟩
              constructor
              · rintro ⟨⟩
                exact ⟨follows, rfl⟩
              · rintro ⟨_, rfl⟩
                rfl

theorem append_ok {log : TaskEventLog K} {event : EventEnvelope K} (follows : log.Follows event) :
    log.append event = .ok { log with events := log.events ++ [event] } :=
  append_eq_ok.mpr ⟨follows, rfl⟩

/-- The loop of `validate` checks that the events can be appended. -/
theorem validateFrom_eq_ok {taskId : PyStr} {seenTerminal : Option EventType}
    {before events : List (EventEnvelope K)}
    (seen : seenTerminal = none ↔ ∀ event ∈ before, event.eventType.isTerminal = false) :
    validateFrom taskId seenTerminal (AppendLog.last view 0 before) events = .ok () ↔
      AppendLog.Grows (AppendLog.Follows view taskId 0) before events := by
  induction events generalizing seenTerminal before with
  | nil => exact iff_of_true rfl trivial
  | cons event events inductionHypothesis =>
      unfold validateFrom AppendLog.Grows
      split
      · next foreign => exact iff_of_false (by simp) fun grows => foreign grows.1.owned
      · next owned =>
          split
          · next early => exact iff_of_false (by simp) fun grows => not_lt.mpr early grows.1.later
          · next later =>
              split
              · next closed =>
                  exact iff_of_false (by simp) fun grows => closed (seen.mpr grows.1.isOpen)
              · next isOpen =>
                  rw [not_not] at owned isOpen
                  have isOpen' := seen.mp isOpen
                  rw [and_iff_right (AppendLog.Follows.mk owned isOpen' (not_le.mp later))]
                  have last : AppendLog.last view 0 (before ++ [event]) = event.sequence :=
                    AppendLog.last_concat
                  rw [← last]
                  apply inductionHypothesis
                  cases terminal : event.eventType.isTerminal with
                  | true => simp [terminal]
                  | false => simpa [terminal, isOpen, or_imp, forall_and] using isOpen'

theorem validate_eq_ok {log : TaskEventLog K} : log.validate = .ok () ↔ log.Ordered := by
  have seen : (none : Option EventType) = none ↔
      ∀ event ∈ ([] : List (EventEnvelope K)), event.eventType.isTerminal = false := by
    simp
  exact (validateFrom_eq_ok seen).trans AppendLog.built_iff_ordered

end TaskEventLog

end Robot

end ValeraControlTower

import ValeraControlTower.Robot.StateMachine

/-!
# Appending and validating

`TaskEventLog` as the mutable object it is: an `append` that raises leaves it as it was, and
the logs that can be built with `append` are those that `validate` accepts.
-/

namespace ValeraControlTower

namespace Robot

namespace TaskEventLog

variable {K : Type}

/-! ## Methods -/

/-- What a method raises or returns, and the log behind it. -/
abbrev Effect (K : Type) := Except Exception Unit × TaskEventLog K

/-- `append`, on the log itself. -/
def appendInPlace (event : EventEnvelope K) (log : TaskEventLog K) : Effect K :=
  if event.taskId ≠ log.taskId then
    (.error (.invalid (py "event task_id does not match event log task_id")), log)
  else if log.terminalEventType ≠ none then
    (.error (.invalid (py "cannot append event after terminal state")), log)
  else if event.sequence ≤ log.lastSequence then
    (.error (.invalid (py "event sequence must be monotonic per task")), log)
  else (.ok (), { log with events := log.events ++ [event] })

/-- Events appended one by one, up to the first that is refused. -/
def appendEach : List (EventEnvelope K) → TaskEventLog K → Effect K
  | [], log => (.ok (), log)
  | event :: events, log =>
      match appendInPlace event log with
      | (.error exception, log) => (.error exception, log)
      | (.ok (), log) => appendEach events log

/-- The log behind appends of which some are refused. -/
def afterAttempts (taskId : PyStr) (events : List (EventEnvelope K)) : TaskEventLog K :=
  events.foldl (fun log event => (appendInPlace event log).2) ⟨taskId, []⟩

variable {taskId : PyStr} {log longer : TaskEventLog K} {event : EventEnvelope K}
  {events : List (EventEnvelope K)}

/-! ## What a method leaves behind -/

/-- On the log itself `append` raises and returns what it does on a value. -/
theorem appendInPlace_eq (event : EventEnvelope K) (log : TaskEventLog K) :
    appendInPlace event log =
      match log.append event with
      | .ok longer => (.ok (), longer)
      | .error exception => (.error exception, log) := by
  unfold appendInPlace append
  by_cases foreign : event.taskId ≠ log.taskId
  · rw [if_pos foreign, if_pos foreign]
  · rw [if_neg foreign, if_neg foreign]
    by_cases closed : log.terminalEventType ≠ none
    · rw [if_pos closed, if_pos closed]
    · rw [if_neg closed, if_neg closed]
      by_cases early : event.sequence ≤ log.lastSequence
      · rw [if_pos early, if_pos early]
      · rw [if_neg early, if_neg early]

/-- The log takes the event that follows. -/
theorem appendInPlace_of_follows (follows : log.Follows event) :
    appendInPlace event log = (.ok (), { log with events := log.events ++ [event] }) := by
  rw [appendInPlace_eq, append_ok follows]

/-- The log refuses the others, and stays as it is. -/
theorem appendInPlace_of_not_follows (refused : ¬log.Follows event) :
    ∃ exception, appendInPlace event log = (.error exception, log) := by
  rw [appendInPlace_eq]
  cases appended : log.append event with
  | ok longer => exact absurd (append_eq_ok.mp appended).1 refused
  | error exception => exact ⟨exception, rfl⟩

/-- An `append` that raises leaves the log as it was. -/
theorem appendInPlace_error {exception : Exception}
    (raised : appendInPlace event log = (.error exception, longer)) : longer = log := by
  by_cases follows : log.Follows event
  · rw [appendInPlace_of_follows follows] at raised
    cases raised
  · obtain ⟨other, refused⟩ := appendInPlace_of_not_follows follows
    cases raised.symm.trans refused
    rfl

/-! ## Building a log -/

/-- All events are appended if each follows those before it; then they are the new end of the
log. -/
theorem appendEach_of_grows (grows : AppendLog.Grows (AppendLog.Follows view log.taskId 0)
    log.events events) :
    appendEach events log = (.ok (), { log with events := log.events ++ events }) := by
  induction events generalizing log with
  | nil => simp [appendEach]
  | cons event events inductionHypothesis =>
      obtain ⟨follows, grows⟩ := grows
      unfold appendEach
      rw [appendInPlace_of_follows follows]
      apply (inductionHypothesis grows).trans
      simp

theorem appendEach_of_not_grows (stuck : ¬AppendLog.Grows (AppendLog.Follows view log.taskId 0)
    log.events events) : ∃ exception rest, appendEach events log = (.error exception, rest) := by
  induction events generalizing log with
  | nil => exact absurd trivial stuck
  | cons event events inductionHypothesis =>
      unfold appendEach
      by_cases follows : log.Follows event
      · rw [appendInPlace_of_follows follows]
        exact inductionHypothesis fun grows => stuck ⟨follows, grows⟩
      · obtain ⟨exception, refused⟩ := appendInPlace_of_not_follows follows
        rw [refused]
        exact ⟨exception, log, rfl⟩

/-! ## Logs with refused events -/

/-- An event that is offered leaves an ordered log. -/
theorem ordered_appendInPlace (ordered : log.Ordered) (event : EventEnvelope K) :
    (appendInPlace event log).2.Ordered ∧ (appendInPlace event log).2.taskId = log.taskId := by
  by_cases follows : log.Follows event
  · rw [appendInPlace_of_follows follows]
    exact ⟨AppendLog.ordered_concat.mpr ⟨ordered, follows⟩, rfl⟩
  · obtain ⟨exception, refused⟩ := appendInPlace_of_not_follows follows
    rw [refused]
    exact ⟨ordered, rfl⟩

theorem ordered_foldl (ordered : log.Ordered) (attempts : List (EventEnvelope K)) :
    (attempts.foldl (fun log event => (appendInPlace event log).2) log).Ordered ∧
      (attempts.foldl (fun log event => (appendInPlace event log).2) log).taskId = log.taskId := by
  induction attempts generalizing log with
  | nil => exact ⟨ordered, rfl⟩
  | cons event attempts inductionHypothesis =>
      obtain ⟨next, owner⟩ := ordered_appendInPlace ordered event
      obtain ⟨rest, restOwner⟩ := inductionHypothesis next
      exact ⟨rest, restOwner.trans owner⟩

theorem ordered_afterAttempts (taskId : PyStr) (attempts : List (EventEnvelope K)) :
    (afterAttempts taskId attempts).Ordered ∧ (afterAttempts taskId attempts).taskId = taskId :=
  ordered_foldl ⟨by simp, by simp, .nil⟩ attempts

/-- The only terminal event of a log is its last one, and it is the one the log reports. -/
inductive Terminal (log : TaskEventLog K) : Prop where
  | inProgress (isOpen : ∀ event ∈ log.events, event.eventType.isTerminal = false)
      (reported : log.terminalEventType = none)
  | ended {before : List (EventEnvelope K)} {final : EventEnvelope K}
      (isLog : log.events = before ++ [final])
      (isOpen : ∀ event ∈ before, event.eventType.isTerminal = false)
      (terminal : final.eventType.isTerminal = true)
      (reported : log.terminalEventType = some final.eventType)

theorem Ordered.terminal (ordered : log.Ordered) : log.Terminal := by
  rcases List.eq_nil_or_concat log.events with ends | ⟨before, final, ends⟩
  · have isOpen : ∀ event ∈ log.events, event.eventType.isTerminal = false := by
      simp [ends]
    exact .inProgress isOpen (terminalEventType_eq_none.mpr isOpen)
  · unfold TaskEventLog.Ordered at ordered
    rw [List.concat_eq_append] at ends
    rw [ends] at ordered
    have isOpen := (AppendLog.ordered_concat.mp ordered).2.isOpen
    by_cases terminal : final.eventType.isTerminal = true
    · refine .ended ends isOpen terminal ?_
      have noEarlier : before.find? (·.eventType.isTerminal) = none := by
        rw [List.find?_eq_none]
        intro event membership
        have stays : event.eventType.isTerminal = false := isOpen event membership
        simp [stays]
      unfold terminalEventType
      rw [ends, List.find?_append, noEarlier]
      simp [terminal]
    · rw [Bool.not_eq_true] at terminal
      have allOpen : ∀ event ∈ log.events, event.eventType.isTerminal = false := by
        rw [ends]
        simpa [or_imp, forall_and] using ⟨isOpen, terminal⟩
      exact .inProgress allOpen (terminalEventType_eq_none.mpr allOpen)

/-- What a log is after any appends, successful or not. -/
structure Sound (log : TaskEventLog K) (taskId : PyStr) : Prop where
  validates : log.validate = .ok ()
  increasing : log.events.Pairwise fun earlier later => earlier.sequence < later.sequence
  owned : ∀ event ∈ log.events, event.taskId = taskId
  terminal : log.Terminal

theorem sound_afterAttempts (taskId : PyStr) (attempts : List (EventEnvelope K)) :
    (afterAttempts taskId attempts).Sound taskId := by
  obtain ⟨ordered, owner⟩ := ordered_afterAttempts taskId attempts
  refine ⟨validate_eq_ok.mpr ordered, ?_, ?_, Ordered.terminal ordered⟩
  · exact ordered.increasing.imp fun later => later.1
  · intro event membership
    rw [← owner]
    exact ordered.owned event membership

/-! ## The two checks agree -/

/-- Appending one by one and validating at once agree; an `append` that raises changes nothing;
and any appends leave a sound log. -/
theorem append_validate_agree (taskId : PyStr) :
    (∀ events : List (EventEnvelope K), (⟨taskId, events⟩ : TaskEventLog K).validate = .ok () ↔
      ∃ log, appendEach events ⟨taskId, []⟩ = (.ok (), log)) ∧
    (∀ (events : List (EventEnvelope K)) (log : TaskEventLog K),
      appendEach events ⟨taskId, []⟩ = (.ok (), log) → log = ⟨taskId, events⟩) ∧
    (∀ (log longer : TaskEventLog K) (event : EventEnvelope K) (exception : Exception),
      appendInPlace event log = (.error exception, longer) → longer = log) ∧
    ∀ attempts : List (EventEnvelope K), (afterAttempts taskId attempts).Sound taskId := by
  have builds : ∀ events : List (EventEnvelope K), (⟨taskId, events⟩ : TaskEventLog K).Ordered ↔
      AppendLog.Grows (AppendLog.Follows view taskId 0) [] events := fun events =>
    AppendLog.built_iff_ordered.symm
  refine ⟨fun events => ?_, fun events log appended => ?_, ?_, sound_afterAttempts taskId⟩
  · rw [validate_eq_ok, builds]
    constructor
    · exact fun grows => ⟨_, appendEach_of_grows grows⟩
    · rintro ⟨log, appended⟩
      by_contra stuck
      obtain ⟨exception, rest, failed⟩ :=
        @appendEach_of_not_grows K ⟨taskId, []⟩ events stuck
      cases appended.symm.trans failed
  · by_cases grows : AppendLog.Grows (AppendLog.Follows view taskId 0) [] events
    · have built := @appendEach_of_grows K ⟨taskId, []⟩ events grows
      cases appended.symm.trans built
      rfl
    · obtain ⟨exception, rest, failed⟩ := @appendEach_of_not_grows K ⟨taskId, []⟩ events grows
      cases appended.symm.trans failed
  · exact fun log longer event exception raised => appendInPlace_error raised

end TaskEventLog

end Robot

end ValeraControlTower

import ValeraControlTower.Robot.StateMachine

/-!
# Logs of missions

All missions number their events behind the last one and derive the time of an event from
its number.
-/

namespace ValeraControlTower

namespace Robot

variable {K : Type}

/-! ## Logs -/

namespace TaskEventLog

/-- The types of the events of a log, in order. -/
def types (log : TaskEventLog K) : List EventType := log.events.map (·.eventType)

/-- A log in progress: its task, its event types and its last sequence. -/
structure Recording (log : TaskEventLog K) (taskId : PyStr) (types : List EventType) (last : ℤ) :
    Prop where
  owner : log.taskId = taskId
  recorded : log.types = types
  ordered : log.Ordered
  isOpen : ∀ eventType ∈ types, eventType.isTerminal = false
  lastSequence : log.lastSequence = last

/-- A log that ends with its only terminal event. -/
structure Finished (log : TaskEventLog K) (types : List EventType) (final : EventEnvelope K) :
    Prop where
  validates : log.validate = .ok ()
  recorded : ∃ before, log.events = before ++ [final] ∧ before.map (·.eventType) = types
  isOpen : ∀ eventType ∈ types, eventType.isTerminal = false
  terminal : final.eventType.isTerminal = true

theorem Recording.new (taskId : PyStr) :
    Recording (TaskEventLog.mk taskId [] : TaskEventLog K) taskId [] 0 :=
  ⟨rfl, rfl, ⟨by simp, by simp, .nil⟩, by simp, rfl⟩

variable {log : TaskEventLog K} {taskId : PyStr} {types : List EventType} {last : ℤ}
  {event : EventEnvelope K}

theorem Recording.follows (recording : Recording log taskId types last)
    (owned : event.taskId = taskId) (later : last < event.sequence) : log.Follows event := by
  refine ⟨owned.trans recording.owner.symm, ?_, ?_⟩
  · intro earlier membership
    apply recording.isOpen
    rw [← recording.recorded]
    exact List.mem_map_of_mem membership
  · rw [← lastSequence_eq, recording.lastSequence]
    exact later

/-- The event that follows is appended. -/
theorem Recording.append (recording : Recording log taskId types last)
    (owned : event.taskId = taskId) (later : last < event.sequence)
    (goesOn : event.eventType.isTerminal = false) :
    ∃ longer, log.append event = .ok longer ∧
      Recording longer taskId (types ++ [event.eventType]) event.sequence := by
  have follows := recording.follows owned later
  refine ⟨_, append_ok follows, recording.owner, ?_, ?_, ?_, ?_⟩
  · rw [← recording.recorded]
    simp [TaskEventLog.types]
  · exact AppendLog.ordered_concat.mpr ⟨recording.ordered, follows⟩
  · simpa [or_imp, forall_and] using ⟨recording.isOpen, goesOn⟩
  · simp [TaskEventLog.lastSequence]

/-- A terminal event ends the log. -/
theorem Recording.finish (recording : Recording log taskId types last)
    (owned : event.taskId = taskId) (later : last < event.sequence)
    (terminal : event.eventType.isTerminal = true) :
    ∃ longer, log.append event = .ok longer ∧ Finished longer types event := by
  have follows := recording.follows owned later
  refine ⟨_, append_ok follows, ?_, ⟨log.events, rfl, recording.recorded⟩,
    recording.isOpen, terminal⟩
  exact validate_eq_ok.mpr (AppendLog.ordered_concat.mpr ⟨recording.ordered, follows⟩)

/-- The last event of the log is its only terminal one. -/
def EndsTerminal (log : TaskEventLog K) : Prop :=
  ∃ before final, log.events = before ++ [final] ∧ final.eventType.isTerminal = true ∧
    ∀ event ∈ before, event.eventType.isTerminal = false

namespace Finished

variable {final : EventEnvelope K}

theorem endsTerminal (finished : Finished log types final) : log.EndsTerminal := by
  obtain ⟨before, isLog, isTypes⟩ := finished.recorded
  refine ⟨before, final, isLog, finished.terminal, fun event membership => ?_⟩
  apply finished.isOpen
  rw [← isTypes]
  exact List.mem_map_of_mem membership

theorem types_eq (finished : Finished log types final) :
    log.types = types ++ [final.eventType] := by
  obtain ⟨before, isLog, isTypes⟩ := finished.recorded
  rw [TaskEventLog.types, isLog, List.map_append, isTypes]
  rfl

theorem getLast?_eq (finished : Finished log types final) : log.events.getLast? = some final := by
  obtain ⟨before, isLog, _⟩ := finished.recorded
  rw [isLog, List.getLast?_concat]

end Finished

end TaskEventLog

/-! ## Events -/

/-- What the events of a mission have in common. -/
structure MissionStamp where
  timestampBase : DateTime
  source : PyStr
  mode : ExecutionMode
  taskId : PyStr
  correlationId : PyStr

/-- The event of a number. -/
def numberedEvent (stamp : MissionStamp) (sequence : ℤ) (eventType : EventType)
    (payload : PyPairs K) (error : Option EventError := none) :
    Except Exception (EventEnvelope K) := do
  let number ← paddedNumber sequence
  let occurredAt ← stamp.timestampBase.addSeconds (sequence - 1)
  EventEnvelope.new {
    eventId := stamp.correlationId ++ py "-" ++ number
    taskId := stamp.taskId
    correlationId := stamp.correlationId
    sequence
    eventType
    occurredAt
    source := stamp.source
    mode := stamp.mode
    payload
    error }

/-- A stamp that `EventEnvelope` accepts. -/
structure MissionStamp.Fits (stamp : MissionStamp) : Prop where
  hasSource : stamp.source ≠ []
  enabled : stamp.mode ≠ .hardware
  hasTaskId : stamp.taskId ≠ []
  hasCorrelationId : stamp.correlationId ≠ []

/-- The time of an event can be represented. -/
def MissionStamp.InTime (stamp : MissionStamp) (sequence : ℤ) : Prop :=
  stamp.timestampBase.clock + (sequence - 1) * 1000000 ≤ datetimeMax

theorem MissionStamp.InTime.mono {stamp : MissionStamp} {earlier later : ℤ}
    (inTime : stamp.InTime later) (before : earlier ≤ later) : stamp.InTime earlier := by
  unfold InTime at inTime ⊢
  omega

/-- What is known of an event that was made. -/
structure Makes (stamp : MissionStamp) (sequence : ℤ) (eventType : EventType)
    (error : Option EventError) (event : EventEnvelope K) : Prop where
  owned : event.taskId = stamp.taskId
  correlated : event.correlationId = stamp.correlationId
  numbered : event.sequence = sequence
  typed : event.eventType = eventType
  carries : event.error = error

variable {stamp : MissionStamp} {sequence : ℤ} {eventType : EventType} {payload : PyPairs K}
  {error : Option EventError}

theorem numberedEvent_ok (fits : stamp.Fits) (positive : 1 ≤ sequence)
    (inTime : stamp.InTime sequence) (eventType : EventType) (payload : PyPairs K)
    (error : Option EventError) :
    ∃ event, numberedEvent stamp sequence eventType payload error = .ok event ∧
      Makes stamp sequence eventType error event := by
  have start := stamp.timestampBase.inRange.1
  have small : sequence.natAbs < 10 ^ intMaxStrDigits := by
    have limit : 400000000000 < 10 ^ intMaxStrDigits := by decide +kernel
    unfold MissionStamp.InTime datetimeMax at inTime
    omega
  obtain ⟨number, isNumber⟩ := paddedNumber_ok small
  obtain ⟨occurredAt, isTime⟩ := DateTime.addSeconds_ok (by omega) inTime
  let fields : EventFields K := {
    eventId := stamp.correlationId ++ py "-" ++ number
    taskId := stamp.taskId
    correlationId := stamp.correlationId
    source := stamp.source
    mode := stamp.mode
    sequence, eventType, occurredAt, payload, error }
  have hasStrings : ∀ field ∈ fields.requiredStrings, field.2 ≠ [] := by
    have version : schemaVersion ≠ [] := by decide
    simp [EventFields.requiredStrings, fields, fits.hasSource, fits.hasTaskId,
      fits.hasCorrelationId, version]
  obtain ⟨event, made, same⟩ := EventEnvelope.new_ok hasStrings positive fits.enabled
  refine ⟨event, ?_, ?_, ?_, ?_, ?_, ?_⟩
  · unfold numberedEvent
    rw [isNumber, isTime]
    exact made
  · rw [same]
  · rw [same]
  · rw [same]
  · rw [same]
  · rw [same]

/-- An event that is too late for a `datetime` is not made. -/
theorem numberedEvent_late (late : ¬stamp.InTime sequence) (eventType : EventType)
    (payload : PyPairs K) (error : Option EventError) :
    ∃ exception, numberedEvent stamp sequence eventType payload error = .error exception := by
  unfold numberedEvent
  rw [DateTime.addSeconds_beyond (not_le.mp late)]
  cases paddedNumber sequence with
  | error exception => exact ⟨exception, rfl⟩
  | ok number => exact ⟨.overflowError, rfl⟩

namespace TaskEventLog

variable {log : TaskEventLog K} {types : List EventType} {last : ℤ}

/-- The next event of a mission. -/
theorem Recording.next (recording : Recording log stamp.taskId types last) (fits : stamp.Fits)
    (started : 0 ≤ last) (inTime : stamp.InTime (last + 1))
    (goesOn : eventType.isTerminal = false) (payload : PyPairs K) (error : Option EventError) :
    ∃ event longer,
      numberedEvent stamp (last + 1) eventType payload error = .ok event ∧
      log.append event = .ok longer ∧
      Recording longer stamp.taskId (types ++ [eventType]) (last + 1) ∧
      Makes stamp (last + 1) eventType error event := by
  obtain ⟨event, made, makes⟩ := numberedEvent_ok fits (by omega) inTime eventType payload error
  obtain ⟨longer, appended, longerRecording⟩ := recording.append makes.owned
    (by rw [makes.numbered]; omega) (by rw [makes.typed]; exact goesOn)
  rw [makes.typed, makes.numbered] at longerRecording
  exact ⟨event, longer, made, appended, longerRecording, makes⟩

/-- The last event of a mission. -/
theorem Recording.finishNext (recording : Recording log stamp.taskId types last)
    (fits : stamp.Fits) (started : 0 ≤ last) (inTime : stamp.InTime (last + 1))
    (terminal : eventType.isTerminal = true) (payload : PyPairs K) (error : Option EventError) :
    ∃ final longer,
      numberedEvent stamp (last + 1) eventType payload error = .ok final ∧
      log.append final = .ok longer ∧ Finished longer types final ∧
      Makes stamp (last + 1) eventType error final := by
  obtain ⟨final, made, makes⟩ := numberedEvent_ok fits (by omega) inTime eventType payload error
  obtain ⟨longer, appended, finished⟩ := recording.finish makes.owned
    (by rw [makes.numbered]; omega) (by rw [makes.typed]; exact terminal)
  exact ⟨final, longer, made, appended, finished, makes⟩

end TaskEventLog

end Robot

end ValeraControlTower

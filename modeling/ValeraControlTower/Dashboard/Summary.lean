import ValeraControlTower.Dashboard.Printing
import ValeraControlTower.Robot.EventDict
import ValeraControlTower.Robot.LogAgreement
import ValeraControlTower.Robot.PhysicalDemo

/-!
# The summary of `dashboard/render.py`

The final status is guessed from the last event alone: from its type, from the status in its
payload, and from whether it has an error.
-/

namespace ValeraControlTower

open Unicode Json Robot

namespace Dashboard

variable {K : Type}

structure DashboardSummary where
  taskId : PyStr
  correlationId : PyStr
  finalStatus : PyStr
  eventCount : ℕ

/-- `event.get(key, default)`. -/
def get (event : PyPairs K) (key : String) (default : PyJson K) : PyJson K :=
  (event.lookup (py key)).getD default

/-- `value == text`. -/
def isText (value : PyJson K) (text : String) : Bool :=
  match value with
  | .str chars => chars = py text
  | _ => false

/-- The status of the payload of an event; none if the payload is no dictionary. -/
def statusOf (event : PyPairs K) : PyJson K :=
  match get event "payload" (.obj []) with
  | .obj payload => get payload "status" .null
  | _ => .null

/-- `_final_status`. -/
def finalStatus (lastEvent : PyPairs K) : PyStr :=
  let eventType := get lastEvent "event_type" .null
  let payloadStatus := statusOf lastEvent
  if isText eventType "task.completed" || isText payloadStatus "completed" then py "completed"
  else if isText eventType "task.failed" || (lastEvent.lookup (py "error")).isSome then py "failed"
  else py "in progress / unknown"

/-- `summarize_events`. -/
def summarizeEvents (host : Host K) (events : List (PyPairs K)) :
    Except PyException DashboardSummary := do
  let firstEvent := events.head?.getD []
  let lastEvent := events.getLast?.getD []
  let taskId ← str host (get firstEvent "task_id" (.str (py "unknown")))
  let correlationId ← str host (get firstEvent "correlation_id" (.str (py "unknown")))
  return {
    taskId
    correlationId
    finalStatus := finalStatus lastEvent
    eventCount := events.length }

/-! ## Events of a log -/

/-- The events of a log, as the dashboard gets them. -/
def serialized (log : TaskEventLog K) : List (PyPairs K) := log.events.map EventEnvelope.toDict

/-- The event says in its payload that something is completed. -/
def SaysCompleted (event : EventEnvelope K) : Prop :=
  event.payload.lookup (py "status") = some (literal "completed")

theorem isText_str {chars : PyStr} {text : String} :
    isText (.str chars : PyJson K) text = true ↔ chars = py text := decide_eq_true_iff

theorem isText_eq_true {value : PyJson K} {text : String} :
    isText value text = true ↔ value = literal text := by
  cases value with
  | null | bool _ | num _ | arr _ | obj _ => exact iff_of_false nofun nofun
  | str chars =>
      rw [isText_str, literal]
      exact ⟨fun same => congrArg _ same, fun same => Tree.str.inj same⟩

theorem isText_eventType {event : EventEnvelope K} {text : String} :
    isText (get event.toDict "event_type" .null) text = true ↔ event.eventType.value = py text :=
  isText_str

theorem isText_status {event : EventEnvelope K} :
    isText (statusOf event.toDict) "completed" = true ↔ SaysCompleted event := by
  have isStatus : statusOf event.toDict = get event.payload "status" .null := rfl
  rw [isStatus, isText_eq_true, SaysCompleted, get]
  cases event.payload.lookup (py "status") with
  | none => exact iff_of_false nofun nofun
  | some status => simp

theorem value_eq_completed {eventType : EventType} :
    eventType.value = py "task.completed" ↔ eventType = .taskCompleted := by
  cases eventType <;> decide

theorem value_eq_failed {eventType : EventType} :
    eventType.value = py "task.failed" ↔ eventType = .taskFailed := by
  cases eventType <;> decide

/-- An event is taken for a completed task by its type or by its payload. -/
theorem finalStatus_eq_completed {event : EventEnvelope K} :
    finalStatus event.toDict = py "completed" ↔
      event.eventType = .taskCompleted ∨ SaysCompleted event := by
  rw [← value_eq_completed, ← isText_eventType, ← isText_status, finalStatus]
  by_cases completed : (isText (get event.toDict "event_type" .null) "task.completed" ||
      isText (statusOf event.toDict) "completed") = true
  · rw [if_pos completed]
    exact iff_of_true rfl (Bool.or_eq_true_iff.mp completed)
  · rw [if_neg completed]
    refine iff_of_false ?_ fun either => completed (Bool.or_eq_true_iff.mpr either)
    split <;> decide

theorem finalStatus_eq_failed {event : EventEnvelope K} (failed : event.eventType = .taskFailed)
    (silent : ¬SaysCompleted event) : finalStatus event.toDict = py "failed" := by
  have notCompleted : isText (get event.toDict "event_type" .null) "task.completed" = false := by
    rw [← Bool.not_eq_true, isText_eventType, value_eq_completed, failed]
    exact nofun
  have isFailed : isText (get event.toDict "event_type" .null) "task.failed" = true := by
    rw [isText_eventType, value_eq_failed]
    exact failed
  have notSaid : isText (statusOf event.toDict) "completed" = false := by
    rw [← Bool.not_eq_true, isText_status]
    exact silent
  unfold finalStatus
  simp only [notCompleted, notSaid, isFailed, Bool.or_self, Bool.true_or, if_true,
    Bool.false_eq_true, if_false]

/-- The summary of a log: the status is that of the last event. -/
theorem summarizeEvents_serialized (host : Host K) (log : TaskEventLog K) :
    ∃ summary, summarizeEvents host (serialized log) = .ok summary ∧
      summary.finalStatus =
        finalStatus ((log.events.getLast?.map EventEnvelope.toDict).getD []) := by
  unfold summarizeEvents serialized
  rw [List.getLast?_map, List.head?_map]
  cases log.events.head? with
  | none => exact ⟨_, rfl, rfl⟩
  | some event => exact ⟨_, rfl, rfl⟩

/-! ## The status and the log -/

/-- The status is the one the log reports. -/
def StatusAgrees (host : Host K) (log : TaskEventLog K) : Prop :=
  ∃ summary, summarizeEvents host (serialized log) = .ok summary ∧
    (summary.finalStatus = py "completed" ↔ log.terminalEventType = some .taskCompleted) ∧
    (log.terminalEventType = some .taskFailed → summary.finalStatus = py "failed")

/-- What a log reports is the type of its last event, if that is a terminal one. -/
theorem Terminal.reports {log : TaskEventLog K} (terminal : log.Terminal) {last : EventEnvelope K}
    (isLast : log.events.getLast? = some last) {eventType : EventType}
    (ends : eventType.isTerminal = true) :
    log.terminalEventType = some eventType ↔ last.eventType = eventType := by
  cases terminal with
  | inProgress isOpen reported =>
      rw [reported]
      apply iff_of_false nofun
      rintro rfl
      rw [isOpen last (List.mem_of_getLast? isLast)] at ends
      cases ends
  | @ended before final isLog isOpen terminal reported =>
      rw [isLog, List.getLast?_concat] at isLast
      cases isLast
      rw [reported, Option.some_inj]

/-- The status agrees with the log, unless the last event is not `task.completed` and says in
its payload that something is completed. -/
theorem statusAgrees_iff (host : Host K) (taskId : PyStr) (attempts : List (EventEnvelope K)) :
    StatusAgrees host (TaskEventLog.afterAttempts taskId attempts) ↔
      ¬∃ last, (TaskEventLog.afterAttempts taskId attempts).events.getLast? = some last ∧
        last.eventType ≠ .taskCompleted ∧ SaysCompleted last := by
  have terminal := (TaskEventLog.sound_afterAttempts taskId attempts).terminal
  generalize TaskEventLog.afterAttempts taskId attempts = log at terminal
  obtain ⟨summary, summarized, isStatus⟩ := summarizeEvents_serialized host log
  cases isLast : log.events.getLast? with
  | none =>
      have noTerminal : log.terminalEventType = none := by
        rw [TaskEventLog.terminalEventType_eq_none, List.getLast?_eq_none_iff.mp isLast]
        simp
      refine iff_of_true ⟨summary, summarized, ?_, ?_⟩ (by simp)
      · have notCompleted : finalStatus ([] : PyPairs K) ≠ py "completed" := by
          change py "in progress / unknown" ≠ _
          decide
        rw [isStatus, isLast, noTerminal]
        exact iff_of_false notCompleted (by simp)
      · rw [noTerminal]
        simp
  | some last =>
      rw [isLast] at isStatus
      have reports {eventType : EventType} := @Terminal.reports K log terminal last isLast eventType
      constructor
      · rintro ⟨other, again, completes, _⟩ ⟨_, ⟨⟩, notCompleted, told⟩
        cases again.symm.trans summarized
        have completed : summary.finalStatus = py "completed" :=
          isStatus.trans (finalStatus_eq_completed.mpr (.inr told))
        exact notCompleted ((reports rfl).mp (completes.mp completed))
      · intro honest
        have silent : last.eventType ≠ .taskCompleted → ¬SaysCompleted last :=
          fun notCompleted told => honest ⟨last, rfl, notCompleted, told⟩
        refine ⟨summary, summarized, ?_, ?_⟩
        · rw [isStatus, reports rfl]
          refine finalStatus_eq_completed.trans ⟨?_, .inl⟩
          rintro (completed | told)
          · exact completed
          · by_contra notCompleted
            exact silent notCompleted told
        · intro failed
          have isFailed := (reports rfl).mp failed
          rw [isStatus]
          apply finalStatus_eq_failed isFailed
          apply silent
          rw [isFailed]
          exact nofun

/-- What the physical demo reports for a delivery says that it is completed. -/
theorem saysCompleted_physicalPayload (task : Task) :
    (physicalPayload task .deliveryCompleted : PyPairs K).lookup (py "status") =
      some (literal "completed") := rfl

/-- A delivery of the physical demo, in front of the end of the task. -/
def deliveredTask : Task where
  taskId := py "physical-task-001"
  objectId := py "VALERA-CUBE-001"
  pickupZone := .pickupZone
  deliveryZone := .deliveryZone
  mode := .realVision
  description := []
  hasTaskId := by decide
  hasObjectId := cube_named
  enabled := realVision_enabled

/-- The event of that delivery. -/
def deliveryEvent : EventEnvelope ℚ where
  eventId := py "physical-task-001-physical-demo-012"
  taskId := deliveredTask.taskId
  correlationId := py "physical-task-001-physical-demo"
  sequence := 12
  eventType := .deliveryCompleted
  occurredAt := utcTime 2026 7 5 9
  source := py "valera.physical_demo"
  mode := .realVision
  payload := physicalPayload deliveredTask .deliveryCompleted
  hasStrings := by
    change ∀ field ∈ [("event_id", py "physical-task-001-physical-demo-012"),
      ("task_id", py "physical-task-001"),
      ("correlation_id", py "physical-task-001-physical-demo"),
      ("source", py "valera.physical_demo"), ("schema_version", Robot.schemaVersion)], field.2 ≠ []
    decide
  positive := by decide
  enabled := realVision_enabled
  aware := nofun

/-- Behind a delivery of the physical demo the task counts as completed, although its log is
still open. -/
theorem not_always_statusAgrees :
    ¬∀ (host : Host ℚ) (taskId : PyStr) (attempts : List (EventEnvelope ℚ)),
      StatusAgrees host (TaskEventLog.afterAttempts taskId attempts) := by
  intro always
  obtain ⟨summary, summarized, completes, _⟩ :=
    always (Host.ascii []) deliveredTask.taskId [deliveryEvent]
  have taken : TaskEventLog.afterAttempts deliveredTask.taskId [deliveryEvent] =
      ⟨deliveredTask.taskId, [deliveryEvent]⟩ := by
    have follows : (⟨deliveredTask.taskId, []⟩ : TaskEventLog ℚ).Follows deliveryEvent :=
      ⟨rfl, by simp, by decide⟩
    exact congrArg Prod.snd (TaskEventLog.appendInPlace_of_follows follows)
  rw [taken] at summarized completes
  obtain ⟨other, again, isStatus⟩ :=
    summarizeEvents_serialized (Host.ascii []) ⟨deliveredTask.taskId, [deliveryEvent]⟩
  cases again.symm.trans summarized
  have completed : finalStatus deliveryEvent.toDict = py "completed" :=
    finalStatus_eq_completed.mpr (.inr (saysCompleted_physicalPayload deliveredTask))
  have reported := completes.mp (isStatus.trans completed)
  cases reported

end Dashboard

end ValeraControlTower

import ValeraControlTower.Robot.Evidence

/-!
# `robot/events.py`
-/

namespace ValeraControlTower

open Unicode

namespace Robot

/-- `SCHEMA_VERSION`. -/
def schemaVersion : PyStr := py "1.0"

inductive EventType where
  | taskCreated | taskAccepted | planCreated | routeStarted | routeArrived
  | objectSearchStarted | cameraProbeCompleted | cameraFrameCaptured | visionObjectDetected
  | objectFound | objectNotFound | hardwareProbeCompleted | graspStarted | objectGrasped
  | graspFailed | deliveryStarted | objectReleased | deliveryCompleted | taskCompleted
  | taskFailed
  deriving DecidableEq

def EventType.value : EventType → PyStr
  | taskCreated => py "task.created"
  | taskAccepted => py "task.accepted"
  | planCreated => py "plan.created"
  | routeStarted => py "route.started"
  | routeArrived => py "route.arrived"
  | objectSearchStarted => py "object.search_started"
  | cameraProbeCompleted => py "camera.probe.completed"
  | cameraFrameCaptured => py "camera.frame.captured"
  | visionObjectDetected => py "vision.object.detected"
  | objectFound => py "object.found"
  | objectNotFound => py "object.not_found"
  | hardwareProbeCompleted => py "hardware.probe.completed"
  | graspStarted => py "grasp.started"
  | objectGrasped => py "object.grasped"
  | graspFailed => py "grasp.failed"
  | deliveryStarted => py "delivery.started"
  | objectReleased => py "object.released"
  | deliveryCompleted => py "delivery.completed"
  | taskCompleted => py "task.completed"
  | taskFailed => py "task.failed"

/-- An error that `__post_init__` has passed. -/
structure EventError where
  code : FailureCode
  message : PyStr
  hasMessage : message ≠ []

/-- `EventError(code, message)`. -/
def EventError.new (code : FailureCode) (message : PyStr) : Except Exception EventError :=
  if noMessage : message = [] then .error (.invalid (py "error.message is required"))
  else .ok ⟨code, message, noMessage⟩

theorem EventError.new_ok {code : FailureCode} {message : PyStr} (hasMessage : message ≠ []) :
    EventError.new code message = .ok ⟨code, message, hasMessage⟩ :=
  dif_neg hasMessage

/-- The arguments of `EventEnvelope`. -/
structure EventFields (K : Type) where
  eventId : PyStr
  taskId : PyStr
  correlationId : PyStr
  sequence : ℤ
  eventType : EventType
  occurredAt : DateTime
  source : PyStr
  mode : ExecutionMode
  payload : PyPairs K
  schemaVersion : PyStr := Robot.schemaVersion
  evidenceRefs : List EvidenceRef := []
  error : Option EventError := none

variable {K : Type}

/-- The strings `EventEnvelope.__post_init__` requires. -/
def EventFields.requiredStrings (fields : EventFields K) : List (String × PyStr) :=
  [("event_id", fields.eventId), ("task_id", fields.taskId),
    ("correlation_id", fields.correlationId), ("source", fields.source),
    ("schema_version", fields.schemaVersion)]

/-- An event that `__post_init__` has passed. -/
structure EventEnvelope (K : Type) extends EventFields K where
  hasStrings : ∀ field ∈ toEventFields.requiredStrings, field.2 ≠ []
  positive : 1 ≤ sequence
  enabled : mode ≠ .hardware
  aware : occurredAt.tzinfo ≠ none

/-- `EventEnvelope(...)`, with its `__post_init__`. -/
def EventEnvelope.new (fields : EventFields K) : Except Exception (EventEnvelope K) :=
  match checked : requireStrings fields.requiredStrings with
  | .error exception => .error exception
  | .ok () =>
      if notPositive : fields.sequence < 1 then
        .error (.invalid (py "sequence must be a positive integer"))
      else if hardware : fields.mode = .hardware then
        .error (.validationError (py "hardware mode is not enabled for the MVP")
          .hardwareModeNotEnabled)
      else .ok {
        toEventFields := { fields with occurredAt := fields.occurredAt.orUtc }
        hasStrings := requireStrings_eq_ok.mp checked
        positive := not_lt.mp notPositive
        enabled := hardware
        aware := nofun }

/-- An event with the strings it requires is made. -/
theorem EventEnvelope.new_ok {fields : EventFields K}
    (hasStrings : ∀ field ∈ fields.requiredStrings, field.2 ≠ []) (positive : 1 ≤ fields.sequence)
    (enabled : fields.mode ≠ .hardware) :
    ∃ event, EventEnvelope.new fields = .ok event ∧
      event.toEventFields = { fields with occurredAt := fields.occurredAt.orUtc } := by
  unfold EventEnvelope.new
  split
  · next failed =>
      rw [requireStrings_eq_ok.mpr hasStrings] at failed
      cases failed
  · rw [dif_neg (not_lt.mpr positive), dif_neg enabled]
    exact ⟨_, rfl, rfl⟩

/-- The event that is made has its arguments. -/
theorem EventEnvelope.fields_of_new {fields : EventFields K} {event : EventEnvelope K}
    (made : EventEnvelope.new fields = .ok event) :
    event.toEventFields = { fields with occurredAt := fields.occurredAt.orUtc } := by
  unfold EventEnvelope.new at made
  split at made
  · cases made
  · split at made
    · cases made
    · split at made
      · cases made
      · cases made
        rfl

end Robot

end ValeraControlTower

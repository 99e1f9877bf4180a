import ValeraControlTower.Robot.MissionLog
import ValeraControlTower.Robot.Payloads

/-!
# `robot/physical_demo.py`

A camera looks for the object, and an operator confirms each step of the manipulation.
-/

namespace ValeraControlTower

namespace Robot

variable {K : Type}

/-! ## Confirmations -/

/-- A call of `confirm`. -/
structure Question where
  stepName : PyStr
  prompt : PyStr

/-- A provider answers a question by all questions of the run up to it. -/
abbrev ConfirmationProvider := List Question → Bool

/-- `_OperatorConfirmation`. -/
structure OperatorConfirmation where
  question : Question
  eventType : EventType

/-- `_operator_confirmations`. -/
def operatorConfirmations : List OperatorConfirmation :=
  [⟨⟨py "confirm_grasp_started", py "Confirm the operator has started the physical grasp step."⟩,
      .graspStarted⟩,
    ⟨⟨py "confirm_object_grasped", py "Confirm the object is physically grasped or secured."⟩,
      .objectGrasped⟩,
    ⟨⟨py "confirm_delivery_started", py "Confirm the operator has started the delivery step."⟩,
      .deliveryStarted⟩,
    ⟨⟨py "confirm_object_released", py "Confirm the object has been physically released."⟩,
      .objectReleased⟩,
    ⟨⟨py "confirm_delivery_completed", py "Confirm the physical delivery step is complete."⟩,
      .deliveryCompleted⟩]

/-! ## Arguments -/

/-- The arguments of `live_probe_runner`. -/
structure ProbeRequest where
  taskId : PyStr
  objectId : PyStr
  cameraIndex : ℤ
  enabled : Bool
  outputRoot : PyStr
  sequence : ℤ
  correlationId : PyStr
  occurredAt : DateTime

/-- The arguments of `run_physical_demo`, and the time it may look up. -/
structure PhysicalDemo (K : Type) where
  taskId : PyStr
  objectId : PyStr
  cameraIndex : ℤ
  enableLiveCamera : Bool
  outputRoot : PyStr
  confirmationProvider : ConfirmationProvider
  correlationId : Option PyStr
  runStartedAt : Option DateTime
  liveProbeRunner : ProbeRequest → Except Exception (EventEnvelope K)
  now : DateTime

namespace PhysicalDemo

/-- `correlation_id or f"{task.task_id}-physical-demo"`. -/
def correlation (demo : PhysicalDemo K) : PyStr :=
  let default := demo.taskId ++ py "-physical-demo"
  match demo.correlationId with
  | none => default
  | some correlationId => if correlationId = [] then default else correlationId

/-- What the events of a demo have in common. -/
def stamp (demo : PhysicalDemo K) : MissionStamp where
  timestampBase := (demo.runStartedAt.getD demo.now).orUtc
  source := py "valera.physical_demo"
  mode := .realVision
  taskId := demo.taskId
  correlationId := demo.correlation

/-- The call of `live_probe_runner`. -/
def request (demo : PhysicalDemo K) (sequence : ℤ) (occurredAt : DateTime) : ProbeRequest where
  taskId := demo.taskId
  objectId := demo.objectId
  cameraIndex := demo.cameraIndex
  enabled := true
  outputRoot := demo.outputRoot
  sequence
  correlationId := demo.correlation
  occurredAt

end PhysicalDemo

/-! ## Events -/

/-- `_payload_for_event`. -/
def physicalPayload (task : Task) (eventType : EventType) : PyPairs K :=
  let base := basePayload task
  let positioning := literal "operator_confirmed / simulated positioning"
  match eventType with
  | .taskCreated => union base
      [(py "status", literal "created"), (py "description", .str task.description)]
  | .taskAccepted => union base [(py "status", literal "accepted")]
  | .planCreated => union base
      [(py "status", literal "planned"),
        (py "planned_route", .arr [.str Zone.base.value, .str task.pickupZone.value,
          .str task.deliveryZone.value]),
        (py "note", literal "physical demo uses operator-confirmed positioning")]
  | .routeStarted => union base
      [(py "from_zone", .str Zone.base.value), (py "to_zone", .str task.pickupZone.value),
        (py "status", literal "started"), (py "note", positioning)]
  | .routeArrived => union base
      [(py "from_zone", .str Zone.base.value), (py "to_zone", .str task.pickupZone.value),
        (py "status", literal "arrived"), (py "note", positioning)]
  | .objectSearchStarted => union base [(py "status", literal "searching")]
  | .graspStarted => union base
      [(py "status", literal "started"), (py "confirmation", literal "operator")]
  | .objectGrasped => union base
      [(py "status", literal "grasped"), (py "confirmation", literal "operator")]
  | .deliveryStarted => union base
      [(py "status", literal "started"), (py "confirmation", literal "operator")]
  | .objectReleased => union base
      [(py "status", literal "released"), (py "confirmation", literal "operator")]
  | .deliveryCompleted => union base
      [(py "status", literal "completed"), (py "confirmation", literal "operator")]
  | .taskCompleted => [(py "object_id", .str task.objectId), (py "status", literal "completed")]
  | eventType => union base [(py "status", .str eventType.value)]

/-- `event_log.append(_event(...))`. -/
def appendPhysical (stamp : MissionStamp) (task : Task) (eventLog : TaskEventLog K)
    (eventType : EventType) : Except Exception (TaskEventLog K) := do
  let event ← numberedEvent stamp (eventLog.lastSequence + 1) eventType
    (physicalPayload task eventType)
  eventLog.append event

/-- The payload of `_failed_event`. -/
def failedPayload (task : Task) (reason : PyStr) : PyPairs K :=
  [(py "object_id", .str task.objectId), (py "status", literal "failed"),
    (py "reason", .str reason)]

/-- `event_log.append(_failed_event(...))`, and the validation behind it. -/
def failPhysical (stamp : MissionStamp) (task : Task) (eventLog : TaskEventLog K) (reason : PyStr)
    (code : FailureCode) : Except Exception (TaskEventLog K) := do
  let error ← EventError.new code reason
  let event ← numberedEvent stamp (eventLog.lastSequence + 1) .taskFailed
    (failedPayload task reason) (some error)
  let eventLog ← eventLog.append event
  eventLog.validate
  return eventLog

/-! ## The demo -/

/-- The first loop of `run_physical_demo`. -/
def appendSearch (stamp : MissionStamp) (task : Task) (eventLog : TaskEventLog K) :
    List EventType → Except Exception (TaskEventLog K)
  | [] => .ok eventLog
  | eventType :: eventTypes => do
      let eventLog ← appendPhysical stamp task eventLog eventType
      appendSearch stamp task eventLog eventTypes

/-- The types of the first loop. -/
def physicalSearchTypes : List EventType :=
  [.taskCreated, .taskAccepted, .planCreated, .routeStarted, .routeArrived, .objectSearchStarted]

/-- The second loop of `run_physical_demo`, and the completion behind it; it returns the
questions that were asked, too. -/
def confirmSteps (stamp : MissionStamp) (task : Task) (provider : ConfirmationProvider)
    (eventLog : TaskEventLog K) (asked : List Question) :
    List OperatorConfirmation → Except Exception (TaskEventLog K × List Question)
  | [] => do
      let eventLog ← appendPhysical stamp task eventLog .taskCompleted
      eventLog.validate
      return (eventLog, asked)
  | confirmation :: confirmations =>
      let asked := asked ++ [confirmation.question]
      if provider asked then do
        let eventLog ← appendPhysical stamp task eventLog confirmation.eventType
        confirmSteps stamp task provider eventLog asked confirmations
      else do
        let eventLog ← failPhysical stamp task eventLog
          (py "operator cancelled during " ++ confirmation.question.stepName) .manualCancelled
        return (eventLog, asked)

/-- What follows the event of the probe. -/
def followProbe (demo : PhysicalDemo K) (task : Task) (eventLog : TaskEventLog K)
    (detected : EventType) : Except Exception (TaskEventLog K × List Question) :=
  if detected = .objectNotFound then do
    let eventLog ← failPhysical demo.stamp task eventLog
      (py "live camera did not find the target object") .objectNotFound
    return (eventLog, [])
  else if detected ≠ .objectFound then do
    let eventLog ← failPhysical demo.stamp task eventLog
      (py "live camera returned unexpected event type: " ++ detected.value) .invalidTask
    return (eventLog, [])
  else
    confirmSteps demo.stamp task demo.confirmationProvider eventLog [] operatorConfirmations

/-- `run_physical_demo`, and the questions that were asked. -/
def runPhysicalDemo (demo : PhysicalDemo K) :
    Except Exception (TaskEventLog K × List Question) := do
  if demo.enableLiveCamera = false then
    throw (.liveCameraDisabledError (py ("physical demo live camera access requires " ++
      "--enable-live-camera before camera access")))
  let task ← Task.new demo.taskId demo.objectId .pickupZone .deliveryZone .realVision
    (py ("Physical demo with live vision and operator-confirmed manipulation; " ++
      "no robot movement or arm control"))
  let eventLog ← appendSearch demo.stamp task ⟨task.taskId, []⟩ physicalSearchTypes
  let sequence := eventLog.lastSequence + 1
  let occurredAt ← demo.stamp.timestampBase.addSeconds (sequence - 1)
  let detectionEvent ← demo.liveProbeRunner (demo.request sequence occurredAt)
  let eventLog ← eventLog.append detectionEvent
  followProbe demo task eventLog detectionEvent.eventType

end Robot

end ValeraControlTower

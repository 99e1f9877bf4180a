import ValeraControlTower.Robot.Adapters
import ValeraControlTower.Robot.MissionLog
import ValeraControlTower.Robot.Payloads

/-!
# `robot/adapter_sim_mission.py`

The mission stops where the camera has no frame or the vision no detection.  What the arm
makes of the grasp is written down and not looked at.
-/

namespace ValeraControlTower

namespace Robot

variable {K : Type}

/-! ## Payloads -/

/-- `_camera_probe_payload`. -/
def cameraProbePayload (task : Task) (probe : CameraProbeResult) : PyPairs K :=
  let role := match probe.capabilities.roles with
    | [] => py ""
    | role :: _ => role.value
  union (basePayload task)
    [(py "status", literal (if probe.ok then "camera_ready" else "camera_unavailable")),
      (py "adapter_id", .str probe.identity.adapterId),
      (py "adapter_mode", .str probe.identity.mode.value),
      (py "adapter_type", .str probe.identity.adapterType.value),
      (py "camera_role", .str role),
      (py "device_label", .str probe.deviceLabel),
      (py "supports_frame_capture", .bool probe.capabilities.supportsFrameCapture),
      (py "supports_depth", .bool probe.capabilities.supportsDepth)]

/-- `_frame_payload`. -/
def framePayload (task : Task) (frame : FrameCaptureResult) : PyPairs K :=
  let payload := union (basePayload task)
    [(py "status", literal (if frame.ok then "captured" else "capture_failed")),
      (py "adapter_id", .str frame.identity.adapterId),
      (py "adapter_mode", .str frame.identity.mode.value),
      (py "adapter_type", .str frame.identity.adapterType.value),
      (py "camera_role", .str frame.cameraRole.value)]
  match frame.artifact with
  | none => payload
  | some artifact => union payload
      [(py "artifact_uri", .str artifact.artifactUri),
        (py "frame_hash", .str artifact.frameHash),
        (py "media_type", .str artifact.mediaType),
        (py "width", .num (.int artifact.width)),
        (py "height", .num (.int artifact.height))]

def notFoundPayload (task : Task) (result : VisionResult K) : PyPairs K :=
  union (basePayload task)
    [(py "status", literal "not_found"),
      (py "source_artifact_uri", .str result.sourceArtifactUri),
      (py "adapter_id", .str result.identity.adapterId),
      (py "adapter_mode", .str result.identity.mode.value)]

/-- `_bounding_box_to_dict`. -/
def boundingBoxToDict (boundingBox : BoundingBox) : PyJson K :=
  .obj [(py "x", .num (.int boundingBox.x)), (py "y", .num (.int boundingBox.y)),
    (py "width", .num (.int boundingBox.width)), (py "height", .num (.int boundingBox.height))]

/-- `_detection_to_dict`. -/
def detectionToDict (detection : VisionDetection K) : PyJson K :=
  .obj ([(py "object_id", .str detection.objectId),
    (py "label", .str detection.label),
    (py "confidence", .num (.float detection.confidence)),
    (py "metadata", .obj detection.metadata)] ++
    match detection.boundingBox with
    | none => []
    | some boundingBox => [(py "bounding_box", boundingBoxToDict boundingBox)])

/-- `_vision_payload`. -/
def visionPayload (task : Task) (result : VisionResult K) : PyPairs K :=
  union (basePayload task)
    [(py "status", literal "detected"),
      (py "adapter_id", .str result.identity.adapterId),
      (py "adapter_mode", .str result.identity.mode.value),
      (py "adapter_type", .str result.identity.adapterType.value),
      (py "source_artifact_uri", .str result.sourceArtifactUri),
      (py "detections", .arr (result.detections.map detectionToDict))]

def foundPayload (task : Task) (result : VisionResult K) (detection : VisionDetection K) :
    PyPairs K :=
  union (basePayload task)
    [(py "status", literal "found"),
      (py "current_target_zone", .str task.pickupZone.value),
      (py "object_id", .str detection.objectId),
      (py "label", .str detection.label),
      (py "confidence", .num (.float detection.confidence)),
      (py "source_artifact_uri", .str result.sourceArtifactUri)]

/-- `_arm_probe_payload`. -/
def armProbePayload (task : Task) (probe : ArmProbeResult) : PyPairs K :=
  union (basePayload task)
    [(py "status", literal (if probe.ok then "arm_ready" else "arm_unavailable")),
      (py "adapter_id", .str probe.identity.adapterId),
      (py "adapter_mode", .str probe.identity.mode.value),
      (py "adapter_type", .str probe.identity.adapterType.value),
      (py "can_read_state", .bool probe.capabilities.canReadState),
      (py "can_enable_torque", .bool probe.capabilities.canEnableTorque),
      (py "can_move", .bool probe.capabilities.canMove),
      (py "joint_count", .num (.int probe.capabilities.jointCount)),
      (py "runtime", .str probe.runtime)]

/-- `_grasp_payload`. -/
def graspPayload (task : Task) (result : ArmCommandResult) : PyPairs K :=
  union (basePayload task)
    [(py "status", literal (if result.ok && result.executed then "secured" else "grasp_failed")),
      (py "adapter_id", .str result.identity.adapterId),
      (py "adapter_mode", .str result.identity.mode.value),
      (py "adapter_type", .str result.identity.adapterType.value),
      (py "command_name", .str result.commandName),
      (py "executed", .bool result.executed),
      (py "torque_enabled", match result.state with
        | none => .null
        | some state => .bool state.torqueEnabled),
      (py "current_target_zone", .str task.pickupZone.value)]

/-! ## The mission -/

/-- `ADAPTER_SIM_TIMESTAMP_BASE`. -/
def adapterSimTimestampBase : DateTime := utcTime 2026 7 2 13

/-- `ADAPTER_SIM_SOURCE`. -/
def adapterSimSource : PyStr := py "valera.adapter_sim_mission"

/-- `_EventBuilder`. -/
structure EventBuilder (K : Type) where
  task : Task
  correlationId : PyStr
  eventLog : TaskEventLog K

namespace EventBuilder

def new (task : Task) : EventBuilder K where
  task
  correlationId := task.taskId ++ py "-adapter-simulation"
  eventLog := ⟨task.taskId, []⟩

/-- What the events of the builder have in common. -/
def stamp (builder : EventBuilder K) : MissionStamp where
  timestampBase := adapterSimTimestampBase
  source := adapterSimSource
  mode := .simulation
  taskId := builder.task.taskId
  correlationId := builder.correlationId

/-- `append`. -/
def append (builder : EventBuilder K) (eventType : EventType) (payload : PyPairs K)
    (error : Option EventError := none) : Except Exception (EventBuilder K) := do
  let event ← numberedEvent builder.stamp
    (builder.eventLog.lastSequence + 1) eventType payload error
  let eventLog ← builder.eventLog.append event
  return { builder with eventLog }

/-- Events appended one after the other. -/
def appendEach (builder : EventBuilder K) :
    List (EventType × PyPairs K) → Except Exception (EventBuilder K)
  | [] => .ok builder
  | (eventType, payload) :: events => do
      let builder ← builder.append eventType payload
      builder.appendEach events

/-- `fail`. -/
def fail (builder : EventBuilder K) (code : FailureCode) (message : String) :
    Except Exception (EventBuilder K) := do
  let builder ← builder.append .taskFailed (statusPayload builder.task "failed" none)
    (some (← EventError.new code (py message)))
  builder.eventLog.validate
  return builder

end EventBuilder

/-- The events up to the frame, with their payloads. -/
def searchEvents (task : Task) (camera : CameraAdapter) : List (EventType × PyPairs K) :=
  [(.taskCreated, statusPayload task "created" none),
    (.planCreated, planPayload task),
    (.taskAccepted, statusPayload task "accepted" none),
    (.routeStarted, statusPayload task "in_transit" (some task.pickupZone)),
    (.routeArrived, statusPayload task "arrived" (some task.pickupZone)),
    (.objectSearchStarted, statusPayload task "searching" (some task.pickupZone)),
    (.cameraProbeCompleted, cameraProbePayload task camera.probe),
    (.cameraFrameCaptured, framePayload task camera.captureFrame)]

/-- The events from the detection to the delivery; the grasp is recorded as it came. -/
def deliveryEvents (task : Task) (result : VisionResult K) (detection : VisionDetection K)
    (arm : ArmAdapter) : List (EventType × PyPairs K) :=
  [(.visionObjectDetected, visionPayload task result),
    (.objectFound, foundPayload task result detection),
    (.hardwareProbeCompleted, armProbePayload task arm.probe),
    (.graspStarted, statusPayload task "grasping" (some task.pickupZone)),
    (.objectGrasped, graspPayload task (arm.simulateGrasp false)),
    (.deliveryStarted, statusPayload task "delivering" (some task.deliveryZone)),
    (.routeArrived, statusPayload task "arrived" (some task.deliveryZone)),
    (.objectReleased, statusPayload task "released" (some task.deliveryZone)),
    (.deliveryCompleted, statusPayload task "delivered" (some task.deliveryZone))]

/-- `run_adapter_simulated_mission`. -/
def runAdapterSimulatedMission (task : Task) (camera : CameraAdapter) (vision : VisionAdapter K)
    (arm : ArmAdapter) : Except Exception (TaskEventLog K) := do
  if task.mode ≠ .simulation then
    throw (.invalid (py "adapter simulator only accepts simulation tasks"))
  let builder ← (EventBuilder.new task).appendEach (searchEvents task camera)
  match camera.captureFrame.artifact with
  | none => do
      let builder ← builder.fail .objectNotFound "simulated camera did not return a frame"
      return builder.eventLog
  | some artifact =>
      let result := vision.detect artifact.artifactUri
      match result.detections with
      | [] => do
          let builder ← builder.append .objectNotFound (notFoundPayload task result)
          let builder ← builder.fail .objectNotFound "vision adapter returned no detections"
          return builder.eventLog
      | detection :: _ => do
          let builder ← builder.appendEach (deliveryEvents task result detection arm)
          let builder ← builder.append .taskCompleted
            (statusPayload task "completed" (some task.deliveryZone))
          builder.eventLog.validate
          return builder.eventLog

/-! ## What the builder records -/

namespace EventBuilder

open TaskEventLog

/-- A builder in the middle of a mission, and the types of its events. -/
structure Builds (builder : EventBuilder K) (task : Task) (types : List EventType) : Prop where
  isTask : builder.task = task
  named : builder.correlationId ≠ []
  recording : Recording builder.eventLog task.taskId types types.length

theorem builds_new (task : Task) : Builds (new task : EventBuilder K) task [] where
  isTask := rfl
  named := by simp [new, task.hasTaskId]
  recording := .new task.taskId

variable {builder : EventBuilder K} {task : Task} {types : List EventType} {eventType : EventType}
  {payload : PyPairs K} {error : Option EventError}

theorem Builds.fits (builds : Builds builder task types) : builder.stamp.Fits where
  hasSource := by
    change adapterSimSource ≠ []
    decide
  enabled := nofun
  hasTaskId := builder.task.hasTaskId
  hasCorrelationId := builds.named

theorem inTime_stamp {sequence : ℤ} (early : sequence ≤ 86400) : builder.stamp.InTime sequence := by
  have start : adapterSimTimestampBase.clock + 86400 * 1000000 ≤ datetimeMax := by decide
  change adapterSimTimestampBase.clock + _ ≤ _
  omega

/-- A step of a mission. -/
theorem Builds.append (builds : Builds builder task types) (short : types.length < 86400)
    (goesOn : eventType.isTerminal = false) (payload : PyPairs K) :
    ∃ longer, builder.append eventType payload = .ok longer ∧
      Builds longer task (types ++ [eventType]) := by
  have fits := builds.fits
  obtain ⟨rfl, named, recording⟩ := builds
  obtain ⟨event, eventLog, made, appended, longerRecording, _⟩ :=
    @Recording.next K builder.stamp _ _ _ _ recording fits (by omega) (inTime_stamp (by omega))
      goesOn payload none
  have counted : ((types ++ [eventType]).length : ℤ) = types.length + 1 := by simp
  refine ⟨{ builder with eventLog }, ?_, rfl, named, by rw [counted]; exact longerRecording⟩
  unfold EventBuilder.append
  rw [recording.lastSequence, made]
  change (builder.eventLog.append event >>= fun _ => _) = _
  rw [appended]
  rfl

/-- Steps of a mission. -/
theorem Builds.appendEach (events : List (EventType × PyPairs K))
    (builds : Builds builder task types) (short : types.length + events.length ≤ 86400)
    (goOn : ∀ event ∈ events, event.1.isTerminal = false) :
    ∃ longer, builder.appendEach events = .ok longer ∧
      Builds longer task (types ++ events.map Prod.fst) := by
  induction events generalizing builder types with
  | nil => exact ⟨builder, rfl, by simpa using builds⟩
  | cons event events inductionHypothesis =>
      rw [List.length_cons] at short
      obtain ⟨next, appended, builds⟩ :=
        builds.append (by omega) (goOn event List.mem_cons_self) event.2
      obtain ⟨longer, rest, builds⟩ := inductionHypothesis builds
        (by rw [List.length_append, List.length_singleton]; omega)
        fun other membership => goOn other (List.mem_cons_of_mem event membership)
      refine ⟨longer, ?_, by simpa using builds⟩
      rw [EventBuilder.appendEach, appended]
      exact rest

/-- The last step of a mission. -/
theorem Builds.finish (builds : Builds builder task types) (short : types.length < 86400)
    (terminal : eventType.isTerminal = true) (payload : PyPairs K) (error : Option EventError) :
    ∃ final longer, final.eventType = eventType ∧ final.error = error ∧
      builder.append eventType payload error = .ok longer ∧
      Finished longer.eventLog types final := by
  have fits := builds.fits
  obtain ⟨rfl, _, recording⟩ := builds
  obtain ⟨final, eventLog, made, appended, finished, makes⟩ :=
    @Recording.finishNext K builder.stamp _ _ _ _ recording fits (by omega)
      (inTime_stamp (by omega)) terminal payload error
  refine ⟨final, { builder with eventLog }, makes.typed, makes.carries, ?_, finished⟩
  unfold EventBuilder.append
  rw [recording.lastSequence, made]
  change (builder.eventLog.append final >>= fun _ => _) = _
  rw [appended]
  rfl

/-- A mission that fails. -/
theorem Builds.fail (builds : Builds builder task types) (short : types.length < 86400)
    (code : FailureCode) {message : String} (worded : py message ≠ []) :
    ∃ final longer, final.eventType = .taskFailed ∧ final.error ≠ none ∧
      builder.fail code message = .ok longer ∧ Finished longer.eventLog types final := by
  obtain ⟨final, longer, typed, carries, appended, finished⟩ := builds.finish short
    (rfl : EventType.taskFailed.isTerminal = true) (statusPayload builder.task "failed" none)
    (some ⟨code, py message, worded⟩)
  refine ⟨final, longer, typed, by rw [carries]; exact Option.some_ne_none _, ?_, finished⟩
  unfold EventBuilder.fail
  rw [EventError.new_ok worded]
  change (builder.append .taskFailed (statusPayload builder.task "failed" none)
    (some ⟨code, py message, worded⟩) >>= fun builder => _) = _
  rw [appended]
  change (longer.eventLog.validate >>= fun _ => _) = _
  rw [finished.validates]
  rfl

end EventBuilder

end Robot

end ValeraControlTower

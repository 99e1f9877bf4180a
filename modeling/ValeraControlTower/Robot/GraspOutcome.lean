import ValeraControlTower.Robot.AdapterSimMission

/-!
# How a mission with adapters ends

A mission fails without a frame or a detection, and completes otherwise, whatever the arm
returned.
-/

namespace ValeraControlTower

namespace Robot

variable {K : Type} {task : Task} {camera : CameraAdapter} {vision : VisionAdapter K}
  {arm : ArmAdapter}

/-- The types up to the frame. -/
def searchTypes : List EventType :=
  [.taskCreated, .planCreated, .taskAccepted, .routeStarted, .routeArrived, .objectSearchStarted,
    .cameraProbeCompleted, .cameraFrameCaptured]

/-- The types from the detection to the delivery. -/
def deliveryTypes : List EventType :=
  [.visionObjectDetected, .objectFound, .hardwareProbeCompleted, .graspStarted, .objectGrasped,
    .deliveryStarted, .routeArrived, .objectReleased, .deliveryCompleted]

/-- The frame the camera captured. -/
def Captured (camera : CameraAdapter) (artifact : FrameArtifact) : Prop :=
  camera.captureFrame.artifact = some artifact

/-- The vision adapter has a detection in a frame. -/
def Detected (vision : VisionAdapter K) (artifact : FrameArtifact) : Prop :=
  (vision.detect artifact.artifactUri).detections ≠ []

/-- What `simulate_grasp` returned. -/
def Executed (arm : ArmAdapter) : Prop :=
  (arm.simulateGrasp false).ok = true ∧ (arm.simulateGrasp false).executed = true

/-- How a mission ends. -/
inductive Ends (camera : CameraAdapter) (vision : VisionAdapter K)
    (log : TaskEventLog K) : Prop where
  | noFrame {final : EventEnvelope K} (absent : camera.captureFrame.artifact = none)
      (finished : log.Finished searchTypes final) (failed : final.eventType = .taskFailed)
      (explained : final.error ≠ none)
  | noDetection {artifact : FrameArtifact} {final : EventEnvelope K}
      (captured : Captured camera artifact) (undetected : ¬Detected vision artifact)
      (finished : log.Finished (searchTypes ++ [.objectNotFound]) final)
      (failed : final.eventType = .taskFailed) (explained : final.error ≠ none)
  | delivered {artifact : FrameArtifact} {final : EventEnvelope K}
      (captured : Captured camera artifact) (detected : Detected vision artifact)
      (finished : log.Finished (searchTypes ++ deliveryTypes) final)
      (completed : final.eventType = .taskCompleted)

theorem runAdapterSimulatedMission_ok (simulation : task.mode = .simulation)
    (camera : CameraAdapter) (vision : VisionAdapter K) (arm : ArmAdapter) :
    ∃ log, runAdapterSimulatedMission task camera vision arm = .ok log ∧
      Ends camera vision log := by
  obtain ⟨searched, search, builds⟩ :=
    (EventBuilder.builds_new task).appendEach (searchEvents (K := K) task camera)
      (by simp [searchEvents]) (by simp [searchEvents, EventType.isTerminal])
  change EventBuilder.Builds searched task searchTypes at builds
  unfold runAdapterSimulatedMission
  rw [if_neg (not_not.mpr simulation), search]
  cases absent : camera.captureFrame.artifact with
  | none =>
      obtain ⟨final, failedLog, failed, explained, fails, finished⟩ := builds.fail (by decide)
        .objectNotFound (by decide : py "simulated camera did not return a frame" ≠ [])
      refine ⟨failedLog.eventLog, ?_, .noFrame absent finished failed explained⟩
      change (searched.fail _ _ >>= fun builder => .ok builder.eventLog) = _
      rw [fails]
      rfl
  | some artifact =>
      cases undetected : (vision.detect artifact.artifactUri).detections with
      | nil =>
          obtain ⟨noted, note, builds⟩ := builds.append (by decide)
            (rfl : EventType.objectNotFound.isTerminal = false)
              (notFoundPayload task (vision.detect artifact.artifactUri))
          obtain ⟨final, failedLog, failed, explained, fails, finished⟩ := builds.fail (by decide)
            .objectNotFound (by decide : py "vision adapter returned no detections" ≠ [])
          refine ⟨failedLog.eventLog, ?_,
            .noDetection absent (not_not.mpr undetected) finished failed explained⟩
          dsimp only [bind, Except.bind]
          rw [undetected]
          change (searched.append .objectNotFound _ >>= fun builder =>
            builder.fail _ _ >>= fun builder => .ok builder.eventLog) = _
          rw [note]
          change (noted.fail _ _ >>= fun builder => .ok builder.eventLog) = _
          rw [fails]
          rfl
      | cons detection others =>
          obtain ⟨carried, carry, builds⟩ := builds.appendEach
            (deliveryEvents task (vision.detect artifact.artifactUri) detection arm)
            (by simp [deliveryEvents, searchTypes]) (by simp [deliveryEvents, EventType.isTerminal])
          change EventBuilder.Builds carried task (searchTypes ++ deliveryTypes) at builds
          obtain ⟨final, completedLog, completed, _, completes, finished⟩ :=
            builds.finish (by decide) (rfl : EventType.taskCompleted.isTerminal = true)
              (statusPayload task "completed" (some task.deliveryZone)) none
          have detected : Detected vision artifact := by
            rw [Detected, undetected]
            exact List.cons_ne_nil _ _
          refine ⟨completedLog.eventLog, ?_, .delivered absent detected finished completed⟩
          dsimp only [bind, Except.bind]
          rw [undetected]
          change (searched.appendEach _ >>= fun builder => builder.append .taskCompleted _ >>=
            fun builder => builder.eventLog.validate >>= fun _ => .ok builder.eventLog) = _
          rw [carry]
          change (carried.append .taskCompleted _ >>=
            fun builder => builder.eventLog.validate >>= fun _ => .ok builder.eventLog) = _
          rw [completes]
          change (completedLog.eventLog.validate >>= fun _ => .ok completedLog.eventLog) = _
          rw [finished.validates]
          rfl

/-! ## A mission completes only if the grasp worked -/

/-- `delivery.started` and `delivery.completed`. -/
def EventType.isDelivery : EventType → Bool
  | deliveryStarted | deliveryCompleted => true
  | _ => false

/-- An event that a mission may have only behind a grasp. -/
def EventType.followsGrasp (eventType : EventType) : Bool :=
  eventType = .objectGrasped || eventType.isDelivery || eventType = .taskCompleted

/-- There is a frame, a detection in it and a grasp that was executed. -/
def GraspWorked (camera : CameraAdapter) (vision : VisionAdapter K) (arm : ArmAdapter) : Prop :=
  ∃ artifact, Captured camera artifact ∧ Detected vision artifact ∧ Executed arm

/-- The mission returns a valid log with one terminal event, its last; the log speaks of a
grasp only if the grasp worked, and ends with an explained failure otherwise. -/
def CompletesOnlyGrasped (task : Task) (camera : CameraAdapter) (vision : VisionAdapter K)
    (arm : ArmAdapter) : Prop :=
  ∃ log, runAdapterSimulatedMission task camera vision arm = .ok log ∧ log.validate = .ok () ∧
    log.EndsTerminal ∧
    ((∃ eventType ∈ log.types, eventType.followsGrasp = true) → GraspWorked camera vision arm) ∧
    (¬GraspWorked camera vision arm →
      (∃ final, log.events.getLast? = some final ∧ final.eventType = .taskFailed ∧
        final.error ≠ none) ∧ ∀ eventType ∈ log.types, eventType.isDelivery = false)

theorem graspWorked_iff {artifact : FrameArtifact} (captured : Captured camera artifact)
    (detected : Detected vision artifact) : GraspWorked camera vision arm ↔ Executed arm := by
  constructor
  · rintro ⟨_, _, _, executed⟩
    exact executed
  · exact fun executed => ⟨artifact, captured, detected, executed⟩

/-- A mission that gave up before the grasp. -/
theorem completesOnlyGrasped_of_failed {log : TaskEventLog K} {types : List EventType}
    {final : EventEnvelope K} (ran : runAdapterSimulatedMission task camera vision arm = .ok log)
    (finished : log.Finished types final) (failed : final.eventType = .taskFailed)
    (explained : final.error ≠ none)
    (early : ∀ eventType ∈ types, eventType.followsGrasp = false) :
    CompletesOnlyGrasped task camera vision arm := by
  have noGrasp : ∀ eventType ∈ log.types, eventType.followsGrasp = false := by
    rw [finished.types_eq, failed]
    simpa [or_imp, forall_and] using ⟨early, rfl⟩
  refine ⟨log, ran, finished.validates, finished.endsTerminal, ?_, fun _ => ⟨?_, ?_⟩⟩
  · rintro ⟨eventType, membership, follows⟩
    rw [noGrasp eventType membership] at follows
    cases follows
  · exact ⟨final, finished.getLast?_eq, failed, explained⟩
  · intro eventType membership
    have notBehind := noGrasp eventType membership
    simp only [EventType.followsGrasp, Bool.or_eq_false_iff] at notBehind
    exact notBehind.1.2

/-- A mission completes only behind a grasp that worked, exactly if the arm executes every
grasp that a detection leads to. -/
theorem completesOnlyGrasped_iff (simulation : task.mode = .simulation) (camera : CameraAdapter)
    (vision : VisionAdapter K) (arm : ArmAdapter) :
    CompletesOnlyGrasped task camera vision arm ↔
      ∀ artifact, Captured camera artifact → Detected vision artifact → Executed arm := by
  obtain ⟨log, ran, ends⟩ := runAdapterSimulatedMission_ok simulation camera vision arm
  cases ends with
  | @noFrame final absent finished failed explained =>
      refine iff_of_true ?_ fun artifact captured => ?_
      · exact completesOnlyGrasped_of_failed ran finished failed explained (by decide)
      · rw [Captured, absent] at captured
        cases captured
  | @noDetection artifact final captured undetected finished failed explained =>
      refine iff_of_true ?_ fun other otherCaptured detected => ?_
      · exact completesOnlyGrasped_of_failed ran finished failed explained (by decide)
      · cases captured.symm.trans otherCaptured
        exact absurd detected undetected
  | @delivered artifact final captured detected finished completed =>
      have grasped : EventType.objectGrasped ∈ log.types := by
        rw [finished.types_eq]
        simp [searchTypes, deliveryTypes]
      constructor
      · rintro ⟨other, otherRan, _, _, onlyGrasped, _⟩ _ _ _
        cases ran.symm.trans otherRan
        exact (graspWorked_iff captured detected).mp (onlyGrasped ⟨_, grasped, rfl⟩)
      · intro executed
        have worked : GraspWorked camera vision arm :=
          (graspWorked_iff captured detected).mpr (executed artifact captured detected)
        exact ⟨log, ran, finished.validates, finished.endsTerminal, fun _ => worked,
          fun failed => absurd worked failed⟩

/-! ## A grasp that fails -/

def simIdentity (adapterType : AdapterType) : AdapterIdentity :=
  ⟨py "sim", adapterType, .simulation⟩

/-- A camera with one frame. -/
def wristCamera : CameraAdapter where
  probe := ⟨true, simIdentity .camera, ⟨[.wrist], true, false⟩, py "simulated:wrist"⟩
  captureFrame := ⟨true, simIdentity .camera, .wrist, some
    ⟨py "sim://camera/wrist/frame-000001", py "sha256:0", py "application/x.valera.sim-frame",
      640, 480⟩⟩

/-- A vision adapter with one detection. -/
def cubeVision : VisionAdapter ℚ where
  detect uri := ⟨simIdentity .vision, uri,
    [⟨py "VALERA-CUBE-001", py "sim_cube", .finite (97 / 100), none, []⟩]⟩

/-- An arm, and whether it executes the grasp. -/
def graspArm (executed : Bool) : ArmAdapter where
  probe := ⟨true, simIdentity .arm, ⟨true, false, true, 6⟩, py "simulation"⟩
  simulateGrasp _ := ⟨executed, simIdentity .arm, py "simulate_grasp", executed, some ⟨false⟩⟩

def cubeTask : Task where
  taskId := py "adapter-sim-task-001"
  objectId := py "VALERA-CUBE-001"
  pickupZone := .pickupZone
  deliveryZone := .deliveryZone
  mode := .simulation
  description := []
  hasTaskId := by decide
  hasObjectId := cube_named
  enabled := by decide

theorem completesOnlyGrasped_iff_cube :
    CompletesOnlyGrasped cubeTask wristCamera cubeVision (graspArm true) ↔
      ∀ artifact, Captured wristCamera artifact → Detected cubeVision artifact →
        Executed (graspArm true) :=
  completesOnlyGrasped_iff rfl wristCamera cubeVision (graspArm true)

/-- With a grasp that was not executed, the object is grasped and delivered all the same. -/
theorem not_always_completesOnlyGrasped :
    ¬∀ (task : Task) (camera : CameraAdapter) (vision : VisionAdapter ℚ) (arm : ArmAdapter),
      task.mode = .simulation → CompletesOnlyGrasped task camera vision arm := by
  intro always
  obtain ⟨log, ran, _, _, onlyGrasped, _⟩ :=
    always cubeTask wristCamera cubeVision (graspArm false) rfl
  obtain ⟨other, otherRan, ends⟩ := runAdapterSimulatedMission_ok
    (rfl : cubeTask.mode = .simulation) wristCamera cubeVision (graspArm false)
  cases ran.symm.trans otherRan
  cases ends with
  | noFrame absent => cases absent
  | noDetection captured undetected => exact undetected (List.cons_ne_nil _ _)
  | delivered captured detected finished completed =>
      have grasped : EventType.objectGrasped ∈ log.types := by
        rw [finished.types_eq]
        simp [searchTypes, deliveryTypes]
      obtain ⟨_, _, _, executed⟩ := onlyGrasped ⟨_, grasped, rfl⟩
      cases executed.1

end Robot

end ValeraControlTower

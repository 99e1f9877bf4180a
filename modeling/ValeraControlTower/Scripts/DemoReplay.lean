import ValeraControlTower.Scripts.LastingReplay
import ValeraControlTower.Scripts.RunPhysicalDemo

/-!
# The replay of a physical demo

All events of a demo last, those of the demo's own and that of the probe.
-/

namespace ValeraControlTower

open Unicode Json Robot

namespace Scripts

variable {Image K : Type} {M : FloatMath K} {task : Task} {event : EventEnvelope K}

/-! ## Payloads -/

theorem lasting_basePayload (objectId : PlainText task.objectId) :
    Lasting M (.obj (basePayload task) : PyJson K) := by
  have named : ([py "object_id", py "pickup_zone", py "delivery_zone"] : List PyStr).Nodup := by
    decide
  refine lasting_obj.mpr ⟨named, ?_⟩
  simp [basePayload, objectId]

theorem lasting_physicalPayload (objectId : PlainText task.objectId)
    (description : PlainText task.description) (eventType : EventType) :
    Lasting M (.obj (physicalPayload task eventType) : PyJson K) := by
  have base := @lasting_basePayload K M task objectId
  cases eventType with
  | taskCompleted =>
      have named : ([py "object_id", py "status"] : List PyStr).Nodup := by decide
      refine lasting_obj.mpr ⟨named, ?_⟩
      simp [physicalPayload, objectId]
  | _ => exact lasting_union base (by simp [description])

theorem lasting_failedPayload {reason : PyStr} (objectId : PlainText task.objectId)
    (plain : PlainText reason) : Lasting M (.obj (failedPayload task reason) : PyJson K) := by
  have named : ([py "object_id", py "status", py "reason"] : List PyStr).Nodup := by decide
  refine lasting_obj.mpr ⟨named, ?_⟩
  simp [failedPayload, objectId, plain]

theorem lasting_notFound (objectId : PlainText task.objectId) :
    Lasting M (.obj [(py "object_id", .str task.objectId), (py "status", literal "not_found")] :
      PyJson K) := by
  have named : ([py "object_id", py "status"] : List PyStr).Nodup := by decide
  refine lasting_obj.mpr ⟨named, ?_⟩
  simp [objectId]

theorem lasting_detectionPayload [One K] (one : FloatReturns M (.float (.finite 1)))
    (objectId : PlainText task.objectId) (detection : MarkerDetection) :
    Lasting M (.obj (detectionPayload task detection)) := by
  have named : ([py "object_id", py "marker_id", py "detection_score", py "pickup_zone",
      py "delivery_zone", py "current_target_zone", py "corners", py "bounding_box",
      py "status"] : List PyStr).Nodup := by
    decide
  have score : Lasting M (.num (.float (.finite 1))) := ⟨trivial, one, trivial⟩
  have sides : ([py "x", py "y", py "width", py "height"] : List PyStr).Nodup := by decide
  have box : Lasting M (.obj [(py "x", .num (.int detection.boundingBox.x)),
      (py "y", .num (.int detection.boundingBox.y)),
      (py "width", .num (.int detection.boundingBox.width)),
      (py "height", .num (.int detection.boundingBox.height))] : PyJson K) :=
    lasting_obj.mpr ⟨sides, by simp⟩
  have corners : Lasting M (.arr (detection.corners.map fun corner =>
      .arr [.num (.int corner.1), .num (.int corner.2)]) : PyJson K) := by
    apply lasting_arr.mpr
    intro item membership
    obtain ⟨corner, _, rfl⟩ := List.mem_map.mp membership
    simp
  refine lasting_obj.mpr ⟨named, ?_⟩
  simp only [detectionPayload, List.forall_mem_cons, lastingMember_py]
  exact ⟨lasting_str objectId, lasting_int _, score, lasting_str (Zone.plain_value _),
    lasting_str (Zone.plain_value _), lasting_str (Zone.plain_value _), corners, box,
    lasting_literal _, List.forall_mem_nil _⟩

/-! ## Events -/

theorem lasting_own {stamp : MissionStamp} {sequence : ℤ} (taskId : PlainText stamp.taskId)
    (correlationId : PlainText stamp.correlationId) (source : PlainText stamp.source)
    (objectId : PlainText task.objectId) (description : PlainText task.description)
    (own : Own stamp task sequence event) : LastingEvent M event.toEventFields := by
  have version : PlainText Robot.schemaVersion := .py _
  cases own with
  | step eventType made =>
      obtain ⟨number, occurredAt, isNumber, _, fields⟩ := fields_of_numberedEvent made
      rw [fields]
      exact {
        eventId := by simp [correlationId, plain_paddedNumber isNumber]
        payload := lasting_physicalPayload objectId description eventType
        evidenceRefs := List.forall_mem_nil _
        error := by simp
        taskId, correlationId, source
        schemaVersion := version }
  | failure error plain made =>
      obtain ⟨number, occurredAt, isNumber, _, fields⟩ := fields_of_numberedEvent made
      rw [fields]
      exact {
        eventId := by simp [correlationId, plain_paddedNumber isNumber]
        payload := lasting_failedPayload objectId plain
        evidenceRefs := List.forall_mem_nil _
        error := by simpa using plain
        taskId, correlationId, source
        schemaVersion := version }

/-- Digests are plain texts, as those of `hexdigest` are. -/
def PlainDigests (vision : VisionHost Image K) : Prop :=
  ∀ written path digest, vision.sha256 written path = .ok digest → PlainText digest

section Detection

variable {vision : VisionHost Image K} {written : List (PyStr × Image)}
  (digests : PlainDigests vision)

include digests in
theorem plainRef_of_storedRef {taskId evidenceId variant sourceAdapter eventId
    evidenceBasePath : PyStr} {image : Image} {ref : EvidenceRef} (plainTask : PlainText taskId)
    (plainEvidence : PlainText evidenceId) (plainVariant : PlainText variant)
    (plainSource : PlainText sourceAdapter) (plainEvent : PlainText eventId)
    (stored : StoredRef vision written taskId evidenceId variant sourceAdapter eventId
      evidenceBasePath image ref) : PlainRef ref := by
  obtain ⟨digest, isDigest, rfl⟩ := stored.isRef
  exact {
    evidenceId := plainEvidence
    relativePath := plain_evidencePath plainTask plainEvidence plainVariant
    mediaType := .py _
    captureMode := ExecutionMode.plain_value .realVision
    sourceAdapter := plainSource
    linkedEventId := plainEvent
    checksum := by simpa using digests _ _ _ isDigest }

variable [Min K] [Max K] [Sub K] [One K] (one : FloatReturns M (.float (.finite 1)))

include digests one in
theorem lasting_detected {image : Image} {correlationId evidenceBasePath sourceAdapter
    imageContext : PyStr} {sequence : ℤ} {occurredAt : Option DateTime}
      (taskId : PlainText task.taskId)
    (objectId : PlainText task.objectId) (correlation : PlainText correlationId)
    (source : PlainText sourceAdapter) (context : PlainText imageContext)
    (detected : DetectedEvent vision written image task sequence correlationId evidenceBasePath
      sourceAdapter imageContext occurredAt event) : LastingEvent M event.toEventFields := by
  have version : PlainText Robot.schemaVersion := .py _
  cases detected with
  | found detection others annotatedImage number rawRef annotatedRef detected drawn isNumber raw
      annotated fields =>
      have isEvent : PlainText (correlationId ++ py "-" ++ number ++ py "-vision") := by
        simp [correlation, plain_paddedNumber isNumber]
      have evidence : PlainText
          (correlationId ++ py "-" ++ number ++ py "-vision" ++ py "-evidence") :=
        plainText_append.mpr ⟨isEvent, .py _⟩
      have plainRaw :=
        plainRef_of_storedRef digests taskId evidence (.py _) source isEvent raw
      have plainAnnotated :=
        plainRef_of_storedRef digests taskId evidence (.py _) source isEvent annotated
      rw [fields]
      exact {
        eventId := isEvent
        payload := lasting_detectionPayload one objectId detection
        evidenceRefs := by simp [plainRaw, plainAnnotated]
        error := by simp
        taskId, source
        correlationId := correlation
        schemaVersion := version }
  | notFound number rawRef error unmarked coded worded isNumber raw fields =>
      have isEvent : PlainText (correlationId ++ py "-" ++ number ++ py "-vision") := by
        simp [correlation, plain_paddedNumber isNumber]
      have evidence : PlainText
          (correlationId ++ py "-" ++ number ++ py "-vision" ++ py "-evidence") :=
        plainText_append.mpr ⟨isEvent, .py _⟩
      have plainRaw :=
        plainRef_of_storedRef digests taskId evidence (.py _) source isEvent raw
      rw [fields]
      exact {
        eventId := isEvent
        payload := lasting_notFound objectId
        evidenceRefs := by simp [plainRaw]
        error := by simp [worded, context]
        taskId, source
        correlationId := correlation
        schemaVersion := version }

end Detection

end Scripts

end ValeraControlTower

import ValeraControlTower.Robot.LiveCamera

/-!
# The event of a detection

What a detection that returns has read, stored and reported, and what a probe of a live camera
reports of the frame that it took.
-/

namespace ValeraControlTower

open Unicode LexicalPath Json Traced

namespace Robot

variable {Image K : Type} {host : VisionHost Image K}

/-! ## Evidence -/

/-- The reference of an image that was written, with the checksum of its file. -/
structure StoredRef (host : VisionHost Image K) (written : List (PyStr × Image))
    (taskId evidenceId variant sourceAdapter eventId evidenceBasePath : PyStr) (image : Image)
    (ref : EvidenceRef) : Prop where
  isRef : ∃ digest, host.sha256
      (written ++ [(evidenceLocation taskId evidenceId variant evidenceBasePath, image)])
      (evidenceLocation taskId evidenceId variant evidenceBasePath) = .ok digest ∧
    ref = { madeRef taskId evidenceId variant (py "image/png") ExecutionMode.realVision.value
      sourceAdapter eventId with checksum := some (py "sha256:" ++ digest) }
  isWritten :
    host.imwrite (evidenceLocation taskId evidenceId variant evidenceBasePath) image = .ok true

theorem eq_of_new {ref made : EvidenceRef} (isNew : EvidenceRef.new ref = .ok made) :
    made = ref := by
  obtain ⟨_, _, isNew⟩ := bind_eq_ok isNew
  dsimp only at isNew
  by_cases absolute : (parse posix ref.relativePath).isAbsolute = true
  · rw [if_pos absolute] at isNew
    cases isNew
  · rw [if_neg absolute] at isNew
    by_cases parent : py ".." ∈ (parse posix ref.relativePath).parts
    · rw [if_pos parent] at isNew
      cases isNew
    · rw [if_neg parent] at isNew
      cases isNew
      rfl

theorem eq_of_createEvidenceRef {taskId evidenceId variant mediaType captureMode sourceAdapter
    linkedEventId : PyStr} {ref : EvidenceRef}
    (made : createEvidenceRef taskId evidenceId variant mediaType captureMode sourceAdapter
      linkedEventId = .ok ref) :
    ref = madeRef taskId evidenceId variant mediaType captureMode sourceAdapter linkedEventId := by
  unfold createEvidenceRef at made
  by_cases noTask : taskId = []
  · rw [if_pos noTask] at made
    cases made
  · rw [if_neg noTask] at made
    by_cases noVariant : variant = []
    · rw [if_pos noVariant] at made
      cases made
    · rw [if_neg noVariant] at made
      by_cases noSegment : posix.separator ∈ variant ∨ CodePoint.ofChar '\\' ∈ variant ∨
          variant = py ".."
      · rw [if_pos noSegment] at made
        cases made
      · rw [if_neg noSegment] at made
        obtain ⟨evidence, isNew, made⟩ := bind_eq_ok made
        obtain ⟨_, _, made⟩ := bind_eq_ok made
        cases made
        exact eq_of_new isNew

theorem storedRef_of_storeEvidence {written : List (PyStr × Image)}
    {taskId evidenceId variant sourceAdapter eventId evidenceBasePath : PyStr} {image : Image}
    {ref : EvidenceRef}
    (stored : storeEvidence host written taskId evidenceId variant sourceAdapter eventId
      evidenceBasePath image = .ok ref) :
    StoredRef host written taskId evidenceId variant sourceAdapter eventId evidenceBasePath image
      ref := by
  obtain ⟨made, isMade, stored⟩ := bind_eq_ok stored
  obtain ⟨_, wrote, stored⟩ := bind_eq_ok stored
  obtain ⟨checksum, digested, stored⟩ := bind_eq_ok stored
  cases stored
  obtain rfl := eq_of_createEvidenceRef isMade
  obtain ⟨digest, isDigest, digested⟩ := bind_eq_ok digested
  cases digested
  exact ⟨⟨digest, isDigest, rfl⟩, (writeImage_eq_ok.mp wrote).2⟩

/-! ## The event -/

theorem fields_of_errorNew {code : FailureCode} {message : PyStr} {error : EventError}
    (made : EventError.new code message = .ok error) :
    error.code = code ∧ error.message = message := by
  unfold EventError.new at made
  split at made
  · cases made
  · cases made
    exact ⟨rfl, rfl⟩

variable [Min K] [Max K] [Sub K] [One K]

/-- What a detection has seen in its image, and what its event says of it. -/
inductive DetectedEvent (host : VisionHost Image K) (written : List (PyStr × Image))
    (image : Image) (task : Task) (sequence : ℤ)
    (correlationId evidenceBasePath sourceAdapter imageContext : PyStr)
    (occurredAt : Option DateTime) (event : EventEnvelope K) : Prop where
  | found (detection : MarkerDetection) (others : List MarkerDetection) (annotatedImage : Image)
      (number : PyStr) (rawRef annotatedRef : EvidenceRef)
      (detected : detectMarkers host image = .ok (detection :: others))
      (drawn : host.drawDetectedMarkers image detection.corners detection.markerId =
        .ok annotatedImage)
      (isNumber : paddedNumber sequence = .ok number)
      (raw : StoredRef host written task.taskId
        (correlationId ++ py "-" ++ number ++ py "-vision" ++ py "-evidence") (py "raw")
        sourceAdapter (correlationId ++ py "-" ++ number ++ py "-vision") evidenceBasePath image
        rawRef)
      (annotated : StoredRef host (written ++ [(rawRef.localPath evidenceBasePath, image)])
        task.taskId (correlationId ++ py "-" ++ number ++ py "-vision" ++ py "-evidence")
        (py "annotated") sourceAdapter (correlationId ++ py "-" ++ number ++ py "-vision")
        evidenceBasePath annotatedImage annotatedRef)
      (fields : event.toEventFields = {
        eventId := correlationId ++ py "-" ++ number ++ py "-vision"
        taskId := task.taskId
        correlationId
        sequence
        eventType := .objectFound
        occurredAt := (occurredAt.getD host.now).orUtc
        source := sourceAdapter
        mode := .realVision
        payload := detectionPayload task detection
        evidenceRefs := [rawRef, annotatedRef] })
  | notFound (number : PyStr) (rawRef : EvidenceRef) (error : EventError)
      (unmarked : detectMarkers host image = .ok [])
      (coded : error.code = .objectNotFound)
      (worded : error.message = py "no ArUco marker detected in " ++ imageContext)
      (isNumber : paddedNumber sequence = .ok number)
      (raw : StoredRef host written task.taskId
        (correlationId ++ py "-" ++ number ++ py "-vision" ++ py "-evidence") (py "raw")
        sourceAdapter (correlationId ++ py "-" ++ number ++ py "-vision") evidenceBasePath image
        rawRef)
      (fields : event.toEventFields = {
        eventId := correlationId ++ py "-" ++ number ++ py "-vision"
        taskId := task.taskId
        correlationId
        sequence
        eventType := .objectNotFound
        occurredAt := (occurredAt.getD host.now).orUtc
        source := sourceAdapter
        mode := .realVision
        payload := [(py "object_id", .str task.objectId), (py "status", literal "not_found")]
        evidenceRefs := [rawRef]
        error := some error })

theorem detected_of_run {written : List (PyStr × Image)} {task : Task}
    {imagePath correlationId evidenceBasePath sourceAdapter imageContext : PyStr} {sequence : ℤ}
    {occurredAt : Option DateTime} {event : EventEnvelope K}
    (ran : runFixtureDetection host written task imagePath sequence correlationId evidenceBasePath
      occurredAt sourceAdapter imageContext = .ok event) :
    ∃ image, host.imread written imagePath = .ok (some image) ∧
      DetectedEvent host written image task sequence correlationId evidenceBasePath sourceAdapter
        imageContext occurredAt event := by
  obtain ⟨_, _, ran⟩ := bind_eq_ok ran
  obtain ⟨_, _, ran⟩ := bind_eq_ok ran
  obtain ⟨image, loaded, ran⟩ := bind_eq_ok ran
  refine ⟨image, (loadImage_eq_ok.mp loaded).2, ?_⟩
  obtain ⟨number, isNumber, ran⟩ := bind_eq_ok ran
  obtain ⟨rawRef, stored, ran⟩ := bind_eq_ok ran
  have raw := storedRef_of_storeEvidence stored
  obtain ⟨detections, detected, ran⟩ := bind_eq_ok ran
  cases detections with
  | nil =>
      obtain ⟨error, isError, made⟩ := bind_eq_ok ran
      obtain ⟨coded, worded⟩ := fields_of_errorNew isError
      exact .notFound number rawRef error detected coded worded isNumber raw
        (EventEnvelope.fields_of_new made)
  | cons detection others =>
      obtain ⟨annotatedImage, drawn, ran⟩ := bind_eq_ok ran
      obtain ⟨annotatedRef, annotated, made⟩ := bind_eq_ok ran
      exact .found detection others annotatedImage number rawRef annotatedRef detected drawn
        isNumber raw (storedRef_of_storeEvidence annotated) (EventEnvelope.fields_of_new made)

/-! ## The report of a probe -/

/-- The payload names the object, the marker and where it is in the image. -/
structure Describes (objectId : PyStr) (detection : MarkerDetection) (payload : PyPairs K) : Prop
    where
  objectId : payload.lookup (py "object_id") = some (.str objectId)
  markerId : payload.lookup (py "marker_id") = some (.num (.int detection.markerId))
  score : payload.lookup (py "detection_score") = some (.num (.float (.finite 1)))
  corners : payload.lookup (py "corners") = some (.arr (detection.corners.map fun corner =>
    .arr [.num (.int corner.1), .num (.int corner.2)]))
  boundingBox : payload.lookup (py "bounding_box") = some (.obj [
    (py "x", .num (.int detection.boundingBox.x)), (py "y", .num (.int detection.boundingBox.y)),
    (py "width", .num (.int detection.boundingBox.width)),
    (py "height", .num (.int detection.boundingBox.height))])
  status : payload.lookup (py "status") = some (literal "found")

/-- The evidence is the image, which was written below the root and has its checksum. -/
def Keeps (host : VisionHost Image K) (written : List (PyStr × Image))
    (taskId outputRoot variant : PyStr) (event : EventEnvelope K) (image : Image)
    (ref : EvidenceRef) : Prop :=
  StoredRef host written taskId (event.eventId ++ py "-evidence") variant liveCameraSource
    event.eventId outputRoot image ref

/-- What the event of a live probe reports of its image: the first marker in it, with two pieces of
evidence, or that there is none. -/
inductive ProbeReport (host : VisionHost Image K) (written : List (PyStr × Image))
    (taskId objectId outputRoot : PyStr) (image : Image) (event : EventEnvelope K) : Prop where
  | found (detection : MarkerDetection) (others : List MarkerDetection) (annotatedImage : Image)
      (rawRef annotatedRef : EvidenceRef)
      (detected : detectMarkers host image = .ok (detection :: others))
      (drawn : host.drawDetectedMarkers image detection.corners detection.markerId =
        .ok annotatedImage)
      (typed : event.eventType = .objectFound) (noError : event.error = none)
      (described : Describes objectId detection event.payload)
      (raw : Keeps host written taskId outputRoot (py "raw") event image rawRef)
      (annotated : Keeps host (written ++ [(rawRef.localPath outputRoot, image)]) taskId outputRoot
        (py "annotated") event annotatedImage annotatedRef)
      (evidence : event.evidenceRefs = [rawRef, annotatedRef])
  | notFound (error : EventError) (rawRef : EvidenceRef)
      (unmarked : detectMarkers host image = .ok [])
      (typed : event.eventType = .objectNotFound) (explained : event.error = some error)
      (coded : error.code = .objectNotFound)
      (worded : error.message = py "no ArUco marker detected in live camera frame")
      (described : event.payload =
        [(py "object_id", .str objectId), (py "status", literal "not_found")])
      (raw : Keeps host written taskId outputRoot (py "raw") event image rawRef)
      (evidence : event.evidenceRefs = [rawRef])

omit [Min K] [Max K] [Sub K] in
theorem describes_detectionPayload (task : Task) (detection : MarkerDetection) :
    Describes task.objectId detection (detectionPayload task detection : PyPairs K) := by
  constructor <;> rfl

theorem DetectedEvent.report {written : List (PyStr × Image)} {image : Image} {task : Task}
    {correlationId outputRoot : PyStr} {sequence : ℤ} {occurredAt : Option DateTime}
    {event : EventEnvelope K}
    (detected : DetectedEvent host written image task sequence correlationId outputRoot
      liveCameraSource (py "live camera frame") occurredAt event) :
    event.taskId = task.taskId ∧ event.sequence = sequence ∧
      ProbeReport host written task.taskId task.objectId outputRoot image event := by
  cases detected with
  | found detection others annotatedImage number rawRef annotatedRef detected drawn _ raw annotated
      fields =>
      refine ⟨by rw [fields], by rw [fields], ?_⟩
      apply ProbeReport.found detection others annotatedImage rawRef annotatedRef detected drawn
      · rw [fields]
      · rw [fields]
      · rw [fields]
        exact describes_detectionPayload task detection
      · rw [Keeps, fields]
        exact raw
      · rw [Keeps, fields]
        exact annotated
      · rw [fields]
  | notFound number rawRef error unmarked coded worded _ raw fields =>
      refine ⟨by rw [fields], by rw [fields], ?_⟩
      apply ProbeReport.notFound error rawRef unmarked
      · rw [fields]
      · rw [fields]
      · exact coded
      · rw [worded]
        decide
      · rw [fields]
      · rw [Keeps, fields]
        exact raw
      · rw [fields]

/-- What was written to a path from the camera is read back from it. -/
def ReadsBack (cameras : Cameras ℤ Image) (host : VisionHost Image K) (path : PyStr) : Prop :=
  ∀ past frame, cameras.read past = .ok (true, some frame) → host.imwrite path frame = .ok true →
    host.imread [(path, frame)] path = .ok (some frame)

/-- Whatever the camera, the file system and OpenCV do: a live probe tries the camera once if it is
enabled, holds none at its end, and what it returns reports of the image in the file to which it
wrote the frame of the camera. -/
theorem released_of_probe (cameras : Cameras ℤ Image) (host : VisionHost Image K)
    (taskId objectId : PyStr) (cameraIndex : ℤ) (enabled : Bool) (outputRoot : PyStr)
    (sequence : ℤ) (correlationId : Option PyStr) (occurredAt : Option DateTime) :
    let ran := (runLiveCameraMarkerProbe cameras host taskId objectId cameraIndex enabled
      outputRoot sequence correlationId occurredAt).after []
    cameraMonitor.hear ⟨[], none⟩ ran.2 =
        some ⟨if enabled = true ∧ host.hasOpenCv = true then [cameraIndex] else [], none⟩ ∧
      ∀ event, ran.1 = .ok event → enabled = true ∧ ∃ frame image,
        WroteFrame cameras host [] cameraIndex liveCameraMode (framePath outputRoot) frame ∧
        host.imread [(framePath outputRoot, frame)] (framePath outputRoot) = .ok (some image) ∧
        (ReadsBack cameras host (framePath outputRoot) → image = frame) ∧
        event.taskId = taskId ∧ event.sequence = sequence ∧
        ProbeReport host [(framePath outputRoot, frame)] taskId objectId outputRoot image
          event := by
  have meets : Meets cameraMonitor ⟨[], none⟩ (runLiveCameraMarkerProbe cameras host taskId objectId
    cameraIndex enabled outputRoot sequence correlationId occurredAt) _ :=
      meets_runLiveCameraMarkerProbe taskId objectId enabled outputRoot sequence correlationId
        occurredAt
  obtain ⟨events, after, grown, heard, released⟩ := meets []
  rw [List.nil_append] at grown released
  constructor
  · rw [grown, heard, released]
  · intro event returned
    obtain ⟨isEnabled, frame, wrote, detected⟩ :=
      runLiveCameraMarkerProbe_returned (Prod.ext returned rfl)
    obtain ⟨task, made, detected⟩ := bind_eq_ok detected
    obtain ⟨isTask, isObject, _⟩ := fields_of_taskNew made
    obtain ⟨image, read, detected⟩ := detected_of_run detected
    obtain ⟨owned, numbered, report⟩ := detected.report
    rw [isTask] at owned
    rw [isTask, isObject] at report
    refine ⟨isEnabled, frame, image, wrote, read, ?_, owned, numbered, report⟩
    intro readsBack
    have same := readsBack _ frame wrote.read wrote.written
    cases read.symm.trans same
    rfl

/-- A camera whose frames have a marker; of an image it is kept whether it has one. -/
def markedCameras : Cameras ℤ Bool where
  videoCapture _ _ := .ok ()
  isOpened _ := .ok true
  set _ _ := .ok ()
  read _ := .ok (true, some true)
  get _ _ := .ok 30
  release _ := .ok ()

/-- Files that keep what is written, and a detector for the marker. -/
def markedVision : VisionHost Bool ℚ where
  hasOpenCv := true
  hasAruco := true
  isFile written path := .ok (written.lookup path).isSome
  imread written path := .ok (written.lookup path)
  detectMarkers marked :=
    .ok (if marked then ([⟨⟨0, 0⟩, ⟨4, 0⟩, ⟨4, 4⟩, ⟨0, 4⟩⟩], some [7]) else ([], none))
  drawDetectedMarkers marked _ _ := .ok marked
  makeParent _ := .ok ()
  imwrite _ _ := .ok true
  sha256 _ _ := .ok (ofChars (List.replicate 64 '0'))
  round value := .ok (round value)
  now := utcTime 2026 7 6 12

theorem readsBack_marked (path : PyStr) : ReadsBack markedCameras markedVision path := by
  intro past frame _ _
  change Except.ok (List.lookup path [(path, frame)]) = _
  rw [List.lookup_cons_self]

theorem released_of_probe_marked :
    ∃ (event : EventEnvelope ℚ) (frame : Bool),
      ((runLiveCameraMarkerProbe markedCameras markedVision (py "task") (py "cube") 0 true
        (py "/project")).after []).1 = .ok event ∧ event.eventType = .objectFound ∧
      WroteFrame markedCameras markedVision [] 0 liveCameraMode (framePath (py "/project")) frame ∧
      ProbeReport markedVision [(framePath (py "/project"), frame)] (py "task") (py "cube")
        (py "/project") frame event := by
  have returns : ((runLiveCameraMarkerProbe markedCameras markedVision (py "task") (py "cube") 0
      true (py "/project")).after []).1.toOption.map (·.eventType) = some .objectFound := by
    decide +kernel
  obtain ⟨_, about⟩ := released_of_probe markedCameras markedVision (py "task") (py "cube") 0 true
    (py "/project") 1 none none
  cases outcome : ((runLiveCameraMarkerProbe markedCameras markedVision (py "task") (py "cube") 0
      true (py "/project")).after []).1 with
  | error exception =>
      rw [outcome] at returns
      cases returns
  | ok event =>
      obtain ⟨_, frame, image, wrote, _, keeps, _, _, report⟩ := about event outcome
      rw [keeps (readsBack_marked _)] at report
      rw [outcome] at returns
      exact ⟨event, frame, rfl, Option.some.inj returns, wrote, report⟩

end Robot

end ValeraControlTower

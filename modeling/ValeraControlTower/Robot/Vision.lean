import ValeraControlTower.Robot.Adapters
import ValeraControlTower.Robot.Events

/-!
# `robot/vision.py`

The detection of markers in an image file.  OpenCV and the file system are parameters, and each of
their calls may raise; what is read from a path may depend on the images that were written before.
A detection calls each of the functions at most once with the same arguments.
-/

namespace ValeraControlTower

open Unicode LexicalPath

namespace Robot

/-- A point of a marker's corner. -/
structure Point (K : Type) where
  x : K
  y : K

/-- The four corners of a marker, `marker_corners.reshape((4, 2))`. -/
structure MarkerCorners (K : Type) where
  first : Point K
  others : Point K × Point K × Point K

/-- What a detection calls outside of the repository. -/
structure VisionHost (Image K : Type) where
  hasOpenCv : Bool
  hasAruco : Bool
  /-- `path.is_file()`, behind the images that were written. -/
  isFile : List (PyStr × Image) → PyStr → Except Exception Bool
  /-- `cv2.imread(path, cv2.IMREAD_COLOR)`, behind the images that were written. -/
  imread : List (PyStr × Image) → PyStr → Except Exception (Option Image)
  /-- The corners and the ids of the markers of an image. -/
  detectMarkers : Image → Except Exception (List (MarkerCorners K) × Option (List ℤ))
  /-- The copy of an image that the marker is drawn on. -/
  drawDetectedMarkers : Image → List (ℤ × ℤ) → ℤ → Except Exception Image
  /-- `path.parent.mkdir(parents=True, exist_ok=True)`. -/
  makeParent : PyStr → Except Exception Unit
  imwrite : PyStr → Image → Except Exception Bool
  /-- `sha256(path.read_bytes()).hexdigest()`, behind the images that were written. -/
  sha256 : List (PyStr × Image) → PyStr → Except Exception PyStr
  /-- `int(round(float(value)))`, which raises for what is not finite. -/
  round : K → Except Exception ℤ
  /-- `datetime.now(timezone.utc)`. -/
  now : DateTime

variable {Image K : Type}

/-- `VISION_SOURCE`. -/
def visionSource : PyStr := py "valera.real_vision_fixture"

/-! ## Markers -/

/-- An element of the list `_detect_markers` returns. -/
structure MarkerDetection where
  markerId : ℤ
  corners : List (ℤ × ℤ)
  boundingBox : BoundingBox

namespace MarkerCorners

def points (corners : MarkerCorners K) : List (Point K) :=
  [corners.first, corners.others.1, corners.others.2.1, corners.others.2.2]

/-- `values.min()`. -/
def lowest [Min K] (corners : MarkerCorners K) (value : Point K → K) : K :=
  corners.points.foldl (fun least point => min least (value point)) (value corners.first)

/-- `values.max()`. -/
def highest [Max K] (corners : MarkerCorners K) (value : Point K → K) : K :=
  corners.points.foldl (fun greatest point => max greatest (value point)) (value corners.first)

end MarkerCorners

section Detection

variable [Min K] [Max K] [Sub K]

/-- `[int(round(float(x))), int(round(float(y)))]`. -/
def roundPoint (host : VisionHost Image K) (point : Point K) : Except Exception (ℤ × ℤ) := do
  let x ← host.round point.x
  let y ← host.round point.y
  return (x, y)

/-- The element of one marker. -/
def markerDetection (host : VisionHost Image K) (markerId : ℤ) (markerCorners : MarkerCorners K) :
    Except Exception MarkerDetection := do
  let corners ← markerCorners.points.mapM (roundPoint host)
  let x ← host.round (markerCorners.lowest Point.x)
  let y ← host.round (markerCorners.lowest Point.y)
  let width ← host.round (markerCorners.highest Point.x - markerCorners.lowest Point.x)
  let height ← host.round (markerCorners.highest Point.y - markerCorners.lowest Point.y)
  return { markerId, corners, boundingBox := { x, y, width, height } }

/-- `_detect_markers`. -/
def detectMarkers (host : VisionHost Image K) (image : Image) :
    Except Exception (List MarkerDetection) := do
  let (corners, ids) ← host.detectMarkers image
  match ids with
  | none => return []
  | some ids => (ids.zip corners).mapM fun (markerId, markerCorners) =>
      markerDetection host markerId markerCorners

end Detection

/-! ## Checks and files -/

/-- `_validate_task_mode`. -/
def validateTaskMode (task : Task) : Except Exception Unit :=
  if task.mode = .hardware then
    .error (.validationError (py "vision fixture adapter does not accept hardware mode")
      .hardwareModeNotEnabled)
  else if task.mode ≠ .realVision then
    .error (.invalid (py "vision fixture adapter only accepts real_vision mode tasks"))
  else .ok ()

/-- `_require_cv2_with_aruco`. -/
def requireCv2WithAruco (host : VisionHost Image K) : Except Exception Unit :=
  if host.hasOpenCv = false then
    .error (.runtimeError
      (py "OpenCV is required for fixture vision. Install requirements-dev.txt."))
  else if host.hasAruco = false then
    .error (.runtimeError (py ("OpenCV ArUco support is required. Install opencv-contrib-python " ++
      "from requirements-dev.txt.")))
  else .ok ()

/-- The image of a path, which must be a readable file. -/
def loadImage (host : VisionHost Image K) (written : List (PyStr × Image)) (imagePath : PyStr) :
    Except Exception Image := do
  if (← host.isFile written imagePath) = false then
    throw (.fileNotFoundError (py "vision fixture image is missing: " ++ imagePath))
  match ← host.imread written imagePath with
  | none => throw (.valueError (py "vision fixture image is unreadable: " ++ imagePath))
  | some image => return image

/-- `_write_image`. -/
def writeImage (host : VisionHost Image K) (path : PyStr) (image : Image) :
    Except Exception Unit := do
  host.makeParent path
  if (← host.imwrite path image) = false then
    throw (.osError (py "failed to write evidence image: " ++ path))

/-- `_sha256_file`. -/
def sha256File (host : VisionHost Image K) (written : List (PyStr × Image)) (path : PyStr) :
    Except Exception PyStr := do
  let digest ← host.sha256 written path
  return py "sha256:" ++ digest

/-- The reference of an image that is written, with its checksum. -/
def storeEvidence (host : VisionHost Image K) (written : List (PyStr × Image))
    (taskId evidenceId variant sourceAdapter eventId evidenceBasePath : PyStr) (image : Image) :
    Except Exception EvidenceRef := do
  let ref ← createEvidenceRef taskId evidenceId variant (py "image/png")
    ExecutionMode.realVision.value sourceAdapter eventId
  let path := ref.localPath evidenceBasePath
  writeImage host path image
  let checksum ← sha256File host (written ++ [(path, image)]) path
  return { ref with checksum := some checksum }

/-! ## The detection -/

/-- `_not_found_event`. -/
def notFoundEvent (host : VisionHost Image K) (task : Task) (eventId : PyStr) (sequence : ℤ)
    (correlationId : PyStr) (rawRef : EvidenceRef) (occurredAt : Option DateTime)
    (sourceAdapter imageContext : PyStr) : Except Exception (EventEnvelope K) := do
  let error ← EventError.new .objectNotFound (py "no ArUco marker detected in " ++ imageContext)
  EventEnvelope.new {
    eventId
    taskId := task.taskId
    correlationId
    sequence
    eventType := .objectNotFound
    occurredAt := occurredAt.getD host.now
    source := sourceAdapter
    mode := .realVision
    payload := [(py "object_id", .str task.objectId), (py "status", literal "not_found")]
    evidenceRefs := [rawRef]
    error := some error }

/-- The payload of an event with a detection. -/
def detectionPayload [One K] (task : Task) (detection : MarkerDetection) : PyPairs K :=
  [(py "object_id", .str task.objectId),
    (py "marker_id", .num (.int detection.markerId)),
    (py "detection_score", .num (.float (.finite 1))),
    (py "pickup_zone", .str task.pickupZone.value),
    (py "delivery_zone", .str task.deliveryZone.value),
    (py "current_target_zone", .str task.pickupZone.value),
    (py "corners", .arr (detection.corners.map fun corner =>
      .arr [.num (.int corner.1), .num (.int corner.2)])),
    (py "bounding_box", .obj [(py "x", .num (.int detection.boundingBox.x)),
      (py "y", .num (.int detection.boundingBox.y)),
      (py "width", .num (.int detection.boundingBox.width)),
      (py "height", .num (.int detection.boundingBox.height))]),
    (py "status", literal "found")]

variable [Min K] [Max K] [Sub K] [One K]

/-- `run_fixture_detection`, behind images that were written. -/
def runFixtureDetection (host : VisionHost Image K) (written : List (PyStr × Image)) (task : Task)
    (imagePath : PyStr) (sequence : ℤ) (correlationId evidenceBasePath : PyStr)
    (occurredAt : Option DateTime) (sourceAdapter : PyStr := visionSource)
    (imageContext : PyStr := py "fixture image") : Except Exception (EventEnvelope K) := do
  validateTaskMode task
  requireCv2WithAruco host
  let image ← loadImage host written imagePath
  let number ← paddedNumber sequence
  let eventId := correlationId ++ py "-" ++ number ++ py "-vision"
  let evidenceId := eventId ++ py "-evidence"
  let rawRef ← storeEvidence host written task.taskId evidenceId (py "raw") sourceAdapter eventId
    evidenceBasePath image
  let written := written ++ [(rawRef.localPath evidenceBasePath, image)]
  match ← detectMarkers host image with
  | [] =>
      notFoundEvent host task eventId sequence correlationId rawRef occurredAt sourceAdapter
        imageContext
  | detection :: _ =>
      let annotated ← host.drawDetectedMarkers image detection.corners detection.markerId
      let annotatedRef ← storeEvidence host written task.taskId evidenceId (py "annotated")
        sourceAdapter eventId evidenceBasePath annotated
      EventEnvelope.new {
        eventId
        taskId := task.taskId
        correlationId
        sequence
        eventType := .objectFound
        occurredAt := occurredAt.getD host.now
        source := sourceAdapter
        mode := .realVision
        payload := detectionPayload task detection
        evidenceRefs := [rawRef, annotatedRef] }

/-! ## Evidence that is stored -/

/-- An image can be written to a path and read back. -/
structure Stores (host : VisionHost Image K) (written : List (PyStr × Image)) (path : PyStr)
    (image : Image) : Prop where
  directory : host.makeParent path = .ok ()
  isWritten : host.imwrite path image = .ok true
  readable : ∃ digest, host.sha256 (written ++ [(path, image)]) path = .ok digest

/-- The place of an evidence file. -/
def evidenceLocation (taskId evidenceId variant evidenceBasePath : PyStr) : PyStr :=
  (parse posix (join posix evidenceBasePath (evidencePath taskId evidenceId variant))).str posix

section Stored

variable {host : VisionHost Image K} {written : List (PyStr × Image)} {image : Image}
  {path taskId evidenceId variant sourceAdapter eventId evidenceBasePath : PyStr}

omit [Min K] [Max K] [Sub K] [One K] in
theorem requireCv2WithAruco_eq_ok :
    requireCv2WithAruco host = .ok () ↔ host.hasOpenCv = true ∧ host.hasAruco = true := by
  unfold requireCv2WithAruco
  cases host.hasOpenCv <;> cases host.hasAruco <;> simp

omit [Min K] [Max K] [Sub K] [One K] in
theorem loadImage_eq_ok : loadImage host written path = .ok image ↔
    host.isFile written path = .ok true ∧ host.imread written path = .ok (some image) := by
  unfold loadImage
  constructor
  · intro loaded
    obtain ⟨isFile, isThere, loaded⟩ := bind_eq_ok loaded
    cases isFile with
    | false => cases loaded
    | true =>
        obtain ⟨contents, read, loaded⟩ := bind_eq_ok loaded
        cases contents with
        | none => cases loaded
        | some other =>
            cases loaded
            exact ⟨isThere, read⟩
  · intro both
    rw [both.1]
    change (host.imread written path >>= fun _ => _) = _
    rw [both.2]
    rfl

omit [Min K] [Max K] [Sub K] [One K] in
theorem writeImage_eq_ok : writeImage host path image = .ok () ↔
    host.makeParent path = .ok () ∧ host.imwrite path image = .ok true := by
  unfold writeImage
  constructor
  · intro wrote
    obtain ⟨_, made, wrote⟩ := bind_eq_ok wrote
    obtain ⟨isWritten, written, wrote⟩ := bind_eq_ok wrote
    cases isWritten with
    | false => cases wrote
    | true => exact ⟨made, written⟩
  · intro both
    rw [both.1]
    change (host.imwrite path image >>= fun _ => _) = _
    rw [both.2]
    rfl

omit [Min K] [Max K] [Sub K] [One K] in
/-- An image is stored if its reference is made and its place takes it. -/
theorem storeEvidence_ok_iff (hasTask : taskId ≠ []) (hasEvidence : evidenceId ≠ [])
    (hasVariant : variant ≠ [])
    (plainVariant : ¬(posix.separator ∈ variant ∨ CodePoint.ofChar '\\' ∈ variant ∨
      variant = py ".."))
    (hasSource : sourceAdapter ≠ []) (hasEvent : eventId ≠ []) :
    (∃ ref, storeEvidence host written taskId evidenceId variant sourceAdapter eventId
        evidenceBasePath image = .ok ref) ↔
      StaysInside taskId ∧ StaysInside (evidenceFile evidenceId variant) ∧
        Stores host written (evidenceLocation taskId evidenceId variant evidenceBasePath)
          image := by
  have hasStrings : ∀ field ∈ (madeRef taskId evidenceId variant (py "image/png")
      ExecutionMode.realVision.value sourceAdapter eventId).requiredStrings, field.2 ≠ [] := by
    have media : py "image/png" ≠ [] := by decide
    have capture : ExecutionMode.realVision.value ≠ [] := by decide
    have path : evidencePath taskId evidenceId variant ≠ [] := str_parse_ne_nil _
    simp [EvidenceRef.requiredStrings, madeRef, hasEvidence, hasSource, hasEvent, media, capture,
      path]
  constructor
  · rintro ⟨ref, stored⟩
    obtain ⟨made, isMade, stored⟩ := bind_eq_ok stored
    obtain ⟨rfl, task, file⟩ :=
      (createEvidenceRef_eq_ok hasTask hasVariant plainVariant hasStrings).mp isMade
    obtain ⟨_, wrote, stored⟩ := bind_eq_ok stored
    obtain ⟨_, digested, _⟩ := bind_eq_ok stored
    obtain ⟨directory, isWritten⟩ := writeImage_eq_ok.mp wrote
    obtain ⟨digest, readable, _⟩ := bind_eq_ok digested
    exact ⟨task, file, directory, isWritten, digest, readable⟩
  · rintro ⟨task, file, directory, isWritten, digest, readable⟩
    have made := (createEvidenceRef_eq_ok hasTask hasVariant plainVariant hasStrings).mpr
      ⟨rfl, task, file⟩
    have wrote : writeImage host (evidenceLocation taskId evidenceId variant evidenceBasePath)
        image = .ok () := writeImage_eq_ok.mpr ⟨directory, isWritten⟩
    refine ⟨{ madeRef taskId evidenceId variant (py "image/png") ExecutionMode.realVision.value
      sourceAdapter eventId with checksum := some (py "sha256:" ++ digest) }, ?_⟩
    unfold storeEvidence
    rw [made]
    change (writeImage host (evidenceLocation taskId evidenceId variant evidenceBasePath) image >>=
      fun _ => sha256File host (written ++
        [(evidenceLocation taskId evidenceId variant evidenceBasePath, image)])
        (evidenceLocation taskId evidenceId variant evidenceBasePath) >>= fun _ => _) = _
    rw [wrote]
    unfold sha256File
    rw [readable]
    rfl

end Stored

/-! ## What a detection returns -/

section Reported

variable {host : VisionHost Image K} {written : List (PyStr × Image)} {task : Task}
  {imagePath correlationId evidenceBasePath : PyStr}
  {sourceAdapter imageContext : PyStr} {sequence : ℤ} {occurredAt : Option DateTime}
  {event : EventEnvelope K}

/-- The image of a path has no marker. -/
def Unmarked (host : VisionHost Image K) (written : List (PyStr × Image)) (imagePath : PyStr) :
    Prop :=
  ∃ image, host.imread written imagePath = .ok (some image) ∧ detectMarkers host image = .ok []

/-- What the type of the event of a detection tells of the image. -/
inductive Reports (host : VisionHost Image K) (written : List (PyStr × Image)) (imagePath : PyStr)
    (event : EventEnvelope K) : Prop where
  | found (marked : ¬Unmarked host written imagePath) (typed : event.eventType = .objectFound)
  | notFound (unmarked : Unmarked host written imagePath)
      (typed : event.eventType = .objectNotFound)

/-- A detection reports what it found under the task and the number it was given. -/
theorem runFixtureDetection_reports
    (ran : runFixtureDetection host written task imagePath sequence correlationId evidenceBasePath
      occurredAt sourceAdapter imageContext = .ok event) :
    event.taskId = task.taskId ∧ event.sequence = sequence ∧
      Reports host written imagePath event := by
  obtain ⟨_, _, ran⟩ := bind_eq_ok ran
  obtain ⟨_, _, ran⟩ := bind_eq_ok ran
  obtain ⟨image, loaded, ran⟩ := bind_eq_ok ran
  have read := (loadImage_eq_ok.mp loaded).2
  obtain ⟨number, _, ran⟩ := bind_eq_ok ran
  obtain ⟨rawRef, _, ran⟩ := bind_eq_ok ran
  obtain ⟨detections, detected, ran⟩ := bind_eq_ok ran
  cases detections with
  | nil =>
      obtain ⟨error, _, made⟩ := bind_eq_ok ran
      have fields := EventEnvelope.fields_of_new made
      refine ⟨by rw [fields], by rw [fields], .notFound ⟨image, read, detected⟩ ?_⟩
      rw [fields]
  | cons detection others =>
      obtain ⟨annotated, _, ran⟩ := bind_eq_ok ran
      obtain ⟨annotatedRef, _, made⟩ := bind_eq_ok ran
      have fields := EventEnvelope.fields_of_new made
      refine ⟨by rw [fields], by rw [fields], .found ?_ ?_⟩
      · rintro ⟨other, otherRead, unmarked⟩
        cases read.symm.trans otherRead
        rw [detected] at unmarked
        cases unmarked
      · rw [fields]

/-- The image can be read, it has no marker, and it is stored as evidence of that. -/
structure FindsNothing (host : VisionHost Image K) (written : List (PyStr × Image))
    (taskId imagePath eventId evidenceBasePath : PyStr) : Prop where
  hasOpenCv : host.hasOpenCv = true
  hasAruco : host.hasAruco = true
  isFile : host.isFile written imagePath = .ok true
  inside : StaysInside taskId
  insideFile : StaysInside (evidenceFile (eventId ++ py "-evidence") (py "raw"))
  unmarked : ∃ image, host.imread written imagePath = .ok (some image) ∧
    detectMarkers host image = .ok [] ∧
    Stores host written
      (evidenceLocation taskId (eventId ++ py "-evidence") (py "raw") evidenceBasePath) image

/-- When a detection reports that there is no marker. -/
theorem runFixtureDetection_notFound_iff {number : PyStr} (realVision : task.mode = .realVision)
    (isNumber : paddedNumber sequence = .ok number) (positive : 1 ≤ sequence)
    (hasCorrelation : correlationId ≠ []) (hasSource : sourceAdapter ≠ []) :
    (∃ event, runFixtureDetection host written task imagePath sequence correlationId
        evidenceBasePath occurredAt sourceAdapter imageContext = .ok event ∧
          event.eventType = .objectNotFound) ↔
      FindsNothing host written task.taskId imagePath
        (correlationId ++ py "-" ++ number ++ py "-vision") evidenceBasePath := by
  have hasEvent : correlationId ++ py "-" ++ number ++ py "-vision" ≠ [] := by
    simp [hasCorrelation]
  have stored := fun image => @storeEvidence_ok_iff Image K host written image task.taskId
    (correlationId ++ py "-" ++ number ++ py "-vision" ++ py "-evidence") (py "raw") sourceAdapter
    (correlationId ++ py "-" ++ number ++ py "-vision") evidenceBasePath task.hasTaskId
    (by simp [hasCorrelation]) (by decide) (by decide) hasSource hasEvent
  constructor
  · rintro ⟨event, ran, typed⟩
    have reported := (runFixtureDetection_reports ran).2.2
    obtain ⟨_, _, ran⟩ := bind_eq_ok ran
    obtain ⟨_, openCv, ran⟩ := bind_eq_ok ran
    obtain ⟨image, loaded, ran⟩ := bind_eq_ok ran
    obtain ⟨_, numbered, ran⟩ := bind_eq_ok ran
    cases isNumber.symm.trans numbered
    obtain ⟨rawRef, stores, _⟩ := bind_eq_ok ran
    obtain ⟨hasOpenCv, hasAruco⟩ := requireCv2WithAruco_eq_ok.mp openCv
    obtain ⟨isFile, read⟩ := loadImage_eq_ok.mp loaded
    obtain ⟨inside, insideFile, stores⟩ := (stored image).mp ⟨rawRef, stores⟩
    cases reported with
    | found marked isFound => cases isFound.symm.trans typed
    | notFound unmarked =>
        obtain ⟨other, otherRead, nothing⟩ := unmarked
        cases read.symm.trans otherRead
        exact ⟨hasOpenCv, hasAruco, isFile, inside, insideFile, image, read, nothing, stores⟩
  · intro nothing
    obtain ⟨image, read, unmarked, stores⟩ := nothing.unmarked
    obtain ⟨rawRef, store⟩ := (stored image).mpr ⟨nothing.inside, nothing.insideFile, stores⟩
    have mode : validateTaskMode task = .ok () := by
      unfold validateTaskMode
      rw [if_neg task.enabled, if_neg (not_not.mpr realVision)]
    have openCv := requireCv2WithAruco_eq_ok.mpr ⟨nothing.hasOpenCv, nothing.hasAruco⟩
    have loaded := loadImage_eq_ok.mpr ⟨nothing.isFile, read⟩
    have worded : py "no ArUco marker detected in " ++ imageContext ≠ [] := by
      have text : py "no ArUco marker detected in " ≠ [] := by decide
      simp [text]
    let fields : EventFields K := {
      eventId := correlationId ++ py "-" ++ number ++ py "-vision"
      taskId := task.taskId
      correlationId
      sequence
      eventType := .objectNotFound
      occurredAt := occurredAt.getD host.now
      source := sourceAdapter
      mode := .realVision
      payload := [(py "object_id", .str task.objectId), (py "status", literal "not_found")]
      evidenceRefs := [rawRef]
      error := some ⟨.objectNotFound, py "no ArUco marker detected in " ++ imageContext, worded⟩ }
    have hasStrings : ∀ field ∈ fields.requiredStrings, field.2 ≠ [] := by
      have version : schemaVersion ≠ [] := by decide
      simp [EventFields.requiredStrings, fields, hasCorrelation, hasSource, task.hasTaskId, version]
    obtain ⟨event, made, isFields⟩ := EventEnvelope.new_ok hasStrings positive nofun
    refine ⟨event, ?_, by rw [isFields]⟩
    unfold runFixtureDetection
    rw [mode, openCv, loaded, isNumber]
    dsimp only [bind, Except.bind]
    rw [store]
    dsimp only
    rw [unmarked]
    dsimp only
    unfold notFoundEvent
    rw [EventError.new_ok worded]
    exact made

end Reported

end Robot

end ValeraControlTower

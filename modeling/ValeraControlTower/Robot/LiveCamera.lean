import ValeraControlTower.Library.Traced
import ValeraControlTower.Robot.Vision

/-!
# `robot/live_camera.py`

One frame of a camera, and the detection of a marker in it.  What happens to the camera is
recorded: it is released behind every opening, whatever the camera, the file system or OpenCV do
in between.
-/

namespace ValeraControlTower

open Unicode Machine Traced

namespace Robot

/-! ## Cameras -/

/-- What is done with an open camera; a property that is set comes with its value. -/
inductive CameraUse where
  | isOpened
  | setFourcc (code : PyStr) | setFrameWidth (width : ℤ) | setFrameHeight (height : ℤ)
  | setFps (fps : ℤ)
  | read
  | getFrameWidth | getFrameHeight | getFps

/-- What happens to cameras. -/
inductive CameraEvent (Device : Type) where
  | opened (device : Device)
  | notOpened (device : Device)
  | used (use : CameraUse)
  | released

/-- The cameras of `cv2`: how a call ends after all that has happened to them. -/
structure Cameras (Device Image : Type) where
  videoCapture : Device → List (CameraEvent Device) → Except Exception Unit
  isOpened : List (CameraEvent Device) → Except Exception Bool
  set : CameraUse → List (CameraEvent Device) → Except Exception Unit
  read : List (CameraEvent Device) → Except Exception (Bool × Option Image)
  /-- `int(capture.get(property))`. -/
  get : CameraUse → List (CameraEvent Device) → Except Exception ℤ
  release : List (CameraEvent Device) → Except Exception Unit

/-- The mode of a camera. -/
structure CaptureMode where
  width : ℤ
  height : ℤ
  fps : ℤ
  fourcc : PyStr

abbrev CameraProgram (Device α : Type) := Program (CameraEvent Device) Exception α

variable {Device Image K α : Type}

/-- `cv2.VideoCapture(device, cv2.CAP_V4L2)`. -/
def openCapture (cameras : Cameras Device Image) (device : Device) : CameraProgram Device Unit :=
  act (cameras.videoCapture device) fun
    | .ok () => .opened device
    | .error _ => .notOpened device

/-- A call on the open camera. -/
def useCapture (use : CameraUse) (answer : List (CameraEvent Device) → Except Exception α) :
    CameraProgram Device α :=
  act answer fun _ => .used use

/-- `capture.release()`. -/
def release (cameras : Cameras Device Image) : CameraProgram Device Unit :=
  act cameras.release fun _ => .released

/-- The calls of `capture.set`. -/
def configure (cameras : Cameras Device Image) (mode : CaptureMode) :
    CameraProgram Device Unit := do
  useCapture (.setFourcc mode.fourcc) (cameras.set (.setFourcc mode.fourcc))
  useCapture (.setFrameWidth mode.width) (cameras.set (.setFrameWidth mode.width))
  useCapture (.setFrameHeight mode.height) (cameras.set (.setFrameHeight mode.height))
  useCapture (.setFps mode.fps) (cameras.set (.setFps mode.fps))

/-! ## One frame -/

/-- `LIVE_CAMERA_SOURCE`. -/
def liveCameraSource : PyStr := py "valera.live_camera_probe"

/-- The default mode of `capture_live_camera_frame`. -/
def liveCameraMode : CaptureMode := ⟨1280, 720, 30, py "MJPG"⟩

/-- `str(number)`. -/
def decimalText (number : ℤ) : Except Exception PyStr :=
  let numeral := Numeral.ofInt number
  if intMaxStrDigits < numeral.integer.length then
    .error (.valueError (py "Exceeds the limit (4300 digits) for integer string conversion"))
  else .ok (ofChars numeral.text)

/-- `_require_cv2`. -/
def requireCv2 (host : VisionHost Image K) : Except Exception Unit :=
  if host.hasOpenCv = false then
    .error (.runtimeError
      (py "OpenCV is required for live camera capture. Install requirements-dev.txt."))
  else .ok ()

/-- A `RuntimeError` about a camera. -/
def cameraError (message : String) (cameraIndex : ℤ) : Except Exception α := do
  let number ← decimalText cameraIndex
  throw (.runtimeError (py message ++ number))

/-- What a capture leaves behind: the path, which is returned, and the frame in its file. -/
structure CapturedFrame (Image : Type) where
  path : PyStr
  frame : Image

/-- The body of the `try` of `capture_live_camera_frame`. -/
def writeFrame (cameras : Cameras ℤ Image) (host : VisionHost Image K) (cameraIndex : ℤ)
    (outputPath : PyStr) (mode : CaptureMode) : CameraProgram ℤ (CapturedFrame Image) := do
  let isOpened ← useCapture .isOpened cameras.isOpened
  if isOpened = false then
    silent (cameraError "could not open live camera index " cameraIndex)
  else do
    configure cameras mode
    let (ok, frame) ← useCapture .read cameras.read
    match ok, frame with
    | true, some frame => silent do
        host.makeParent outputPath
        if (← host.imwrite outputPath frame) = false then
          throw (.osError (py "failed to write live camera frame: " ++ outputPath))
        return ⟨outputPath, frame⟩
    | _, _ => silent (cameraError "could not read one frame from live camera index " cameraIndex)

/-- `capture_live_camera_frame`. -/
def captureLiveCameraFrame (cameras : Cameras ℤ Image) (host : VisionHost Image K)
    (cameraIndex : ℤ) (outputPath : PyStr) (enabled : Bool)
    (mode : CaptureMode := liveCameraMode) : CameraProgram ℤ (CapturedFrame Image) :=
  if enabled = false then
    silent (.error (.liveCameraDisabledError (py ("live camera capture requires enabled=True; " ++
      "pass --enable-live-camera to opt in"))))
  else do
    silent (requireCv2 host)
    openCapture cameras cameraIndex
    ensure (writeFrame cameras host cameraIndex outputPath mode) (release cameras)

/-! ## The probe -/

open LexicalPath in
/-- `output_root / "tmp" / "live-camera-probe-frame.png"`. -/
def framePath (outputRoot : PyStr) : PyStr :=
  (parse posix (join posix (join posix outputRoot (py "tmp"))
    (py "live-camera-probe-frame.png"))).str posix

section Probe

variable [Min K] [Max K] [Sub K] [One K]

/-- What `run_live_camera_marker_probe` does behind the capture. -/
def detectInFrame (host : VisionHost Image K) (written : List (PyStr × Image))
    (taskId objectId outputRoot : PyStr) (sequence : ℤ) (correlationId : Option PyStr)
    (occurredAt : Option DateTime) : Except Exception (EventEnvelope K) := do
  let task ← Task.new taskId objectId .pickupZone .deliveryZone .realVision
    (py "Live camera marker probe; perception only, no robot movement")
  let correlationId := correlationId.getD []
  runFixtureDetection host written task (framePath outputRoot) sequence
    (if correlationId = [] then task.taskId else correlationId) outputRoot occurredAt
    liveCameraSource (py "live camera frame")

/-- `run_live_camera_marker_probe`. -/
def runLiveCameraMarkerProbe (cameras : Cameras ℤ Image) (host : VisionHost Image K)
    (taskId objectId : PyStr) (cameraIndex : ℤ) (enabled : Bool) (outputRoot : PyStr)
    (sequence : ℤ := 1) (correlationId : Option PyStr := none)
    (occurredAt : Option DateTime := none) : CameraProgram ℤ (EventEnvelope K) :=
  if enabled = false then
    silent (.error (.liveCameraDisabledError (py ("live camera marker probe requires " ++
      "--enable-live-camera before camera access"))))
  else do
    let captured ← captureLiveCameraFrame cameras host cameraIndex (framePath outputRoot) enabled
    silent (detectInFrame host [(captured.path, captured.frame)] taskId objectId outputRoot sequence
      correlationId occurredAt)

end Probe

/-! ## Nothing stays open -/

/-- The cameras one has tried to open, and the one that is held. -/
structure CameraLog (Device : Type) where
  tried : List Device
  held : Option Device

/-- One camera at a time is opened, used while it is held, and released. -/
def cameraMonitor : Monitor (CameraLog Device) (CameraEvent Device)
  | ⟨tried, none⟩, .opened device => some ⟨tried ++ [device], some device⟩
  | ⟨tried, none⟩, .notOpened device => some ⟨tried ++ [device], none⟩
  | ⟨tried, some device⟩, .used _ => some ⟨tried, some device⟩
  | ⟨tried, some _⟩, .released => some ⟨tried, none⟩
  | _, _ => none

section Held

variable {cameras : Cameras Device Image} {tried : List Device} {device : Device}

theorem meets_openCapture :
    Meets cameraMonitor ⟨tried, none⟩ (openCapture cameras device) fun outcome after =>
      after = ⟨tried ++ [device], match outcome with
        | .ok _ => some device
        | .error _ => none⟩ := by
  apply Meets.act
  intro past
  cases cameras.videoCapture device past with
  | error exception => exact ⟨_, rfl, rfl⟩
  | ok opened => exact ⟨_, rfl, rfl⟩

theorem meets_useCapture (use : CameraUse)
    (answer : List (CameraEvent Device) → Except Exception α) :
    Meets cameraMonitor ⟨tried, some device⟩ (useCapture use answer) fun outcome after =>
      after = ⟨tried, some device⟩ ∧ ∃ past, outcome = answer past := by
  apply Meets.act
  intro past
  exact ⟨_, rfl, rfl, past, rfl⟩

theorem meets_release :
    Meets cameraMonitor ⟨tried, some device⟩ (release cameras) fun _ after =>
      after = ⟨tried, none⟩ := by
  apply Meets.act
  intro past
  exact ⟨_, rfl, rfl⟩

/-- A call whose answer is not looked at, in front of something that keeps the camera. -/
theorem meets_useCapture_bind {β : Type} (use : CameraUse)
    (answer : List (CameraEvent Device) → Except Exception α) {next : α → CameraProgram Device β}
    {post : Except Exception β → CameraLog Device → Prop}
    (raised : ∀ exception, post (.error exception) ⟨tried, some device⟩)
    (goesOn : ∀ value, Meets cameraMonitor ⟨tried, some device⟩ (next value) post) :
    Meets cameraMonitor ⟨tried, some device⟩ (useCapture use answer >>= next) post := by
  apply (meets_useCapture use answer).bind
  · intro exception middle ⟨kept, _⟩
    rw [kept]
    exact raised exception
  · intro value middle ⟨kept, _⟩
    rw [kept]
    exact goesOn value

theorem meets_configure (mode : CaptureMode) :
    Meets cameraMonitor ⟨tried, some device⟩ (configure cameras mode) fun _ after =>
      after = ⟨tried, some device⟩ := by
  apply meets_useCapture_bind _ _ fun _ => rfl
  intro _
  apply meets_useCapture_bind _ _ fun _ => rfl
  intro _
  apply meets_useCapture_bind _ _ fun _ => rfl
  intro _
  exact (meets_useCapture _ _).weaken fun _ _ => And.left

end Held

section Frame

variable {cameras : Cameras ℤ Image} {host : VisionHost Image K} {tried : List ℤ} {device : ℤ}
  {cameraIndex : ℤ} {outputPath : PyStr} {mode : CaptureMode}

/-- Writing a frame keeps the camera. -/
theorem meets_writeFrame :
    Meets cameraMonitor ⟨tried, some device⟩
      (writeFrame cameras host cameraIndex outputPath mode) fun _ after =>
        after = ⟨tried, some device⟩ := by
  apply meets_useCapture_bind _ _ fun _ => rfl
  intro isOpened
  by_cases closed : isOpened = false
  · rw [if_pos closed]
    exact .silent rfl
  · rw [if_neg closed]
    apply (meets_configure mode).bind
    · intro exception middle kept
      exact kept
    · intro _ middle kept
      rw [kept]
      apply meets_useCapture_bind _ _ fun _ => rfl
      intro answer
      obtain ⟨ok, frame⟩ := answer
      cases ok with
      | false => exact .silent rfl
      | true =>
          cases frame with
          | none => exact .silent rfl
          | some frame => exact .silent rfl

theorem requireCv2_eq_ok : requireCv2 host = .ok () ↔ host.hasOpenCv = true := by
  unfold requireCv2
  cases host.hasOpenCv with
  | false => exact iff_of_false nofun nofun
  | true => exact iff_of_true rfl rfl

/-- The camera is released behind a capture. -/
theorem meets_captureLiveCameraFrame (enabled : Bool) :
    Meets cameraMonitor ⟨tried, none⟩
      (captureLiveCameraFrame cameras host cameraIndex outputPath enabled mode)
      fun _ after => after = ⟨tried ++
          if enabled = true ∧ host.hasOpenCv = true then [cameraIndex] else [], none⟩ := by
  unfold captureLiveCameraFrame
  by_cases disabled : enabled = false
  · rw [if_pos disabled]
    exact .silent (by simp [disabled])
  · rw [if_neg disabled]
    rw [Bool.not_eq_false] at disabled
    apply Meets.silent_bind
    · intro exception raised
      have noCv : ¬host.hasOpenCv = true := by
        rw [← requireCv2_eq_ok, raised]
        exact nofun
      simp [noCv]
    · intro _ required
      rw [if_pos ⟨disabled, requireCv2_eq_ok.mp required⟩]
      apply meets_openCapture.bind
      · intro exception middle opened
        exact opened
      · intro _ middle opened
        rw [opened]
        apply meets_writeFrame.ensure
        intro outcome middle kept
        rw [kept]
        exact meets_release

variable [Min K] [Max K] [Sub K] [One K]

/-- A live probe holds no camera at its end. -/
theorem meets_runLiveCameraMarkerProbe (taskId objectId : PyStr) (enabled : Bool)
    (outputRoot : PyStr) (sequence : ℤ) (correlationId : Option PyStr)
    (occurredAt : Option DateTime) :
    Meets cameraMonitor ⟨tried, none⟩ (runLiveCameraMarkerProbe cameras host taskId objectId
      cameraIndex enabled outputRoot sequence correlationId occurredAt) fun _ after =>
        after = ⟨tried ++ if enabled = true ∧ host.hasOpenCv = true then [cameraIndex] else [],
          none⟩ := by
  unfold runLiveCameraMarkerProbe
  by_cases disabled : enabled = false
  · rw [if_pos disabled]
    exact .silent (by simp [disabled])
  · rw [if_neg disabled]
    have captured : Meets cameraMonitor ⟨tried, none⟩ (captureLiveCameraFrame cameras host
      cameraIndex (framePath outputRoot) enabled) _ := meets_captureLiveCameraFrame enabled
    apply captured.bind
    · intro exception middle released
      exact released
    · intro _ middle released
      exact .silent released

end Frame

/-! ## The frame in the file -/

section Written

variable {cameras : Cameras ℤ Image} {host : VisionHost Image K} {past later : List (CameraEvent ℤ)}
  {cameraIndex : ℤ} {outputPath : PyStr} {mode : CaptureMode} {captured : CapturedFrame Image}

/-- What has happened to an open camera when its frame is read. -/
def configured (mode : CaptureMode) : List (CameraEvent Device) :=
  [.used .isOpened, .used (.setFourcc mode.fourcc), .used (.setFrameWidth mode.width),
    .used (.setFrameHeight mode.height), .used (.setFps mode.fps)]

/-- The frame of the camera is in the file: it is what the camera gave when it was opened, set to
the mode and read, and it was written. -/
structure WroteFrame (cameras : Cameras ℤ Image) (host : VisionHost Image K)
    (past : List (CameraEvent ℤ)) (cameraIndex : ℤ) (mode : CaptureMode) (outputPath : PyStr)
    (frame : Image) : Prop where
  read : cameras.read (past ++ .opened cameraIndex :: configured mode) = .ok (true, some frame)
  directory : host.makeParent outputPath = .ok ()
  written : host.imwrite outputPath frame = .ok true

theorem cameraError_ne_ok (message : String) (cameraIndex : ℤ) (value : α) :
    cameraError message cameraIndex ≠ .ok value := by
  unfold cameraError
  intro returned
  obtain ⟨number, _, raised⟩ := bind_eq_ok returned
  cases raised

theorem configure_returned {cameras : Cameras Device Image} {past later : List (CameraEvent Device)}
    (returned : (configure cameras mode).after past = (.ok (), later)) :
    later = past ++ (configured mode).tail := by
  obtain ⟨_, _, first, returned⟩ := bind_returned returned
  obtain ⟨_, _, second, returned⟩ := bind_returned returned
  obtain ⟨_, _, third, returned⟩ := bind_returned returned
  obtain ⟨_, rfl⟩ := act_returned first
  obtain ⟨_, rfl⟩ := act_returned second
  obtain ⟨_, rfl⟩ := act_returned third
  obtain ⟨_, rfl⟩ := act_returned returned
  simp [configured]

theorem writeFrame_returned
    (returned : (writeFrame cameras host cameraIndex outputPath mode).after past =
      (.ok captured, later)) :
    captured.path = outputPath ∧
      cameras.read (past ++ configured mode) = .ok (true, some captured.frame) ∧
      host.makeParent outputPath = .ok () ∧ host.imwrite outputPath captured.frame = .ok true := by
  obtain ⟨isOpened, _, opened, returned⟩ := bind_returned returned
  obtain ⟨_, rfl⟩ := act_returned opened
  by_cases closed : isOpened = false
  · rw [if_pos closed] at returned
    exact absurd (silent_returned returned).1 (cameraError_ne_ok _ _ _)
  · rw [if_neg closed] at returned
    obtain ⟨_, _, isConfigured, returned⟩ := bind_returned returned
    obtain ⟨⟨ok, frame⟩, _, isRead, returned⟩ := bind_returned returned
    obtain ⟨read, _⟩ := act_returned isRead
    rw [configure_returned isConfigured, List.append_assoc] at read
    cases ok with
    | false => exact absurd (silent_returned returned).1 (cameraError_ne_ok _ _ _)
    | true =>
        cases frame with
        | none => exact absurd (silent_returned returned).1 (cameraError_ne_ok _ _ _)
        | some frame =>
            obtain ⟨returned, _⟩ := silent_returned returned
            obtain ⟨_, made, returned⟩ := bind_eq_ok returned
            obtain ⟨isWritten, written, returned⟩ := bind_eq_ok returned
            cases isWritten with
            | false => cases returned
            | true =>
                cases returned
                exact ⟨rfl, read, made, written⟩

/-- A capture that returns was enabled, and its file holds the frame of the camera. -/
theorem captureLiveCameraFrame_returned {enabled : Bool}
    (returned : (captureLiveCameraFrame cameras host cameraIndex outputPath enabled mode).after
      past = (.ok captured, later)) :
    enabled = true ∧ captured.path = outputPath ∧
      WroteFrame cameras host past cameraIndex mode outputPath captured.frame := by
  unfold captureLiveCameraFrame at returned
  by_cases disabled : enabled = false
  · rw [if_pos disabled] at returned
    cases (silent_returned returned).1
  · rw [if_neg disabled] at returned
    obtain ⟨_, _, required, returned⟩ := bind_returned returned
    obtain ⟨_, same⟩ := silent_returned required
    rw [same] at returned
    obtain ⟨_, _, opened, returned⟩ := bind_returned returned
    obtain ⟨_, rfl⟩ := act_returned opened
    obtain ⟨_, wrote⟩ := ensure_returned returned
    obtain ⟨isPath, read, directory, written⟩ := writeFrame_returned wrote
    rw [List.append_assoc] at read
    exact ⟨Bool.not_eq_false _ ▸ disabled, isPath, read, directory, written⟩

variable [Min K] [Max K] [Sub K] [One K]

/-- A probe that returns has looked for the marker behind the frame that it wrote. -/
theorem runLiveCameraMarkerProbe_returned {taskId objectId outputRoot : PyStr} {enabled : Bool}
    {sequence : ℤ} {correlationId : Option PyStr} {occurredAt : Option DateTime}
    {event : EventEnvelope K}
    (returned : (runLiveCameraMarkerProbe cameras host taskId objectId cameraIndex enabled
      outputRoot sequence correlationId occurredAt).after past = (.ok event, later)) :
    enabled = true ∧ ∃ frame,
      WroteFrame cameras host past cameraIndex liveCameraMode (framePath outputRoot) frame ∧
      detectInFrame host [(framePath outputRoot, frame)] taskId objectId outputRoot sequence
        correlationId occurredAt = .ok event := by
  unfold runLiveCameraMarkerProbe at returned
  by_cases disabled : enabled = false
  · rw [if_pos disabled] at returned
    cases (silent_returned returned).1
  · rw [if_neg disabled] at returned
    obtain ⟨captured, _, isCaptured, returned⟩ := bind_returned returned
    obtain ⟨isEnabled, isPath, wrote⟩ := captureLiveCameraFrame_returned isCaptured
    obtain ⟨detected, _⟩ := silent_returned returned
    rw [isPath] at detected
    exact ⟨isEnabled, captured.frame, wrote, detected⟩

end Written

end Robot

end ValeraControlTower

import ValeraControlTower.Robot.LiveCamera
import ValeraControlTower.VrGateway.Wire

/-!
# `scripts/probe_cameras.py`

The cameras of the robot are probed one after the other.  An exception of a probe is noted in its
result, so that the next camera is probed all the same; none is left open.
-/

namespace ValeraControlTower

open Unicode Machine Traced Robot

namespace Scripts

/-! ## Profiles -/

structure CameraProfile where
  name : PyStr
  path : PyStr
  width : ℤ
  height : ℤ
  fps : ℤ
  fourcc : PyStr

/-- `DEFAULT_PROFILES`. -/
def defaultProfiles : List CameraProfile :=
  [{ name := py "innomaker"
     path := py "/dev/v4l/by-id/usb-Innomaker_Innomaker-U20CAM-1080p-S1_SN0001-video-index0"
     width := 1920
     height := 1080
     fps := 30
     fourcc := py "MJPG" },
   { name := py "astra_pro"
     path := py ("/dev/v4l/by-id/" ++
      "usb-Astra_Pro_HD_Camera_Astra_Pro_HD_Camera-video-index0")
     width := 1280
     height := 720
     fps := 30
     fourcc := py "MJPG" }]

/-- `text.strip()`. -/
def strip (text : PyStr) : PyStr :=
  ((text.dropWhile Wire.isSpace).reverse.dropWhile Wire.isSpace).reverse

/-- The names in the arguments, which may be lists of names. -/
def requestedNames (cameraArgs : List PyStr) : List PyStr :=
  cameraArgs.flatMap fun arg =>
    ((arg.splitOn (CodePoint.ofChar ',')).map strip).filter (· ≠ [])

/-- `DEFAULT_PROFILES.get(name)`. -/
def profileOf (name : PyStr) : Option CameraProfile :=
  defaultProfiles.find? fun profile => profile.name = name

/-- The profiles of names, or the `ValueError` about the first one that is unknown. -/
def selectEach : List PyStr → Except Exception (List CameraProfile)
  | [] => .ok []
  | name :: names =>
      match profileOf name with
      | none => .error (.valueError (py "unknown camera '" ++ name ++
          py "'; valid choices: astra_pro, innomaker"))
      | some profile => do
          let profiles ← selectEach names
          return profile :: profiles

/-- The first profile of each name. -/
def deduped (seen : List PyStr) : List CameraProfile → List CameraProfile
  | [] => []
  | profile :: profiles =>
      if profile.name ∈ seen then deduped seen profiles
      else profile :: deduped (seen ++ [profile.name]) profiles

/-- `select_profiles`. -/
def selectProfiles (cameraArgs : List PyStr) : Except Exception (List CameraProfile) :=
  if cameraArgs = [] then .ok defaultProfiles
  else do
    let selected ← selectEach (requestedNames cameraArgs)
    return deduped [] selected

/-! ## One camera -/

/-- What a probe calls outside of the repository, apart from the cameras. -/
structure ProbeHost (Image : Type) where
  hasOpenCv : Bool
  /-- `device.exists()`. -/
  deviceExists : PyStr → Except Exception Bool
  /-- `str(device.resolve())`. -/
  resolveDevice : PyStr → Except Exception PyStr
  /-- `path.parent.mkdir(parents=True, exist_ok=True)`. -/
  makeParent : PyStr → Except Exception Unit
  imwrite : PyStr → Image → Except Exception Bool
  /-- `str(exception)`. -/
  str : Exception → PyStr

/-- The dictionary `probe_camera` returns; a key that is not set is none. -/
structure ProbeResult where
  profile : CameraProfile
  ok : Bool := false
  framePath : Option PyStr := none
  error : Option PyStr := none
  resolvedPath : Option PyStr := none
  actualWidth : Option ℤ := none
  actualHeight : Option ℤ := none
  actualFps : Option ℤ := none

def CameraProfile.mode (profile : CameraProfile) : CaptureMode :=
  ⟨profile.width, profile.height, profile.fps, profile.fourcc⟩

variable {Image α : Type}

/-- What the `except` clause of `probe_camera` makes of the result as it is then. -/
def noted (host : ProbeHost Image) (result : ProbeResult) (exception : Exception) :
    CameraProgram PyStr ProbeResult :=
  pure { result with
    error := some (py "cv2 error for " ++ result.profile.path ++ py ": " ++ host.str exception) }

/-- A step of the `try` of `probe_camera`. -/
def step (host : ProbeHost Image) (result : ProbeResult) (program : CameraProgram PyStr α)
    (next : α → CameraProgram PyStr ProbeResult) : CameraProgram PyStr ProbeResult :=
  attempt program next (noted host result)

/-- The mode the camera says it is in, behind a frame that is written. -/
def readMode (cameras : Cameras PyStr Image) (host : ProbeHost Image) (result : ProbeResult) :
    CameraProgram PyStr ProbeResult :=
  step host result (useCapture .getFrameWidth (cameras.get .getFrameWidth)) fun width =>
    let result := { result with actualWidth := some width }
    step host result (useCapture .getFrameHeight (cameras.get .getFrameHeight)) fun height =>
      let result := { result with actualHeight := some height }
      step host result (useCapture .getFps (cameras.get .getFps)) fun fps =>
        pure { result with actualFps := some fps }

/-- What `probe_camera` does with an open camera. -/
def probeOpened (cameras : Cameras PyStr Image) (host : ProbeHost Image) (outputPath : PyStr)
    (result : ProbeResult) (resolved : PyStr) : CameraProgram PyStr ProbeResult :=
  let path := result.profile.path
  step host result (useCapture .isOpened cameras.isOpened) fun isOpened =>
    if isOpened = false then
      pure { result with
        error := some (py "could not open " ++ path ++ py " (resolved: " ++ resolved ++ py ")") }
    else step host result (configure cameras result.profile.mode) fun _ =>
      step host result (useCapture .read cameras.read) fun (ok, frame) =>
        match ok, frame with
        | true, some frame =>
            step host result (silent (host.makeParent outputPath)) fun _ =>
              step host result (silent (host.imwrite outputPath frame)) fun written =>
                if written = false then
                  pure { result with
                    error := some (py "failed to write frame to " ++ outputPath) }
                else
                  readMode cameras host { result with ok := true, framePath := some outputPath }
        | _, _ => pure { result with error := some (py "could not read one frame from " ++ path) }

/-- `probe_camera`. -/
def probeCamera (cameras : Cameras PyStr Image) (host : ProbeHost Image) (profile : CameraProfile)
    (outputPath : PyStr) : CameraProgram PyStr ProbeResult := do
  if host.hasOpenCv = false then
    throw
      (.runtimeError (py "OpenCV is required for camera probing. Install requirements-dev.txt."))
  let found ← silent (host.deviceExists profile.path)
  if found = false then
    return {
      profile
      error := some (py "device path does not exist: " ++ profile.path) }
  let resolved ← silent (host.resolveDevice profile.path)
  let result : ProbeResult := { profile, resolvedPath := some resolved }
  step host result (openCapture cameras resolved) fun _ =>
    ensure (probeOpened cameras host outputPath result resolved) (release cameras)

/-! ## All cameras -/

open LexicalPath in
/-- `output_dir / f"{profile.name}.jpg"`. -/
def frameFile (outputDir : PyStr) (profile : CameraProfile) : PyStr :=
  (parse posix (join posix outputDir (profile.name ++ py ".jpg"))).str posix

/-- The loop of `main`. -/
def probeEach (cameras : Cameras PyStr Image) (host : ProbeHost Image) (outputDir : PyStr) :
    List CameraProfile → CameraProgram PyStr (List ProbeResult)
  | [] => pure []
  | profile :: profiles => do
      let result ← probeCamera cameras host profile (frameFile outputDir profile)
      let results ← probeEach cameras host outputDir profiles
      return result :: results

/-- `main`, without what it prints and writes: the exit code and the results. -/
def probeCameras (cameras : Cameras PyStr Image) (host : ProbeHost Image) (outputDir : PyStr)
    (cameraArgs : List PyStr) : CameraProgram PyStr (ℕ × List ProbeResult) :=
  match selectProfiles cameraArgs with
  | .error _ => pure (2, [])
  | .ok profiles => do
      let results ← probeEach cameras host outputDir profiles
      return (if results.all (·.ok) then 0 else 1, results)

/-! ## What a probe leaves behind -/

section Probed

variable {cameras : Cameras PyStr Image} {host : ProbeHost Image} {profile : CameraProfile}
  {outputPath resolved : PyStr} {result : ProbeResult} {tried : List PyStr} {device : PyStr}

/-- What the result of a probe says: either the probe failed and says why, or a frame of the camera
is in its file.  Then an error is noted only if the camera did not tell its mode. -/
inductive Probed (cameras : Cameras PyStr Image) (host : ProbeHost Image) (outputPath : PyStr)
    (result : ProbeResult) : Prop where
  | failed (notOk : result.ok = false) (noFrame : result.framePath = none)
      (explained : result.error ≠ none)
  | wrote (past : List (CameraEvent PyStr)) (frame : Image) (isOk : result.ok = true)
      (isFile : result.framePath = some outputPath)
      (read : cameras.read past = .ok (true, some frame))
      (written : host.imwrite outputPath frame = .ok true)
      (told : result.error = none ↔ result.actualFps ≠ none)

/-- A probe keeps the camera, and returns a result about the profile. -/
def KeepsCamera (cameras : Cameras PyStr Image) (host : ProbeHost Image) (profile : CameraProfile)
    (outputPath : PyStr) (log : CameraLog PyStr) (outcome : Except Exception ProbeResult)
    (after : CameraLog PyStr) : Prop :=
  after = log ∧ ∃ result, outcome = .ok result ∧ result.profile = profile ∧
    Probed cameras host outputPath result

/-- A step of a probe: what it raises is noted, and the probe ends. -/
theorem meets_step {log : CameraLog PyStr} {program : CameraProgram PyStr α}
    {next : α → CameraProgram PyStr ProbeResult} {answered : α → Prop}
    (first : Meets cameraMonitor log program fun outcome after => after = log ∧
      ∀ value, outcome = .ok value → answered value)
    (isProfile : result.profile = profile)
    (noted : ∀ message, Probed cameras host outputPath { result with error := some message })
    (goesOn : ∀ value, answered value → Meets cameraMonitor log (next value)
      (KeepsCamera cameras host profile outputPath log)) :
    Meets cameraMonitor log (step host result program next)
      (KeepsCamera cameras host profile outputPath log) := by
  apply first.attempt
  · intro value middle ⟨kept, answers⟩
    rw [kept]
    exact goesOn value (answers value rfl)
  · intro exception middle ⟨kept, _⟩
    rw [kept]
    exact .pure ⟨rfl, _, rfl, isProfile, noted _⟩

/-- A call on the camera. -/
theorem meets_use (use : CameraUse)
    (answer : List (CameraEvent PyStr) → Except Exception α) :
    Meets cameraMonitor ⟨tried, some device⟩ (useCapture use answer) fun outcome after =>
      after = ⟨tried, some device⟩ ∧
        ∀ value, outcome = .ok value → ∃ past, answer past = .ok value := by
  apply (meets_useCapture use answer).weaken
  intro outcome after ⟨kept, past, answered⟩
  exact ⟨kept, fun value returned => ⟨past, answered.symm.trans returned⟩⟩

theorem meets_silent {log : CameraLog PyStr} (outcome : Except Exception α) :
    Meets cameraMonitor log (silent outcome) fun outcome' after =>
      after = log ∧ ∀ value, outcome' = .ok value → outcome = .ok value :=
  .silent ⟨rfl, fun _ => id⟩

theorem meets_readMode (isProfile : result.profile = profile) (isOk : result.ok = true)
    (isFile : result.framePath = some outputPath) (noError : result.error = none)
    (noFps : result.actualFps = none) {past : List (CameraEvent PyStr)} {frame : Image}
    (read : cameras.read past = .ok (true, some frame))
    (written : host.imwrite outputPath frame = .ok true) :
    Meets cameraMonitor ⟨tried, some device⟩ (readMode cameras host result)
      (KeepsCamera cameras host profile outputPath ⟨tried, some device⟩) := by
  apply meets_step (meets_use _ _) isProfile
  · exact fun message => .wrote past frame isOk isFile read written (by simp [noFps])
  · intro width _
    dsimp only
    refine meets_step (meets_use _ _) isProfile ?_ ?_
    · exact fun message => .wrote past frame isOk isFile read written (by simp [noFps])
    · intro height _
      refine meets_step (meets_use _ _) isProfile ?_ ?_
      · exact fun message => .wrote past frame isOk isFile read written (by simp [noFps])
      · intro fps _
        refine .pure ⟨rfl, _, rfl, isProfile, ?_⟩
        exact .wrote past frame isOk isFile read written (by simp [noError])

theorem meets_probeOpened (isProfile : result.profile = profile) (notOk : result.ok = false)
    (noFrame : result.framePath = none) (noError : result.error = none)
    (noFps : result.actualFps = none) :
    Meets cameraMonitor ⟨tried, some device⟩ (probeOpened cameras host outputPath result resolved)
      (KeepsCamera cameras host profile outputPath ⟨tried, some device⟩) := by
  have noted (message : PyStr) :
      Probed cameras host outputPath { result with error := some message } :=
    .failed notOk noFrame (Option.some_ne_none message)
  have fails (message : PyStr) : Meets cameraMonitor ⟨tried, some device⟩
      (pure { result with error := some message })
      (KeepsCamera cameras host profile outputPath ⟨tried, some device⟩) :=
    .pure ⟨rfl, _, rfl, isProfile, noted message⟩
  apply meets_step (meets_use _ _) isProfile noted
  intro isOpened _
  by_cases closed : isOpened = false
  · rw [if_pos closed]
    exact fails _
  · rw [if_neg closed]
    have configured : Meets cameraMonitor ⟨tried, some device⟩
        (configure cameras result.profile.mode) fun outcome after =>
          after = ⟨tried, some device⟩ ∧ ∀ value, outcome = .ok value → True :=
      (meets_configure _).weaken fun _ _ kept => ⟨kept, fun _ _ => trivial⟩
    apply meets_step configured isProfile noted
    intro _ _
    apply meets_step (meets_use _ _) isProfile noted
    intro ⟨ok, frame⟩ ⟨past, read⟩
    cases ok with
    | false => exact fails _
    | true =>
        cases frame with
        | none => exact fails _
        | some frame =>
            apply meets_step (meets_silent _) isProfile noted
            intro _ _
            apply meets_step (meets_silent _) isProfile noted
            intro written isWritten
            by_cases unwritten : written = false
            · rw [if_pos unwritten]
              exact fails _
            · rw [if_neg unwritten]
              rw [Bool.not_eq_false] at unwritten
              rw [unwritten] at isWritten
              exact meets_readMode isProfile rfl rfl noError noFps read isWritten

/-- The device a probe tries to open. -/
def triedDevice (host : ProbeHost Image) (profile : CameraProfile) : List PyStr :=
  match host.deviceExists profile.path, host.resolveDevice profile.path with
  | .ok true, .ok resolved => [resolved]
  | _, _ => []

/-- A program holds no camera at its end; it has tried the devices in turn, up to some of them, and
all of them if it returns. -/
def TriesInTurn (devices tried : List PyStr) (returned : α → Prop) (outcome : Except Exception α)
    (after : CameraLog PyStr) : Prop :=
  ∃ opened, opened <+: devices ∧ after = ⟨tried ++ opened, none⟩ ∧
    ∀ value, outcome = .ok value → opened = devices ∧ returned value

theorem triesInTurn_raised (devices : List PyStr) {returned : α → Prop} (exception : Exception) :
    TriesInTurn devices tried returned (.error exception) ⟨tried, none⟩ :=
  ⟨[], List.nil_prefix, by rw [List.append_nil], nofun⟩

/-- A probe of one camera. -/
theorem meets_probeCamera :
    Meets cameraMonitor ⟨tried, none⟩ (probeCamera cameras host profile outputPath)
      (TriesInTurn (triedDevice host profile) tried fun result =>
        result.profile = profile ∧ Probed cameras host outputPath result) := by
  unfold probeCamera triedDevice
  by_cases noCv : host.hasOpenCv = false
  · rw [if_pos noCv]
    exact .throw (triesInTurn_raised _ _)
  · rw [if_neg noCv]
    apply Meets.silent_bind
    · exact fun exception _ => triesInTurn_raised _ _
    · intro found isFound
      rw [isFound]
      cases found with
      | false =>
          refine .pure ⟨[], List.nil_prefix, by rw [List.append_nil], ?_⟩
          intro result returned
          cases returned
          exact ⟨rfl, rfl, .failed rfl rfl (Option.some_ne_none _)⟩
      | true =>
          apply Meets.silent_bind
          · exact fun exception _ => triesInTurn_raised _ _
          · intro resolved isResolved
            rw [isResolved]
            apply meets_openCapture.attempt
            · intro _ middle opened
              rw [opened]
              apply (meets_probeOpened rfl rfl rfl rfl rfl).ensure
              intro outcome middle ⟨kept, result, returned, isProfile, probed⟩
              rw [kept, returned]
              apply meets_release.weaken
              intro cleaned after released
              refine ⟨[resolved], List.prefix_refl _, released, ?_⟩
              intro other settled
              cases cleaned with
              | error exception => cases settled
              | ok _ =>
                  cases settled
                  exact ⟨rfl, isProfile, probed⟩
            · intro exception middle opened
              rw [opened]
              refine .pure ⟨[resolved], List.prefix_refl _, rfl, ?_⟩
              intro result returned
              cases returned
              exact ⟨rfl, rfl, .failed rfl rfl (Option.some_ne_none _)⟩

/-- The results of the probes of some cameras. -/
def ProbedEach (cameras : Cameras PyStr Image) (host : ProbeHost Image) (outputDir : PyStr) :
    List CameraProfile → List ProbeResult → Prop :=
  List.Forall₂ fun profile result => result.profile = profile ∧
    Probed cameras host (frameFile outputDir profile) result

/-- One camera after the other. -/
theorem meets_probeEach (outputDir : PyStr) (profiles : List CameraProfile) :
    Meets cameraMonitor ⟨tried, none⟩ (probeEach cameras host outputDir profiles)
      (TriesInTurn (profiles.flatMap (triedDevice host)) tried
        (ProbedEach cameras host outputDir profiles)) := by
  induction profiles generalizing tried with
  | nil =>
      refine .pure ⟨[], List.nil_prefix, by rw [List.append_nil], ?_⟩
      intro results returned
      cases returned
      exact ⟨rfl, .nil⟩
  | cons profile profiles inductionHypothesis =>
      rw [List.flatMap_cons]
      apply meets_probeCamera.bind
      · intro exception middle ⟨opened, started, isMiddle, _⟩
        exact ⟨opened, started.trans (List.prefix_append _ _), isMiddle, nofun⟩
      · intro result middle ⟨opened, _, isMiddle, returned⟩
        obtain ⟨rfl, first⟩ := returned result rfl
        rw [isMiddle]
        apply inductionHypothesis.bind
        · intro exception after ⟨later, started, isAfter, _⟩
          refine ⟨triedDevice host profile ++ later, ?_, ?_, nofun⟩
          · exact (List.prefix_append_right_inj _).mpr started
          · rw [isAfter, List.append_assoc]
        · intro results after ⟨later, _, isAfter, returnedLater⟩
          obtain ⟨rfl, others⟩ := returnedLater results rfl
          rw [isAfter, List.append_assoc]
          refine .pure ⟨_, List.prefix_refl _, rfl, ?_⟩
          intro both isBoth
          cases isBoth
          exact ⟨rfl, .cons first others⟩

end Probed

/-! ## The selection -/

section Selection

variable {name : PyStr} {names seen : List PyStr} {profile : CameraProfile}
  {profiles : List CameraProfile} {cameraArgs : List PyStr}

/-- The profile is one of those that the arguments ask for. -/
def Selected (cameraArgs : List PyStr) (profile : CameraProfile) : Prop :=
  profile ∈ defaultProfiles ∧ (cameraArgs = [] ∨ profile.name ∈ requestedNames cameraArgs)

theorem nodup_defaultProfiles : (defaultProfiles.map (·.name)).Nodup := by decide

/-- No two cameras share a name. -/
theorem eq_of_name {other : CameraProfile} (known : profile ∈ defaultProfiles)
    (isOther : other ∈ defaultProfiles) (same : profile.name = other.name) : profile = other :=
  List.inj_on_of_nodup_map nodup_defaultProfiles known isOther same

theorem profileOf_eq_some :
    profileOf name = some profile ↔ profile ∈ defaultProfiles ∧ profile.name = name := by
  unfold profileOf
  constructor
  · intro found
    exact ⟨List.mem_of_find?_eq_some found, by simpa using List.find?_some found⟩
  · intro ⟨known, isName⟩
    cases found : defaultProfiles.find? fun profile => profile.name = name with
    | none =>
        have missing := List.find?_eq_none.mp found profile known
        simp [isName] at missing
    | some other =>
        have isOther : other.name = name := by simpa using List.find?_some found
        rw [eq_of_name (List.mem_of_find?_eq_some found) known (isOther.trans isName.symm)]

/-- The names of no camera. -/
def Unknown (name : PyStr) : Prop := name ∉ defaultProfiles.map (·.name)

theorem profileOf_eq_none : profileOf name = none ↔ Unknown name := by
  unfold profileOf Unknown
  rw [List.find?_eq_none, List.mem_map]
  constructor
  · intro missing known
    obtain ⟨profile, inside, isName⟩ := known
    simpa [isName] using missing profile inside
  · intro unknown profile inside isName
    exact unknown ⟨profile, inside, by simpa using isName⟩

theorem selectEach_eq_error_iff :
    (∃ exception, selectEach names = .error exception) ↔ ∃ name ∈ names, Unknown name := by
  induction names with
  | nil => exact iff_of_false nofun nofun
  | cons name names inductionHypothesis =>
      unfold selectEach
      rw [List.exists_mem_cons_iff, ← inductionHypothesis, ← profileOf_eq_none]
      cases profileOf name with
      | none => exact iff_of_true ⟨_, rfl⟩ (.inl rfl)
      | some profile =>
          rw [or_iff_right (Option.some_ne_none profile)]
          cases selectEach names with
          | error exception => exact iff_of_true ⟨exception, rfl⟩ ⟨exception, rfl⟩
          | ok profiles => exact iff_of_false nofun nofun

theorem mem_of_selectEach (selected : selectEach names = .ok profiles) :
    profile ∈ profiles ↔ profile ∈ defaultProfiles ∧ profile.name ∈ names := by
  induction names generalizing profiles with
  | nil =>
      cases selected
      simp
  | cons name names inductionHypothesis =>
      unfold selectEach at selected
      cases known : profileOf name with
      | none =>
          rw [known] at selected
          cases selected
      | some first =>
          rw [known] at selected
          obtain ⟨others, isOthers, isAll⟩ := bind_eq_ok selected
          cases isAll
          obtain ⟨isKnown, isFirst⟩ := profileOf_eq_some.mp known
          rw [List.mem_cons, List.mem_cons, inductionHypothesis isOthers, ← isFirst]
          constructor
          · intro
            | .inl same =>
                rw [same]
                exact ⟨isKnown, .inl rfl⟩
            | .inr ⟨inside, later⟩ => exact ⟨inside, .inr later⟩
          · intro
            | ⟨inside, .inl same⟩ => exact .inl (eq_of_name inside isKnown same)
            | ⟨inside, .inr later⟩ => exact .inr ⟨inside, later⟩

theorem mem_deduped : profile ∈ deduped seen profiles → profile ∈ profiles := by
  induction profiles generalizing seen with
  | nil => exact id
  | cons first profiles inductionHypothesis =>
      unfold deduped
      split
      · exact fun inside => List.mem_cons_of_mem _ (inductionHypothesis inside)
      · intro inside
        rcases List.mem_cons.mp inside with rfl | later
        · exact List.mem_cons_self
        · exact List.mem_cons_of_mem _ (inductionHypothesis later)

/-- No name comes twice, and none of the names that were seen. -/
theorem nodup_deduped : ((deduped seen profiles).map (·.name)).Nodup ∧
    ∀ profile ∈ deduped seen profiles, profile.name ∉ seen := by
  induction profiles generalizing seen with
  | nil => exact ⟨List.nodup_nil, nofun⟩
  | cons first profiles inductionHypothesis =>
      unfold deduped
      split
      · exact inductionHypothesis
      · next new =>
          obtain ⟨distinct, fresh⟩ := @inductionHypothesis (seen ++ [first.name])
          constructor
          · rw [List.map_cons, List.nodup_cons]
            refine ⟨fun again => ?_, distinct⟩
            obtain ⟨other, inside, same⟩ := List.mem_map.mp again
            apply fresh other inside
            rw [same]
            exact List.mem_append_right _ (List.mem_singleton_self _)
          · intro profile inside
            rcases List.mem_cons.mp inside with rfl | later
            · exact new
            · exact fun known => fresh profile later (List.mem_append_left _ known)

/-- Of every name that was not seen, a profile stays. -/
theorem name_mem_deduped (inside : profile ∈ profiles) (new : profile.name ∉ seen) :
    profile.name ∈ (deduped seen profiles).map (·.name) := by
  induction profiles generalizing seen with
  | nil => cases inside
  | cons first profiles inductionHypothesis =>
      unfold deduped
      rcases List.mem_cons.mp inside with rfl | later
      · rw [if_neg new]
        exact List.mem_cons_self
      · split
        · exact inductionHypothesis later new
        · by_cases same : profile.name = first.name
          · rw [same]
            exact List.mem_cons_self
          · apply List.mem_cons_of_mem
            apply inductionHypothesis later
            rw [List.mem_append, List.mem_singleton, not_or]
            exact ⟨new, same⟩

/-- Every camera that is asked for is selected once. -/
theorem selectProfiles_eq_ok (selected : selectProfiles cameraArgs = .ok profiles) :
    (∀ profile, profile ∈ profiles ↔ Selected cameraArgs profile) ∧
      (profiles.map (·.name)).Nodup := by
  unfold selectProfiles at selected
  by_cases noArgs : cameraArgs = []
  · rw [if_pos noArgs] at selected
    cases selected
    exact ⟨fun profile => (and_iff_left (.inl noArgs)).symm, nodup_defaultProfiles⟩
  · rw [if_neg noArgs] at selected
    obtain ⟨named, isNamed, isAll⟩ := bind_eq_ok selected
    cases isAll
    refine ⟨fun profile => ?_, nodup_deduped.1⟩
    have asked : Selected cameraArgs profile ↔ profile ∈ named := by
      rw [mem_of_selectEach isNamed, Selected, or_iff_right noArgs]
    rw [asked]
    refine ⟨mem_deduped, fun inside => ?_⟩
    obtain ⟨other, isOther, same⟩ := List.mem_map.mp (name_mem_deduped inside List.not_mem_nil)
    have known := (mem_of_selectEach isNamed).mp inside
    have knownOther := (mem_of_selectEach isNamed).mp (mem_deduped isOther)
    rw [eq_of_name known.1 knownOther.1 same.symm]
    exact isOther

/-- The selection fails on a name that is unknown, and only then. -/
theorem selectProfiles_eq_error_iff :
    (∃ exception, selectProfiles cameraArgs = .error exception) ↔
      ∃ name ∈ requestedNames cameraArgs, Unknown name := by
  unfold selectProfiles
  by_cases noArgs : cameraArgs = []
  · rw [if_pos noArgs, noArgs]
    exact iff_of_false nofun nofun
  · rw [if_neg noArgs, ← selectEach_eq_error_iff]
    cases selectEach (requestedNames cameraArgs) with
    | error exception => exact iff_of_true ⟨exception, rfl⟩ ⟨exception, rfl⟩
    | ok profiles => exact iff_of_false nofun nofun

end Selection

/-- Whatever the cameras, the file system and OpenCV do: an unknown name stops the script in front
of all cameras, else every camera that is asked for is selected once; the selected cameras are
opened one at a time, in turn, and each is released before the next; none is held at the end.  If
the script returns, every one of them has a result, and the exit code tells whether all of them
are good. -/
theorem released_of_probes (cameras : Cameras PyStr Image) (host : ProbeHost Image)
    (outputDir : PyStr) (cameraArgs : List PyStr) :
    let ran := (probeCameras cameras host outputDir cameraArgs).after []
    ((∃ exception, selectProfiles cameraArgs = .error exception) ↔
      ∃ name ∈ requestedNames cameraArgs, Unknown name) ∧
    match selectProfiles cameraArgs with
    | .error _ => ran = (.ok (2, []), [])
    | .ok profiles =>
        (∀ profile, profile ∈ profiles ↔ Selected cameraArgs profile) ∧
        (profiles.map (·.name)).Nodup ∧
        ∃ opened, opened <+: profiles.flatMap (triedDevice host) ∧
          cameraMonitor.hear ⟨[], none⟩ ran.2 = some ⟨opened, none⟩ ∧
          ∀ code results, ran.1 = .ok (code, results) →
            opened = profiles.flatMap (triedDevice host) ∧
            ProbedEach cameras host outputDir profiles results ∧
            (code = 0 ↔ ∀ result ∈ results, result.ok = true) := by
  refine ⟨selectProfiles_eq_error_iff, ?_⟩
  cases selected : selectProfiles cameraArgs with
  | error exception =>
      dsimp only
      unfold probeCameras
      rw [selected]
      rfl
  | ok profiles =>
      have meets : Meets cameraMonitor ⟨[], none⟩ (probeCameras cameras host outputDir cameraArgs)
          (TriesInTurn (profiles.flatMap (triedDevice host)) [] fun (code, results) =>
            ProbedEach cameras host outputDir profiles results ∧
              (code = 0 ↔ ∀ result ∈ results, result.ok = true)) := by
        unfold probeCameras
        rw [selected]
        apply (meets_probeEach outputDir profiles).bind
        · intro exception middle ⟨opened, started, isMiddle, _⟩
          exact ⟨opened, started, isMiddle, nofun⟩
        · intro results middle ⟨opened, started, isMiddle, returned⟩
          refine .pure ⟨opened, started, isMiddle, ?_⟩
          intro value isValue
          cases isValue
          obtain ⟨all, probed⟩ := returned results rfl
          refine ⟨all, probed, ?_⟩
          rw [← List.all_eq_true]
          cases results.all (·.ok) with
          | true => exact iff_of_true rfl rfl
          | false => exact iff_of_false nofun nofun
      obtain ⟨asked, distinct⟩ := selectProfiles_eq_ok selected
      obtain ⟨events, after, grown, heard, opened, started, released, returned⟩ := meets []
      rw [List.nil_append] at grown released
      refine ⟨asked, distinct, opened, started, ?_, ?_⟩
      · rw [grown, heard, released]
      · intro code results isResult
        obtain ⟨all, probed, isCode⟩ := returned (code, results) isResult
        exact ⟨all, probed, isCode⟩

end Scripts

end ValeraControlTower

import ValeraControlTower.VrGateway.Messages

/-!
# `robot/vr_gateway/neck.py`

The relative-angle computation and the filter, gain, rate-limit and clamp
pipeline.  Arithmetic is exact over `K`; the transcendental functions are those of
the `FloatMath` parameter.
-/

namespace ValeraControlTower

variable {K : Type} [Field K] [LinearOrder K]

structure NeckControlConfig (K : Type) where
  centerPanDegrees : K
  centerTiltDegrees : K
  initialPanDegrees : K
  initialTiltDegrees : K
  panGain : K
  tiltGain : K
  filterTimeConstantSeconds : K
  maxPanRateDegreesPerSecond : K
  maxTiltRateDegreesPerSecond : K
  minPanDegrees : K
  maxPanDegrees : K
  minTiltDegrees : K
  maxTiltDegrees : K

/-- `__post_init__`; that the fields are finite is part of their type. -/
def NeckControlConfig.postInit (config : NeckControlConfig K) : Except PyException Unit :=
  if config.minPanDegrees > config.maxPanDegrees then .error .valueError
  else if config.minTiltDegrees > config.maxTiltDegrees then .error .valueError
  else if ¬(config.minPanDegrees ≤ config.initialPanDegrees ∧
      config.initialPanDegrees ≤ config.maxPanDegrees) then .error .valueError
  else if ¬(config.minTiltDegrees ≤ config.initialTiltDegrees ∧
      config.initialTiltDegrees ≤ config.maxTiltDegrees) then .error .valueError
  else if config.filterTimeConstantSeconds < 0 then .error .valueError
  else if config.maxPanRateDegreesPerSecond ≤ 0 then .error .valueError
  else if config.maxTiltRateDegreesPerSecond ≤ 0 then .error .valueError
  else .ok ()

/-- A configuration that could be constructed. -/
structure ValidNeckControlConfig (K : Type) [Field K] [LinearOrder K]
    extends NeckControlConfig K where
  constructed : toNeckControlConfig.postInit = .ok ()

@[ext]
structure NeckTarget (K : Type) where
  panDegrees : K
  tiltDegrees : K
  deriving DecidableEq

/-! ## Quaternion arithmetic -/

variable {M : FloatMath K}

/-- `_inverse`. -/
def inverse (value : Quaternion M) : Except PyException (Quaternion M) :=
  let normSquared := value.x * value.x + value.y * value.y + value.z * value.z + value.w * value.w
  Quaternion.new M (-value.x / normSquared) (-value.y / normSquared) (-value.z / normSquared)
    (value.w / normSquared)

/-- `_multiply`. -/
def multiply (left right : Quaternion M) : Except PyException (Quaternion M) :=
  Quaternion.new M
    (left.w * right.x + left.x * right.w + left.y * right.z - left.z * right.y)
    (left.w * right.y - left.x * right.z + left.y * right.w + left.z * right.x)
    (left.w * right.z + left.x * right.y - left.y * right.x + left.z * right.w)
    (left.w * right.w - left.x * right.x - left.y * right.y - left.z * right.z)

/-- `_rotate_forward`. -/
def rotateForward (value : Quaternion M) : Except PyException (K × K × K) := do
  let forward ← Quaternion.new M 0 0 (-1) 0
  let rotated ← multiply (← multiply value forward) (← inverse value)
  return (rotated.x, rotated.y, rotated.z)

/-- `_relative_angles_degrees`. -/
def relativeAnglesDegrees (reference orientation : Quaternion M) :
    Except PyException (K × K) := do
  let relative ← multiply (← inverse reference) orientation
  let (forwardX, forwardY, forwardZ) ← rotateForward relative
  let yawRadians := M.atan2 (-forwardX) (-forwardZ)
  let pitchRadians := M.atan2 forwardY (M.hypot [forwardX, forwardZ])
  return (M.degrees yawRadians, M.degrees pitchRadians)

/-! ## The pipeline -/

/-- `_filter_alpha`. -/
def filterAlpha (M : FloatMath K) (dtSeconds timeConstantSeconds : K) : K :=
  if timeConstantSeconds = 0 then 1 else 1 - M.exp (-dtSeconds / timeConstantSeconds)

/-- `_clamp`. -/
def clamp (value minimum maximum : K) : K := min maximum (max minimum value)

/-- `_rate_limit`. -/
def rateLimit (requested previous maximumDelta : K) : K :=
  clamp requested (previous - maximumDelta) (previous + maximumDelta)

structure NeckController (M : FloatMath K) where
  config : ValidNeckControlConfig K
  reference : Quaternion M
  basePanDegrees : K
  baseTiltDegrees : K
  filteredYawDegrees : K
  filteredPitchDegrees : K
  lastUpdateNs : ℤ
  lastTarget : NeckTarget K

namespace NeckController

/-- `__init__`. -/
def new (M : FloatMath K) (config : ValidNeckControlConfig K) :
    Except PyException (NeckController M) := do
  let reference ← Quaternion.new M 0 0 0 1
  return {
    config
    reference
    basePanDegrees := config.centerPanDegrees
    baseTiltDegrees := config.centerTiltDegrees
    filteredYawDegrees := 0
    filteredPitchDegrees := 0
    lastUpdateNs := 0
    lastTarget := ⟨config.initialPanDegrees, config.initialTiltDegrees⟩ }

def recenter (controller : NeckController M) (orientation : Quaternion M) (nowNs : ℤ)
    (preserveTarget : Bool) : NeckController M :=
  let controller := { controller with
    reference := orientation
    filteredYawDegrees := 0
    filteredPitchDegrees := 0
    lastUpdateNs := nowNs }
  if preserveTarget then
    { controller with
      basePanDegrees := controller.lastTarget.panDegrees
      baseTiltDegrees := controller.lastTarget.tiltDegrees }
  else
    { controller with
      basePanDegrees := controller.config.centerPanDegrees
      baseTiltDegrees := controller.config.centerTiltDegrees
      lastTarget :=
        ⟨controller.config.initialPanDegrees, controller.config.initialTiltDegrees⟩ }

/-- Seconds since the last update, `max(0.0, (now_ns - last_update_ns) / 1e9)`. -/
def dtSeconds (controller : NeckController M) (nowNs : ℤ) : K :=
  max 0 (((nowNs - controller.lastUpdateNs : ℤ) : K) / 10 ^ 9)

/-- The rest of `update`, once the relative angles are known. -/
def advance (controller : NeckController M) (dtSeconds yawDegrees pitchDegrees : K) :
    NeckController M :=
  let config := controller.config
  let alpha := filterAlpha M dtSeconds config.filterTimeConstantSeconds
  let filteredYawDegrees := controller.filteredYawDegrees +
    alpha * (yawDegrees - controller.filteredYawDegrees)
  let filteredPitchDegrees := controller.filteredPitchDegrees +
    alpha * (pitchDegrees - controller.filteredPitchDegrees)
  let requestedPan := controller.basePanDegrees + config.panGain * filteredYawDegrees
  let requestedTilt := controller.baseTiltDegrees + config.tiltGain * filteredPitchDegrees
  let pan := rateLimit requestedPan controller.lastTarget.panDegrees
    (config.maxPanRateDegreesPerSecond * dtSeconds)
  let tilt := rateLimit requestedTilt controller.lastTarget.tiltDegrees
    (config.maxTiltRateDegreesPerSecond * dtSeconds)
  { controller with
    filteredYawDegrees
    filteredPitchDegrees
    lastTarget :=
      ⟨clamp pan config.minPanDegrees config.maxPanDegrees,
        clamp tilt config.minTiltDegrees config.maxTiltDegrees⟩ }

/-- `update`: the time stamp is written before the angles are computed, so it stays
written when computing them raises. -/
def update (controller : NeckController M) (orientation : Quaternion M) (nowNs : ℤ) :
    NeckController M × Except PyException (NeckTarget K) :=
  let dtSeconds := controller.dtSeconds nowNs
  let controller := { controller with lastUpdateNs := nowNs }
  match relativeAnglesDegrees controller.reference orientation with
  | .error exception => (controller, .error exception)
  | .ok (yawDegrees, pitchDegrees) =>
      let controller := controller.advance dtSeconds yawDegrees pitchDegrees
      (controller, .ok controller.lastTarget)

@[simp]
theorem update_lastUpdateNs (controller : NeckController M) (orientation : Quaternion M)
    (nowNs : ℤ) : (controller.update orientation nowNs).1.lastUpdateNs = nowNs := by
  unfold update
  dsimp only
  cases relativeAnglesDegrees controller.reference orientation <;> rfl

@[simp]
theorem update_config (controller : NeckController M) (orientation : Quaternion M)
    (nowNs : ℤ) : (controller.update orientation nowNs).1.config = controller.config := by
  unfold update
  dsimp only
  cases relativeAnglesDegrees controller.reference orientation <;> rfl

/-- An update that raises moves the time stamp alone. -/
theorem update_unfiltered {controller : NeckController M} {orientation : Quaternion M} {nowNs : ℤ}
    {exception : PyException}
    (angles : relativeAnglesDegrees controller.reference orientation = .error exception) :
    (controller.update orientation nowNs).1 = { controller with lastUpdateNs := nowNs } := by
  unfold update
  dsimp only
  rw [angles]

theorem update_error {controller : NeckController M} {orientation : Quaternion M} {nowNs : ℤ}
    {exception : PyException}
    (raised : (controller.update orientation nowNs).2 = .error exception) :
    (controller.update orientation nowNs).1 = { controller with lastUpdateNs := nowNs } := by
  cases angles : relativeAnglesDegrees controller.reference orientation with
  | error other => exact update_unfiltered angles
  | ok pair =>
      unfold update at raised
      dsimp only at raised
      rw [angles] at raised
      cases raised

theorem update_target {controller : NeckController M} {nowNs : ℤ} {orientation : Quaternion M}
    {target : NeckTarget K}
    (updated : (controller.update orientation nowNs).2 = .ok target) :
    (controller.update orientation nowNs).1.lastTarget = target := by
  unfold update at *
  dsimp only at *
  cases angles : relativeAnglesDegrees controller.reference orientation with
  | error exception =>
      rw [angles] at updated
      cases updated
  | ok pair =>
      rw [angles] at updated
      cases updated
      rfl

@[simp]
theorem recenter_config (controller : NeckController M) (orientation : Quaternion M)
    (nowNs : ℤ) (preserveTarget : Bool) :
    (controller.recenter orientation nowNs preserveTarget).config = controller.config := by
  unfold recenter
  split <;> rfl

@[simp]
theorem update_reference (controller : NeckController M) (orientation : Quaternion M)
    (nowNs : ℤ) : (controller.update orientation nowNs).1.reference = controller.reference := by
  unfold update
  dsimp only
  cases relativeAnglesDegrees controller.reference orientation <;> rfl

@[simp]
theorem recenter_reference (controller : NeckController M) (orientation : Quaternion M)
    (nowNs : ℤ) (preserveTarget : Bool) :
    (controller.recenter orientation nowNs preserveTarget).reference = orientation := by
  unfold recenter
  split <;> rfl

@[simp]
theorem recenter_lastUpdateNs (controller : NeckController M) (orientation : Quaternion M)
    (nowNs : ℤ) (preserveTarget : Bool) :
    (controller.recenter orientation nowNs preserveTarget).lastUpdateNs = nowNs := by
  unfold recenter
  split <;> rfl

end NeckController

end ValeraControlTower

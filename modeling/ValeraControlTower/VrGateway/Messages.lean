import ValeraControlTower.VrGateway.Python

/-!
# `robot/vr_gateway/messages.py`

The message models and the validation the gateway repeats at its runtime trust
boundary.  A value of one of the structures below has passed the `__post_init__`
of its class: the conditions checked there are its fields.
-/

namespace ValeraControlTower

def schemaVersion : PyStr := py "0.1"

def questLocalFrame : PyStr := py "quest_local"

theorem frame_exact (frame : { frame : PyStr // frame = questLocalFrame }) :
    frame.1 = questLocalFrame :=
  frame.2

namespace CommandName

def value : CommandName → PyStr
  | sessionStart => py "session.start"
  | sessionStop => py "session.stop"
  | modeSet => py "mode.set"
  | headPose => py "head.pose"
  | headRecenter => py "head.recenter"
  | emergencyStop => py "emergency_stop"

end CommandName

namespace GatewayState

def value : GatewayState → PyStr
  | idle => py "IDLE"
  | awaitingRecenter => py "AWAITING_RECENTER"
  | headActive => py "HEAD_ACTIVE"
  | safeStopped => py "SAFE_STOPPED"
  | estopLatched => py "ESTOP_LATCHED"

end GatewayState

namespace RejectionCode

def value : RejectionCode → PyStr
  | staleSequence => py "STALE_SEQUENCE"
  | staleTimestamp => py "STALE_TIMESTAMP"
  | sessionMismatch => py "SESSION_MISMATCH"
  | noActiveSession => py "NO_ACTIVE_SESSION"
  | modeBlocked => py "MODE_BLOCKED"
  | unknownMode => py "UNKNOWN_MODE"
  | watchdogActive => py "WATCHDOG_ACTIVE"
  | invalidPayload => py "INVALID_PAYLOAD"
  | estopLatched => py "ESTOP_LATCHED"

end RejectionCode

namespace StopReason

def value : StopReason → PyStr
  | watchdog => py "WATCHDOG"
  | emergencyStop => py "EMERGENCY_STOP"
  | sessionStopped => py "SESSION_STOPPED"

end StopReason

namespace EventName

def value : EventName → PyStr
  | gatewayState => py "gateway.state"
  | neckTarget => py "neck.target"
  | safetyStop => py "safety.stop"
  | commandRejected => py "command.rejected"

end EventName

variable {K : Type} [Field K] [LinearOrder K]

/-- The least norm a quaternion must exceed, `1e-12`. -/
def zeroLengthNorm : K := 1 / 10 ^ 12

/-- A `Quaternion` that passed `_validate_quaternion`, its components as floats. -/
@[ext]
structure Quaternion (M : FloatMath K) where
  x : K
  y : K
  z : K
  w : K
  normFinite : M.isfinite (M.hypot [x, y, z, w]) = true
  normPositive : zeroLengthNorm < M.hypot [x, y, z, w]
  deriving DecidableEq

@[ext]
structure Position (K : Type) where
  x : K
  y : K
  z : K
  deriving DecidableEq

structure SessionStartPayload where
  requestedMode : PyStr
  requestedModeNonempty : requestedMode ≠ []
  deriving DecidableEq

structure ModeSetPayload where
  mode : PyStr
  modeNonempty : mode ≠ []
  deriving DecidableEq

structure PosePayload (M : FloatMath K) where
  frame : PyStr
  orientation : Quaternion M
  position : Option (Position K)
  frameExact : frame = questLocalFrame
  deriving DecidableEq

inductive Payload (M : FloatMath K) where
  | sessionStart (payload : SessionStartPayload)
  | modeSet (payload : ModeSetPayload)
  | pose (payload : PosePayload M)
  | empty
  deriving DecidableEq

structure CommandEnvelope (M : FloatMath K) where
  schemaVersion : PyStr
  command : CommandName
  sessionId : PyStr
  sequence : ℤ
  timestampMs : ℤ
  payload : Payload M
  schemaVersionExact : schemaVersion = ValeraControlTower.schemaVersion
  sessionIdNonempty : sessionId ≠ []
  sequencePositive : 1 ≤ sequence
  timestampNonnegative : 0 ≤ timestampMs
  deriving DecidableEq

/-! ## Field checks -/

/-- `_require_nonempty_string`. -/
def requireNonemptyString (value : PyObject K) (fieldName : String) :
    Except PyException { text : PyStr // text ≠ [] } :=
  let refused := .messageValidationError (fieldName ++ " must be a non-empty string")
  match value with
  | .str text => if present : text ≠ [] then .ok ⟨text, present⟩ else .error refused
  | _ => .error refused

omit [Field K] [LinearOrder K] in
theorem requireNonemptyString_str {text : PyStr} (nonempty : text ≠ []) (fieldName : String) :
    requireNonemptyString (K := K) (.str text) fieldName = .ok ⟨text, nonempty⟩ :=
  dif_pos nonempty

/-- The generator of `_validate_quaternion` and `_validate_position`: is some
component not a finite number?  It stops at the first that is not. -/
def anyUnfit (M : FloatMath K) : List (PyObject K) → Except PyException Bool
  | [] => .ok false
  | component :: rest =>
      if component.isNumber then
        match component.isfinite M with
        | .error exception => .error exception
        | .ok false => .ok true
        | .ok true => anyUnfit M rest
      else .ok true

namespace Quaternion

variable {M : FloatMath K}

/-- The constructor on float components: the norm checks of `_validate_quaternion`. -/
def new (M : FloatMath K) (x y z w : K) : Except PyException (Quaternion M) :=
  if [x, y, z, w].all M.isfinite then
    if normFinite : M.isfinite (M.hypot [x, y, z, w]) = true then
      if normPositive : zeroLengthNorm < M.hypot [x, y, z, w] then
        .ok ⟨x, y, z, w, normFinite, normPositive⟩
      else .error (.messageValidationError "quaternion must not be zero length")
    else .error (.messageValidationError "quaternion norm must be finite")
  else .error (.messageValidationError "quaternion values must be finite JSON numbers")

def norm (q : Quaternion M) : K := M.hypot [q.x, q.y, q.z, q.w]

/-- The constructor runs the checks again on the quotients. -/
def normalized (q : Quaternion M) : Except PyException (Quaternion M) :=
  new M (q.x / q.norm) (q.y / q.norm) (q.z / q.norm) (q.w / q.norm)

end Quaternion

/-- `_validate_quaternion`, returning the components it has checked. -/
def validateQuaternion (M : FloatMath K) (dict : PyDict K) :
    Except PyException (Quaternion M) := do
  let x ← dict.getattr .x
  let y ← dict.getattr .y
  let z ← dict.getattr .z
  let w ← dict.getattr .w
  if ← anyUnfit M [x, y, z, w] then
    throw (.messageValidationError "quaternion values must be finite JSON numbers")
  let x := x.toFloat M
  let y := y.toFloat M
  let z := z.toFloat M
  let w := w.toFloat M
  if normFinite : M.isfinite (M.hypot [x, y, z, w]) = true then
    if normPositive : zeroLengthNorm < M.hypot [x, y, z, w] then
      return ⟨x, y, z, w, normFinite, normPositive⟩
    else throw (.messageValidationError "quaternion must not be zero length")
  else throw (.messageValidationError "quaternion norm must be finite")

/-- `_validate_position`, returning the components it has checked. -/
def validatePosition (M : FloatMath K) (dict : PyDict K) :
    Except PyException (Position K) := do
  let x ← dict.getattr .x
  let y ← dict.getattr .y
  let z ← dict.getattr .z
  if ← anyUnfit M [x, y, z] then
    throw (.messageValidationError "position values must be finite JSON numbers")
  return ⟨x.toFloat M, y.toFloat M, z.toFloat M⟩

/-! ## `__post_init__` of the payload and envelope classes -/

def SessionStartPayload.postInit (dict : PyDict K) :
    Except PyException SessionStartPayload := do
  let requestedMode ← requireNonemptyString (← dict.getattr .requestedMode) "requested_mode"
  return ⟨requestedMode.1, requestedMode.2⟩

def ModeSetPayload.postInit (dict : PyDict K) : Except PyException ModeSetPayload := do
  let mode ← requireNonemptyString (← dict.getattr .mode) "mode"
  return ⟨mode.1, mode.2⟩

def PosePayload.postInitFrame (value : PyObject K) :
    Except PyException { frame : PyStr // frame = questLocalFrame } :=
  match value with
  | .str frame =>
      if exact : frame = questLocalFrame then .ok ⟨frame, exact⟩
      else .error (.messageValidationError "frame must be quest_local")
  | _ => .error (.messageValidationError "frame must be quest_local")

/-- `position` has the class default `None`. -/
def PosePayload.postInitPosition (M : FloatMath K) (dict : PyDict K) :
    Except PyException (Option (Position K)) :=
  match dict.getattrD .position .none with
  | .none => .ok none
  | .instanceOf .position position => some <$> validatePosition M position
  | _ => .error (.messageValidationError "position must be a Position")

def PosePayload.postInitOrientation (M : FloatMath K) :
    PyObject K → Except PyException (Quaternion M)
  | .instanceOf .quaternion orientation => validateQuaternion M orientation
  | _ => .error (.messageValidationError "orientation must be a Quaternion")

def PosePayload.postInit (M : FloatMath K) (dict : PyDict K) :
    Except PyException (PosePayload M) := do
  let frame ← postInitFrame (← dict.getattr .frame)
  let orientation ← postInitOrientation M (← dict.getattr .orientation)
  let position ← postInitPosition M dict
  return ⟨frame.1, orientation, position, frame.2⟩

/-- `_validate_payload`. -/
def validatePayload (M : FloatMath K) : PyObject K → Except PyException (Payload M)
  | .instanceOf .sessionStartPayload dict =>
      Payload.sessionStart <$> SessionStartPayload.postInit dict
  | .instanceOf .modeSetPayload dict => Payload.modeSet <$> ModeSetPayload.postInit dict
  | .instanceOf .posePayload dict => Payload.pose <$> PosePayload.postInit M dict
  | .instanceOf .emptyPayload _ => .ok .empty
  | _ => .error (.messageValidationError "payload must be an approved payload model")

/-- An `int` field with a least value. -/
def requireInteger (value : PyObject K) (minimum : ℤ) (wrongType tooSmall : String) :
    Except PyException { number : ℤ // minimum ≤ number } :=
  match value with
  | .int number =>
      if bounded : minimum ≤ number then .ok ⟨number, bounded⟩
      else .error (.messageValidationError tooSmall)
  | _ => .error (.messageValidationError wrongType)

omit [Field K] [LinearOrder K] in
theorem requireInteger_int {number minimum : ℤ} (bounded : minimum ≤ number)
    (wrongType tooSmall : String) :
    requireInteger (K := K) (.int number) minimum wrongType tooSmall = .ok ⟨number, bounded⟩ :=
  dif_pos bounded

def requireSchemaVersion (value : PyObject K) :
    Except PyException { version : PyStr // version = schemaVersion } :=
  match value with
  | .str version =>
      if exact : version = schemaVersion then .ok ⟨version, exact⟩
      else .error (.messageValidationError "schema_version must be 0.1")
  | _ => .error (.messageValidationError "schema_version must be 0.1")

def CommandEnvelope.postInit (M : FloatMath K) (dict : PyDict K) :
    Except PyException (CommandEnvelope M) := do
  let version ← requireSchemaVersion (← dict.getattr .schemaVersion)
  let command ← match ← dict.getattr .command with
    | .commandName command => pure command
    | _ => throw (.messageValidationError "command must be a CommandName")
  let sessionId ← requireNonemptyString (← dict.getattr .sessionId) "session_id"
  let sequence ← requireInteger (← dict.getattr .sequence) 1
    "sequence must be an integer" "sequence must be at least 1"
  let timestampMs ← requireInteger (← dict.getattr .timestampMs) 0
    "timestamp_ms must be an integer" "timestamp_ms must be non-negative"
  let payload ← validatePayload M (← dict.getattr .payload)
  return ⟨version.1, command, sessionId.1, sequence.1, timestampMs.1, payload,
    version.2, sessionId.2, sequence.2, timestampMs.2⟩

/-- Validate an envelope again at the gateway's runtime trust boundary. -/
def validateCommandEnvelope (M : FloatMath K) :
    PyObject K → Except PyException (CommandEnvelope M)
  | .instanceOf .commandEnvelope dict => CommandEnvelope.postInit M dict
  | _ => .error (.messageValidationError "command must be a CommandEnvelope")

/-! ## Instances

A constructor stores what it validated, so validating its instance again returns the
same message. -/

section Instances

variable {M : FloatMath K}

def Quaternion.toObject (orientation : Quaternion M) : PyObject K :=
  .instanceOf .quaternion [(.x, .float (.finite orientation.x)),
    (.y, .float (.finite orientation.y)), (.z, .float (.finite orientation.z)),
    (.w, .float (.finite orientation.w))]

def Position.toObject (position : Position K) : PyObject K :=
  .instanceOf .position [(.x, .float (.finite position.x)),
    (.y, .float (.finite position.y)), (.z, .float (.finite position.z))]

def Payload.toObject : Payload M → PyObject K
  | sessionStart payload =>
      .instanceOf .sessionStartPayload [(.requestedMode, .str payload.requestedMode)]
  | modeSet payload => .instanceOf .modeSetPayload [(.mode, .str payload.mode)]
  | pose payload => .instanceOf .posePayload [(.frame, .str payload.frame),
      (.orientation, payload.orientation.toObject),
      (.position, (payload.position.map Position.toObject).getD .none)]
  | empty => .instanceOf .emptyPayload []

def CommandEnvelope.toObject (command : CommandEnvelope M) : PyObject K :=
  .instanceOf .commandEnvelope [(.schemaVersion, .str command.schemaVersion),
    (.command, .commandName command.command), (.sessionId, .str command.sessionId),
    (.sequence, .int command.sequence), (.timestampMs, .int command.timestampMs),
    (.payload, command.payload.toObject)]

theorem postInitOrientation_toObject (orientation : Quaternion M) :
    PosePayload.postInitOrientation M orientation.toObject = .ok orientation := by
  obtain ⟨x, y, z, w, normFinite, normPositive⟩ := orientation
  exact (dif_pos normFinite).trans (dif_pos normPositive)

theorem validatePayload_toObject (payload : Payload M) :
    validatePayload M payload.toObject = .ok payload := by
  cases payload with
  | sessionStart payload =>
      obtain ⟨requestedMode, nonempty⟩ := payload
      change Payload.sessionStart <$> (requireNonemptyString (.str requestedMode) _ >>= _) = _
      rw [requireNonemptyString_str nonempty]
      rfl
  | modeSet payload =>
      obtain ⟨mode, nonempty⟩ := payload
      change Payload.modeSet <$> (requireNonemptyString (.str mode) _ >>= _) = _
      rw [requireNonemptyString_str nonempty]
      rfl
  | pose payload =>
      obtain ⟨frame, orientation, position, exact⟩ := payload
      change Payload.pose <$> (PosePayload.postInitFrame (.str frame) >>= _) = _
      have framed : PosePayload.postInitFrame (K := K) (.str frame) = .ok ⟨frame, exact⟩ :=
        dif_pos exact
      rw [framed]
      change Payload.pose <$> (PosePayload.postInitOrientation M orientation.toObject >>= _) = _
      rw [postInitOrientation_toObject]
      cases position <;> rfl
  | empty => rfl

/-- Validating an envelope again, as the gateway does, changes nothing. -/
theorem validateCommandEnvelope_toObject (command : CommandEnvelope M) :
    validateCommandEnvelope M command.toObject = .ok command := by
  obtain ⟨version, name, sessionId, sequence, timestampMs, payload,
    versionExact, nonempty, positive, nonnegative⟩ := command
  change (requireSchemaVersion (.str version) >>= _) = _
  have versioned : requireSchemaVersion (K := K) (.str version) = .ok ⟨version, versionExact⟩ :=
    dif_pos versionExact
  rw [versioned]
  change (requireNonemptyString (.str sessionId) _ >>= _) = _
  rw [requireNonemptyString_str nonempty]
  change (requireInteger (.int sequence) 1 _ _ >>= _) = _
  rw [requireInteger_int positive]
  change (requireInteger (.int timestampMs) 0 _ _ >>= _) = _
  rw [requireInteger_int nonnegative]
  change (validatePayload M payload.toObject >>= _) = _
  rw [validatePayload_toObject]
  rfl

end Instances

/-! ## Output events -/

structure GatewayStateEvent where
  gatewayMonotonicNs : ℤ
  state : GatewayState
  sessionId : Option PyStr
  sequence : Option ℤ
  schemaVersion : PyStr := ValeraControlTower.schemaVersion
  eventType : EventName := .gatewayState
  deriving DecidableEq

structure NeckTargetEvent (K : Type) where
  gatewayMonotonicNs : ℤ
  sessionId : PyStr
  sequence : ℤ
  panDegrees : K
  tiltDegrees : K
  hold : Bool := false
  schemaVersion : PyStr := ValeraControlTower.schemaVersion
  eventType : EventName := .neckTarget
  deriving DecidableEq

structure SafetyStopEvent where
  gatewayMonotonicNs : ℤ
  reason : StopReason
  sessionId : Option PyStr
  sequence : Option ℤ
  neckAction : PyStr := py "HOLD_LAST_POSITION"
  baseAction : PyStr := py "STOP"
  armAction : PyStr := py "HOLD"
  schemaVersion : PyStr := ValeraControlTower.schemaVersion
  eventType : EventName := .safetyStop
  deriving DecidableEq

structure CommandRejectedEvent where
  gatewayMonotonicNs : ℤ
  code : RejectionCode
  message : PyStr
  sessionId : Option PyStr
  sequence : Option ℤ
  schemaVersion : PyStr := ValeraControlTower.schemaVersion
  eventType : EventName := .commandRejected
  deriving DecidableEq

inductive OutputEvent (K : Type) where
  | gatewayState (event : GatewayStateEvent)
  | neckTarget (event : NeckTargetEvent K)
  | safetyStop (event : SafetyStopEvent)
  | commandRejected (event : CommandRejectedEvent)
  deriving DecidableEq

end ValeraControlTower

import ValeraControlTower.VrGateway.Wire

/-!
# `robot/vr_gateway/wire.py`, encoding

`encode_event` checks an object of any kind field by field before it is serialized, so
it is modelled on objects; `OutputEvent.toObject` is the instance an event of the
gateway is.
-/

namespace ValeraControlTower

open Unicode

variable {K : Type}

/-! ## `json.dumps` -/

namespace JsonEncoder

/-- A lower-case hexadecimal digit. -/
def hexChar (digit : ℕ) : Char :=
  if digit < 10 then Char.ofNat ('0'.toNat + digit) else Char.ofNat ('a'.toNat + digit - 10)

/-- `\uXXXX`. -/
def unicodeEscape (unit : CodeUnit) : List Char :=
  ['\\', 'u', hexChar (unit.val / 4096), hexChar (unit.val / 256 % 16),
    hexChar (unit.val / 16 % 16), hexChar (unit.val % 16)]

/-- One character of a string, with ASCII escaping. -/
def escapeAscii (point : CodePoint) : List Char :=
  if point.val = 0x22 then ['\\', '"']
  else if point.val = 0x5C then ['\\', '\\']
  else if point.val = 0x0A then ['\\', 'n']
  else if point.val = 0x0D then ['\\', 'r']
  else if point.val = 0x09 then ['\\', 't']
  else if point.val = 0x0C then ['\\', 'f']
  else if point.val = 0x08 then ['\\', 'b']
  else if 0x20 ≤ point.val ∧ point.val ≤ 0x7E then [Char.ofNat point.val]
  else point.units.flatMap unicodeEscape

def encodeString (text : PyStr) : List Char := '"' :: (text.flatMap escapeAscii ++ ['"'])

/-- `int.__repr__`. -/
def encodeInt (value : ℤ) : Except PyException (List Char) :=
  let numeral := Numeral.ofInt value
  if intMaxStrDigits < numeral.integer.length then .error .valueError else .ok numeral.text

/-- A value of a flat document, with `allow_nan=False`. -/
def encodeValue (M : FloatMath K) : PyObject K → Except PyException (List Char)
  | .none => .ok "null".toList
  | .bool value => .ok (if value then "true".toList else "false".toList)
  | .int value => encodeInt value
  | .float (.finite value) => .ok (M.repr value)
  | .float _ => .error .valueError
  | .str text => .ok (encodeString text)
  | .commandName member => .ok (encodeString member.value)
  | .gatewayState member => .ok (encodeString member.value)
  | .rejectionCode member => .ok (encodeString member.value)
  | .stopReason member => .ok (encodeString member.value)
  | .eventName member => .ok (encodeString member.value)
  | .instanceOf _ _ | .other => .error .typeError

def encodeMember (M : FloatMath K) (member : PyStr × PyObject K) :
    Except PyException (List Char) :=
  (encodeValue M member.2).map fun value => encodeString member.1 ++ ':' :: value

/-- The members behind the opening brace, with separators `,` and `:`. -/
def encodeMembers (M : FloatMath K) : List (PyStr × PyObject K) → Except PyException (List Char)
  | [] => .ok ['}']
  | [member] => (encodeMember M member).map (· ++ ['}'])
  | member :: members => do
      let first ← encodeMember M member
      let rest ← encodeMembers M members
      return first ++ ',' :: rest

/-- `json.dumps` of a flat document. -/
def dumps (M : FloatMath K) (document : List (PyStr × PyObject K)) :
    Except PyException (List Char) :=
  (encodeMembers M document).map ('{' :: ·)

end JsonEncoder

namespace Wire

/-- A document to serialize. -/
abbrev EventDocument (K : Type) := List (PyStr × PyObject K)

/-! ## Field checks -/

/-- `_validate_non_empty_non_whitespace`. -/
def validateNonEmptyNonWhitespace (value : PyObject K) (name : String) : Except PyException Unit :=
  let refused := .wireError (name ++ " must be a non-empty, non-whitespace string")
  match value with
  | .str text => if text = [] ∨ isspace text = true then .error refused else .ok ()
  | _ => .error refused

/-- `value is not None`. -/
def present : PyObject K → Bool
  | .none => false
  | _ => true

/-- The sequence of a correlation. -/
def validateCorrelationSequence (value : PyObject K) : Except PyException Unit :=
  match value with
  | .int number =>
      if number < 1 ∨ number > maxInt64 then
        .error (.wireError "correlation sequence must be in 1..Int64.MaxValue")
      else .ok ()
  | _ => .error (.wireError "correlation sequence must be an integer")

/-- `_validate_correlation`. -/
def validateCorrelation (sessionId sequence : PyObject K) (required : Bool) :
    Except PyException Unit :=
  if present sessionId ≠ present sequence then
    .error (.wireError "correlation must be both available or both unavailable")
  else if present sessionId = false then
    if required then .error (.wireError "neck.target correlation is required") else .ok ()
  else do
    let _ ← validateSessionId sessionId
    validateCorrelationSequence sequence

def requireEventSchemaVersion (value : PyObject K) : Except PyException Unit :=
  match value with
  | .str version =>
      if version = schemaVersion then .ok ()
      else .error (.wireError "event schema_version must be 0.1")
  | _ => .error (.wireError "event schema_version must be 0.1")

def requireEventType (value : PyObject K) (expected : EventName) (name : String) :
    Except PyException Unit :=
  match value with
  | .eventName member =>
      if member = expected then .ok () else .error (.wireError ("event_type must be " ++ name))
  | _ => .error (.wireError ("event_type must be " ++ name))

/-- The checks all four encoders start with. -/
def requireEventHeader (dict : PyDict K) (expected : EventName) (name : String) :
    Except PyException Unit := do
  let _ ← validateIntField (← dict.getattr .gatewayMonotonicNs) "gateway_monotonic_ns" 0
  requireEventSchemaVersion (dict.getattrD .schemaVersion (.str schemaVersion))
  requireEventType (dict.getattrD .eventType (.eventName expected)) expected name

/-- An angle that is an `int` or a `float`. -/
def requireNumber (value : PyObject K) (name : String) : Except PyException Unit :=
  if value.isNumber then .ok () else .error (.wireError (name ++ " must be a finite number"))

/-! ## The four events -/

/-- `_encode_gateway_state_event`. -/
def encodeGatewayStateEvent (dict : PyDict K) : Except PyException (EventDocument K) := do
  requireEventHeader dict .gatewayState "gateway.state"
  let state ← match ← dict.getattr .state with
    | .gatewayState state => pure state
    | _ => throw (.wireError "state must be a GatewayState enum")
  let sessionId ← dict.getattr .sessionId
  let sequence ← dict.getattr .sequence
  validateCorrelation sessionId sequence false
  return [(py "schema_version", .str schemaVersion),
    (py "event_type", .str EventName.gatewayState.value),
    (py "gateway_monotonic_ns", ← dict.getattr .gatewayMonotonicNs),
    (py "state", .str state.value),
    (py "session_id", sessionId),
    (py "sequence", sequence)]

/-- `_encode_neck_target_event`. -/
def encodeNeckTargetEvent (M : FloatMath K) (dict : PyDict K) :
    Except PyException (EventDocument K) := do
  requireEventHeader dict .neckTarget "neck.target"
  let sessionId ← dict.getattr .sessionId
  let sequence ← dict.getattr .sequence
  validateCorrelation sessionId sequence true
  let panDegrees ← dict.getattr .panDegrees
  requireNumber panDegrees "pan_degrees"
  let tiltDegrees ← dict.getattr .tiltDegrees
  requireNumber tiltDegrees "tilt_degrees"
  if !(← panDegrees.isfinite M) then
    throw (.wireError "pan_degrees and tilt_degrees must be finite")
  if !(← tiltDegrees.isfinite M) then
    throw (.wireError "pan_degrees and tilt_degrees must be finite")
  let hold ← match dict.getattrD .hold (.bool false) with
    | .bool hold => pure hold
    | _ => throw (.wireError "hold must be a boolean")
  return [(py "schema_version", .str schemaVersion),
    (py "event_type", .str EventName.neckTarget.value),
    (py "gateway_monotonic_ns", ← dict.getattr .gatewayMonotonicNs),
    (py "session_id", sessionId),
    (py "sequence", sequence),
    (py "pan_degrees", panDegrees),
    (py "tilt_degrees", tiltDegrees),
    (py "hold", .bool hold)]

/-- `_encode_safety_stop_event`. -/
def encodeSafetyStopEvent (dict : PyDict K) : Except PyException (EventDocument K) := do
  requireEventHeader dict .safetyStop "safety.stop"
  let reason ← match ← dict.getattr .reason with
    | .stopReason reason => pure reason
    | _ => throw (.wireError "reason must be a StopReason enum")
  let sessionId ← dict.getattr .sessionId
  let sequence ← dict.getattr .sequence
  validateCorrelation sessionId sequence false
  let neckAction := dict.getattrD .neckAction (.str (py "HOLD_LAST_POSITION"))
  validateNonEmptyNonWhitespace neckAction "neck_action"
  let baseAction := dict.getattrD .baseAction (.str (py "STOP"))
  validateNonEmptyNonWhitespace baseAction "base_action"
  let armAction := dict.getattrD .armAction (.str (py "HOLD"))
  validateNonEmptyNonWhitespace armAction "arm_action"
  return [(py "schema_version", .str schemaVersion),
    (py "event_type", .str EventName.safetyStop.value),
    (py "gateway_monotonic_ns", ← dict.getattr .gatewayMonotonicNs),
    (py "reason", .str reason.value),
    (py "session_id", sessionId),
    (py "sequence", sequence),
    (py "neck_action", neckAction),
    (py "base_action", baseAction),
    (py "arm_action", armAction)]

/-- `_encode_command_rejected_event`. -/
def encodeCommandRejectedEvent (dict : PyDict K) : Except PyException (EventDocument K) := do
  requireEventHeader dict .commandRejected "command.rejected"
  let code ← match ← dict.getattr .code with
    | .rejectionCode code => pure code
    | _ => throw (.wireError "code must be a RejectionCode enum")
  let message ← dict.getattr .message
  validateNonEmptyNonWhitespace message "message"
  let sessionId ← dict.getattr .sessionId
  let sequence ← dict.getattr .sequence
  validateCorrelation sessionId sequence false
  return [(py "schema_version", .str schemaVersion),
    (py "event_type", .str EventName.commandRejected.value),
    (py "gateway_monotonic_ns", ← dict.getattr .gatewayMonotonicNs),
    (py "code", .str code.value),
    (py "message", message),
    (py "session_id", sessionId),
    (py "sequence", sequence)]

/-- `_event_to_validated_dict`. -/
def eventToValidatedDict (M : FloatMath K) : PyObject K → Except PyException (EventDocument K)
  | .instanceOf .gatewayStateEvent dict => encodeGatewayStateEvent dict
  | .instanceOf .neckTargetEvent dict => encodeNeckTargetEvent M dict
  | .instanceOf .safetyStopEvent dict => encodeSafetyStopEvent dict
  | .instanceOf .commandRejectedEvent dict => encodeCommandRejectedEvent dict
  | _ => .error (.wireError "event must be one of the approved event DTO types")

/-- The `except` clause around `json.dumps`. -/
def catchSerializationErrors {α : Type} : Except PyException α → Except PyException α
  | .error exception =>
      if exception = .typeError ∨ exception = .overflowError ∨ exception.isValueError then
        .error (.wireError "event serialization failed")
      else .error exception
  | outcome => outcome

/-- `encode_event`; the text is ASCII. -/
def encodeEvent (M : FloatMath K) (event : PyObject K) : Except PyException (List Char) := do
  let document ← eventToValidatedDict M event
  catchSerializationErrors (JsonEncoder.dumps M document)

/-- `encode_events`. -/
def encodeEvents (M : FloatMath K) (events : List (PyObject K)) :
    Except PyException (List (List Char)) :=
  events.mapM (encodeEvent M)

end Wire

/-! ## The events of the gateway as instances -/

/-- An optional field. -/
def optionalObject {α : Type} (object : α → PyObject K) : Option α → PyObject K
  | none => .none
  | some value => object value

def GatewayStateEvent.toObject (event : GatewayStateEvent) : PyObject K :=
  .instanceOf .gatewayStateEvent [(.gatewayMonotonicNs, .int event.gatewayMonotonicNs),
    (.state, .gatewayState event.state),
    (.sessionId, optionalObject .str event.sessionId),
    (.sequence, optionalObject .int event.sequence),
    (.schemaVersion, .str event.schemaVersion),
    (.eventType, .eventName event.eventType)]

def NeckTargetEvent.toObject (event : NeckTargetEvent K) : PyObject K :=
  .instanceOf .neckTargetEvent [(.gatewayMonotonicNs, .int event.gatewayMonotonicNs),
    (.sessionId, .str event.sessionId),
    (.sequence, .int event.sequence),
    (.panDegrees, .float (.finite event.panDegrees)),
    (.tiltDegrees, .float (.finite event.tiltDegrees)),
    (.hold, .bool event.hold),
    (.schemaVersion, .str event.schemaVersion),
    (.eventType, .eventName event.eventType)]

def SafetyStopEvent.toObject (event : SafetyStopEvent) : PyObject K :=
  .instanceOf .safetyStopEvent [(.gatewayMonotonicNs, .int event.gatewayMonotonicNs),
    (.reason, .stopReason event.reason),
    (.sessionId, optionalObject .str event.sessionId),
    (.sequence, optionalObject .int event.sequence),
    (.neckAction, .str event.neckAction),
    (.baseAction, .str event.baseAction),
    (.armAction, .str event.armAction),
    (.schemaVersion, .str event.schemaVersion),
    (.eventType, .eventName event.eventType)]

def CommandRejectedEvent.toObject (event : CommandRejectedEvent) : PyObject K :=
  .instanceOf .commandRejectedEvent [(.gatewayMonotonicNs, .int event.gatewayMonotonicNs),
    (.code, .rejectionCode event.code),
    (.message, .str event.message),
    (.sessionId, optionalObject .str event.sessionId),
    (.sequence, optionalObject .int event.sequence),
    (.schemaVersion, .str event.schemaVersion),
    (.eventType, .eventName event.eventType)]

def OutputEvent.toObject : OutputEvent K → PyObject K
  | gatewayState event => event.toObject
  | neckTarget event => event.toObject
  | safetyStop event => event.toObject
  | commandRejected event => event.toObject

end ValeraControlTower

import ValeraControlTower.Unity.Encoding

/-!
# `Runtime/Json/WireCodec.cs`, events

The checks, the decoders and the encoders of the four events.
-/

namespace ValeraControlTower.Unity

open Unicode Json CsString

namespace WireCodec

/-! ## Values of enumerations -/

def gatewayStates : List String :=
  ["IDLE", "AWAITING_RECENTER", "HEAD_ACTIVE", "SAFE_STOPPED", "ESTOP_LATCHED"]

def stopReasons : List String := ["WATCHDOG", "EMERGENCY_STOP", "SESSION_STOPPED"]

def rejectionCodes : List String :=
  ["STALE_SEQUENCE", "STALE_TIMESTAMP", "SESSION_MISMATCH", "NO_ACTIVE_SESSION", "MODE_BLOCKED",
    "UNKNOWN_MODE", "WATCHDOG_ACTIVE", "INVALID_PAYLOAD", "ESTOP_LATCHED"]

/-- `RequireKnown`. -/
def requireKnown (value : JsonValue) (name : String) (values : List String) :
    Except CsException Unit := do
  let found ← requireString value name none
  if found ∈ values.map cs then return () else invalid (name ++ " has an unsupported value.")

/-- `RequireKnownValue`. -/
def requireKnownValue (value : Option CsString) (name : String) (values : List String) :
    Except CsException Unit :=
  if value ∈ values.map fun candidate => some (cs candidate) then .ok ()
  else invalid (name ++ " has an unsupported value.")

/-! ## Decoders -/

/-- `DecodeCorrelation`. -/
def decodeCorrelation (root : JsonValue) (required : Bool) : Except CsException Correlation := do
  let session ← requireMember root "session_id"
  let sequence ← requireMember root "sequence"
  match session, sequence with
  | .null, .null =>
      if required then invalid "session_id and sequence are required for this event type."
      else return .unavailable
  | .null, _ => invalid "Partial correlation is not allowed."
  | _, .null => invalid "Partial correlation is not allowed."
  | _, _ =>
      let sessionId ← requireNonEmptyString root "session_id"
      let sequenceValue ← requireInteger root "sequence" 1
      Correlation.new sessionId sequenceValue

/-- `DecodeGatewayState`. -/
def decodeGatewayState (root : JsonValue) : Except CsException GatewayStateEventDto := do
  let gatewayMonotonicNs ← requireInteger root "gateway_monotonic_ns" 0
  let state ← requireString root "state" none
  let correlation ← decodeCorrelation root false
  return ⟨some WireValues.schemaVersion, some WireValues.gatewayState, gatewayMonotonicNs,
    some state, correlation⟩

/-- The check that `hold` is a boolean. -/
def requireHold (root : JsonValue) : Except CsException Unit := do
  match ← requireMember root "hold" with
  | .bool _ => return ()
  | _ => invalid "hold must be boolean."

/-- `kind == JsonKind.Boolean && boolean`. -/
def isTrue : JsonValue → Bool
  | .bool value => value
  | _ => false

variable {K : Type} (M : FloatMath K)

/-- `DecodeNeckTarget`. -/
def decodeNeckTarget (root : JsonValue) (requireCorrelation : Bool) :
    Except CsException (NeckTargetEventDto M) := do
  let gatewayMonotonicNs ← requireInteger root "gateway_monotonic_ns" 0
  let correlation ← decodeCorrelation root requireCorrelation
  let panDegrees ← requireFiniteNumber M root "pan_degrees"
  let tiltDegrees ← requireFiniteNumber M root "tilt_degrees"
  let hold ← requireMember root "hold"
  return ⟨some WireValues.schemaVersion, some WireValues.neckTarget, gatewayMonotonicNs,
    correlation, .finite panDegrees, .finite tiltDegrees, isTrue hold⟩

/-- `DecodeSafetyStop`. -/
def decodeSafetyStop (root : JsonValue) : Except CsException SafetyStopEventDto := do
  let gatewayMonotonicNs ← requireInteger root "gateway_monotonic_ns" 0
  let reason ← requireString root "reason" none
  let correlation ← decodeCorrelation root false
  let neckAction ← requireString root "neck_action" none
  let baseAction ← requireString root "base_action" none
  let armAction ← requireString root "arm_action" none
  return ⟨some WireValues.schemaVersion, some WireValues.safetyStop, gatewayMonotonicNs,
    some reason, correlation, some neckAction, some baseAction, some armAction⟩

/-- `DecodeCommandRejected`. -/
def decodeCommandRejected (root : JsonValue) : Except CsException CommandRejectedEventDto := do
  let gatewayMonotonicNs ← requireInteger root "gateway_monotonic_ns" 0
  let code ← requireString root "code" none
  let message ← requireString root "message" none
  let correlation ← decodeCorrelation root false
  return ⟨some WireValues.schemaVersion, some WireValues.commandRejected, gatewayMonotonicNs,
    some code, some message, correlation⟩

def gatewayStateFields : List String :=
  ["schema_version", "event_type", "gateway_monotonic_ns", "state", "session_id", "sequence"]

def neckTargetFields : List String :=
  ["schema_version", "event_type", "gateway_monotonic_ns", "session_id", "sequence",
    "pan_degrees", "tilt_degrees", "hold"]

def safetyStopFields : List String :=
  ["schema_version", "event_type", "gateway_monotonic_ns", "reason", "session_id", "sequence",
    "neck_action", "base_action", "arm_action"]

def commandRejectedFields : List String :=
  ["schema_version", "event_type", "gateway_monotonic_ns", "code", "message", "session_id",
    "sequence"]

/-- The `switch` of `DecodeEvent`. -/
def decodeEventType (root : JsonValue) (eventType : CsString) :
    Except CsException (EventDto M) := do
  if eventType = WireValues.gatewayState then
    requireExactFields root gatewayStateFields []
    requireKnown root "state" gatewayStates
    return .gatewayState (← decodeGatewayState root)
  else if eventType = WireValues.neckTarget then
    requireExactFields root neckTargetFields []
    let _ ← requireFiniteNumber M root "pan_degrees"
    let _ ← requireFiniteNumber M root "tilt_degrees"
    requireHold root
    return .neckTarget (← decodeNeckTarget M root true)
  else if eventType = WireValues.safetyStop then
    requireExactFields root safetyStopFields []
    requireKnown root "reason" stopReasons
    let _ ← requireNonEmptyString root "neck_action"
    let _ ← requireNonEmptyString root "base_action"
    let _ ← requireNonEmptyString root "arm_action"
    return .safetyStop (← decodeSafetyStop root)
  else if eventType = WireValues.commandRejected then
    requireExactFields root commandRejectedFields []
    requireKnown root "code" rejectionCodes
    let _ ← requireNonEmptyString root "message"
    return .commandRejected (← decodeCommandRejected root)
  else invalid "Unknown event type."

/-- `DecodeEvent` behind `Parse`. -/
def decodeEventRoot (root : JsonValue) : Except CsException (EventDto M) := do
  requireObject root "event root"
  let _ ← requireString root "schema_version" (some WireValues.schemaVersion)
  let eventType ← requireString root "event_type" none
  let _ ← requireInteger root "gateway_monotonic_ns" 0
  decodeEventType M root eventType

/-- `DecodeEvent`. -/
def decodeEvent (json : CsString) : Except CsException (EventDto M) := do
  decodeEventRoot M (← StrictJsonParser.parse json)

/-! ## Encoders -/

/-- `ValidateEventHeader`. -/
def validateEventHeader (schemaVersion eventType : Option CsString) (expected : CsString) :
    Except CsException Unit :=
  if schemaVersion ≠ some WireValues.schemaVersion then invalid "schema_version must be 0.1."
  else if eventType ≠ some expected then invalid "event_type mismatch."
  else .ok ()

/-- `ValidateFinite`. -/
def validateFinite (value : CsDouble M) (name : String) : Except CsException Unit :=
  match value with
  | .finite _ => .ok ()
  | .infinity _ | .nan => invalid (name ++ " must be finite.")

/-- `AppendBoolean`. -/
def appendBoolean (name : String) (value : Bool) : CsString :=
  appendName name ++ if value then cs "true" else cs "false"

/-- `AppendNullableNumber`. -/
def appendNullableNumber (name : String) (value : Option CsLong) : CsString :=
  appendName name ++
    match value with
    | some value => utf16 (Numeral.ofInt value.1).text
    | none => cs "null"

/-- `AppendCorrelation`. -/
def appendCorrelation (correlation : Correlation) : CsString :=
  appendString "session_id" correlation.sessionId ++ cs "," ++
    appendNullableNumber "sequence" correlation.sequence

/-- The text of an event up to the comma behind its time. -/
def appendEventHeader (schemaVersion eventType : Option CsString) (gatewayMonotonicNs : CsLong) :
    CsString :=
  cs "\x7b" ++ appendString "schema_version" schemaVersion ++ cs "," ++
    appendString "event_type" eventType ++ cs "," ++
    appendLong "gateway_monotonic_ns" gatewayMonotonicNs ++ cs ","

/-- `EncodeGatewayState`. -/
def encodeGatewayState (dto : GatewayStateEventDto) : Except CsException CsString := do
  validateEventHeader dto.schemaVersion dto.eventType WireValues.gatewayState
  requireKnownValue dto.state "state" gatewayStates
  return appendEventHeader dto.schemaVersion dto.eventType dto.gatewayMonotonicNs ++
    appendString "state" dto.state ++ cs "," ++ appendCorrelation dto.correlation ++ cs "\x7d"

variable (toText : FiniteDouble M → List Char)

/-- `EncodeNeckTarget`. -/
def encodeNeckTarget (dto : NeckTargetEventDto M) : Except CsException CsString := do
  validateEventHeader dto.schemaVersion dto.eventType WireValues.neckTarget
  if !dto.correlation.isAvailable then invalid "neck.target requires correlation."
  validateFinite M dto.panDegrees "pan_degrees"
  validateFinite M dto.tiltDegrees "tilt_degrees"
  let panDegrees ← appendDouble toText "pan_degrees" dto.panDegrees
  let tiltDegrees ← appendDouble toText "tilt_degrees" dto.tiltDegrees
  return appendEventHeader dto.schemaVersion dto.eventType dto.gatewayMonotonicNs ++
    appendCorrelation dto.correlation ++ cs "," ++ panDegrees ++ cs "," ++ tiltDegrees ++ cs "," ++
    appendBoolean "hold" dto.hold ++ cs "\x7d"

/-- `EncodeSafetyStop`. -/
def encodeSafetyStop (dto : SafetyStopEventDto) : Except CsException CsString := do
  validateEventHeader dto.schemaVersion dto.eventType WireValues.safetyStop
  requireKnownValue dto.reason "reason" stopReasons
  requireNonEmpty dto.neckAction "neck_action"
  requireNonEmpty dto.baseAction "base_action"
  requireNonEmpty dto.armAction "arm_action"
  return appendEventHeader dto.schemaVersion dto.eventType dto.gatewayMonotonicNs ++
    appendString "reason" dto.reason ++ cs "," ++ appendCorrelation dto.correlation ++ cs "," ++
    appendString "neck_action" dto.neckAction ++ cs "," ++
    appendString "base_action" dto.baseAction ++ cs "," ++
    appendString "arm_action" dto.armAction ++ cs "\x7d"

/-- `EncodeCommandRejected`. -/
def encodeCommandRejected (dto : CommandRejectedEventDto) : Except CsException CsString := do
  validateEventHeader dto.schemaVersion dto.eventType WireValues.commandRejected
  requireKnownValue dto.code "code" rejectionCodes
  requireNonEmpty dto.message "message"
  return appendEventHeader dto.schemaVersion dto.eventType dto.gatewayMonotonicNs ++
    appendString "code" dto.code ++ cs "," ++ appendString "message" dto.message ++ cs "," ++
    appendCorrelation dto.correlation ++ cs "\x7d"

/-- The `switch` of `EncodeEvent`. -/
def encodeEventFields : EventDto M → Except CsException CsString
  | .gatewayState dto => encodeGatewayState dto
  | .neckTarget dto => encodeNeckTarget M toText dto
  | .safetyStop dto => encodeSafetyStop dto
  | .commandRejected dto => encodeCommandRejected dto

/-- `EncodeEvent` of an object of one of the four classes. -/
def encodeEvent (dto : EventDto M) : Except CsException CsString := do
  let json ← encodeEventFields M toText dto
  let _ ← decodeEvent M json
  return json

end WireCodec

end ValeraControlTower.Unity

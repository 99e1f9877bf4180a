import ValeraControlTower.Unity.StrictJsonParser
import ValeraControlTower.Unity.WireDtos

/-!
# `Runtime/Json/WireCodec.cs`, commands

Decoding checks a parsed document field by field; encoding writes the text of an object
and decodes it again before it is returned.
-/

namespace ValeraControlTower.Unity

open Unicode Json CsString

namespace WireCodec

/-! ## Fields -/

/-- `RequireMember`; a value that is no object has no dictionary. -/
def requireMember (value : JsonValue) (name : String) : Except CsException JsonValue :=
  match value with
  | .obj members =>
      match members.lookup (cs name) with
      | some member => .ok member
      | none => invalid ("Missing field: " ++ name)
  | _ => .error .nullReferenceException

/-- `RequireObject`. -/
def requireObject (value : JsonValue) (context : String) : Except CsException Unit :=
  match value with
  | .obj _ => .ok ()
  | _ => invalid (context ++ " must be an object.")

/-- `RequireExactFields`. -/
def requireExactFields (value : JsonValue) (required optional : List String) :
    Except CsException Unit :=
  match value with
  | .obj members =>
      let names := members.map Prod.fst
      match required.find? (cs · ∉ names) with
      | some name => invalid ("Missing field: " ++ name)
      | none =>
          match names.find? (· ∉ (required ++ optional).map cs) with
          | some name => .error (.wireValidationException (cs "Unexpected field: " ++ name))
          | none => .ok ()
  | _ => invalid "JSON value must be an object."

/-- `RequireString`. -/
def requireString (value : JsonValue) (name : String) (expected : Option CsString) :
    Except CsException CsString := do
  match ← requireMember value name with
  | .str text =>
      match expected with
      | some expected =>
          if text = expected then return text else invalid (name ++ " has an unsupported value.")
      | none => return text
  | _ => invalid (name ++ " must be a string.")

/-- `RequireNonEmptyString`. -/
def requireNonEmptyString (value : JsonValue) (name : String) : Except CsException CsString := do
  let text ← requireString value name none
  if text.isEmpty || isWhiteSpaceOnly text then
    invalid (name ++ " must not be empty or whitespace.")
  else return text

/-- `RequireModeStringFromJson`. -/
def requireModeStringFromJson (value : JsonValue) : Except CsException Unit := do
  let mode ← requireString value "mode" none
  if mode.isEmpty || mode.length > 64 || isWhiteSpaceOnly mode then
    invalid "mode must be a bounded non-whitespace string."
  else return ()

/-- `IndexOfAny(new[] { '.', 'e', 'E' }) >= 0`. -/
def hasFractionOrExponent (text : CsString) : Bool :=
  text.any fun unit =>
    unit = CodeUnit.ofChar '.' || unit = CodeUnit.ofChar 'e' || unit = CodeUnit.ofChar 'E'

/-- `RequireInteger`. -/
def requireInteger (value : JsonValue) (name : String) (minimum : ℤ) :
    Except CsException CsLong := do
  match ← requireMember value name with
  | .num text =>
      match if hasFractionOrExponent text then none else tryParseLong text with
      | some parsed =>
          if parsed.1 < minimum then invalid (name ++ " must be an in-range integer.")
          else return parsed
      | none => invalid (name ++ " must be an in-range integer.")
  | _ => invalid (name ++ " must be an in-range integer.")

variable {K : Type} (M : FloatMath K)

/-- `RequireFiniteNumber`. -/
def requireFiniteNumber (value : JsonValue) (name : String) :
    Except CsException (FiniteDouble M) := do
  match ← requireMember value name with
  | .num text =>
      match tryParseDouble M text with
      | some parsed => return parsed
      | none => invalid (name ++ " must be finite.")
  | _ => invalid (name ++ " must be finite.")

variable [Field K] [LinearOrder K]

/-- The sum of the squares must be finite and above `1e-24`. -/
def checkSquared (squared : K) : Except CsException Unit :=
  if !M.isfinite squared || decide (squared ≤ 1 / 10 ^ 24) then
    invalid "Quaternion must be finite and non-zero."
  else .ok ()

def squaredLength (x y z w : FiniteDouble M) : K :=
  x.1 * x.1 + y.1 * y.1 + z.1 * z.1 + w.1 * w.1

/-! ## Payloads -/

/-- The checks of an orientation in `ValidateCommandPayload`. -/
def validateOrientation (orientation : JsonValue) : Except CsException Unit := do
  requireExactFields orientation ["x", "y", "z", "w"] []
  let x ← requireFiniteNumber M orientation "x"
  let y ← requireFiniteNumber M orientation "y"
  let z ← requireFiniteNumber M orientation "z"
  let w ← requireFiniteNumber M orientation "w"
  checkSquared M (squaredLength M x y z w)

/-- The checks of a position in `ValidateCommandPayload`. -/
def validatePosition (position : JsonValue) : Except CsException Unit := do
  requireExactFields position ["x", "y", "z"] []
  let _ ← requireFiniteNumber M position "x"
  let _ ← requireFiniteNumber M position "y"
  let _ ← requireFiniteNumber M position "z"

/-- `payload.members["position"]`, if the member is there and not null. -/
def presentPosition (payload : JsonValue) : Option JsonValue :=
  match payload with
  | .obj members =>
      match members.lookup (cs "position") with
      | none | some .null => none
      | some position => some position
  | _ => none

/-- The checks of an optional position in `ValidateCommandPayload`. -/
def validatePresentPosition : Option JsonValue → Except CsException Unit
  | some position => validatePosition M position
  | none => .ok ()

/-- `ValidateCommandPayload`. -/
def validateCommandPayload (command : CsString) (payload : JsonValue) :
    Except CsException Unit := do
  if command = WireValues.sessionStart then
    requireExactFields payload ["requested_mode"] []
    let _ ← requireString payload "requested_mode" (some (cs "head"))
  else if command = WireValues.modeSet then
    requireExactFields payload ["mode"] []
    requireModeStringFromJson payload
  else if command = WireValues.sessionStop ∨ command = WireValues.emergencyStop then
    requireExactFields payload [] []
  else
    let positionAllowed := decide (command = WireValues.headPose)
    requireExactFields payload ["frame", "orientation"]
      (if positionAllowed then ["position"] else [])
    let _ ← requireString payload "frame" (some (cs "quest_local"))
    validateOrientation M (← requireMember payload "orientation")
    validatePresentPosition M (if positionAllowed then presentPosition payload else none)

/-- The orientation of `DecodePosePayload`. -/
def decodeOrientation (orientation : JsonValue) : Except CsException (QuaternionDto M) := do
  requireExactFields orientation ["x", "y", "z", "w"] []
  let x ← requireFiniteNumber M orientation "x"
  let y ← requireFiniteNumber M orientation "y"
  let z ← requireFiniteNumber M orientation "z"
  let w ← requireFiniteNumber M orientation "w"
  checkSquared M (squaredLength M x y z w)
  return ⟨.finite x, .finite y, .finite z, .finite w⟩

/-- The position of `DecodePosePayload`. -/
def decodePosition (position : JsonValue) : Except CsException (PositionDto M) := do
  requireObject position "position"
  requireExactFields position ["x", "y", "z"] []
  let x ← requireFiniteNumber M position "x"
  let y ← requireFiniteNumber M position "y"
  let z ← requireFiniteNumber M position "z"
  return ⟨.finite x, .finite y, .finite z⟩

/-- The optional position of `DecodePosePayload`. -/
def decodePresentPosition : Option JsonValue → Except CsException (Option (PositionDto M))
  | some position => some <$> decodePosition M position
  | none => .ok none

/-- `DecodePosePayload`. -/
def decodePosePayload (payload : JsonValue) (allowPosition : Bool) :
    Except CsException (HeadPosePayloadDto M) := do
  let _ ← requireString payload "frame" (some (cs "quest_local"))
  let orientation ← decodeOrientation M (← requireMember payload "orientation")
  let position ←
    decodePresentPosition M (if allowPosition then presentPosition payload else none)
  return ⟨some (cs "quest_local"), some orientation, position⟩

/-- `DecodeHeadRecenterPayload`. -/
def decodeHeadRecenterPayload (payload : JsonValue) :
    Except CsException (HeadRecenterPayloadDto M) := do
  let pose ← decodePosePayload M payload false
  return ⟨pose.frame, pose.orientation⟩

/-! ## `DecodeCommand` -/

def commandFields : List String :=
  ["schema_version", "command", "session_id", "sequence", "timestamp_ms", "payload"]

/-- The fields of a command before its payload. -/
structure Header where
  command : CsString
  sessionId : CsString
  sequence : CsLong
  timestampMs : CsLong

def Header.fields {Payload : Type} (header : Header) (payload : Payload) :
    CommandFields Payload where
  schemaVersion := some WireValues.schemaVersion
  command := some header.command
  sessionId := some header.sessionId
  sequence := header.sequence
  timestampMs := header.timestampMs
  payload := some payload

/-- The checks of `DecodeCommand` in front of the payload. -/
def decodeHeader (root : JsonValue) : Except CsException Header := do
  requireObject root "command root"
  requireExactFields root commandFields []
  let _ ← requireString root "schema_version" (some WireValues.schemaVersion)
  let command ← requireString root "command" none
  let sessionId ← requireNonEmptyString root "session_id"
  let sequence ← requireInteger root "sequence" 1
  let timestampMs ← requireInteger root "timestamp_ms" 0
  return ⟨command, sessionId, sequence, timestampMs⟩

/-- The `switch` of `DecodeCommand`. -/
def decodePayload (header : Header) (payload : JsonValue) :
    Except CsException (CommandDto M) := do
  if header.command = WireValues.sessionStart then
    let requestedMode ← requireString payload "requested_mode" (some (cs "head"))
    return .sessionStart (header.fields ⟨some requestedMode⟩)
  else if header.command = WireValues.sessionStop then
    return .sessionStop (header.fields ⟨⟩)
  else if header.command = WireValues.emergencyStop then
    return .emergencyStop (header.fields ⟨⟩)
  else if header.command = WireValues.modeSet then
    let mode ← requireString payload "mode" none
    return .modeSet (header.fields ⟨some mode⟩)
  else if header.command = WireValues.headPose then
    let pose ← decodePosePayload M payload true
    return .headPose (header.fields pose)
  else if header.command = WireValues.headRecenter then
    let pose ← decodeHeadRecenterPayload M payload
    return .headRecenter (header.fields pose)
  else invalid "Unknown command."

/-- `DecodeCommand` behind `Parse`. -/
def decodeCommandRoot (root : JsonValue) : Except CsException (CommandDto M) := do
  let header ← decodeHeader root
  let payload ← requireMember root "payload"
  requireObject payload "payload"
  validateCommandPayload M header.command payload
  decodePayload M header payload

/-- `DecodeCommand`. -/
def decodeCommand (json : CsString) : Except CsException (CommandDto M) := do
  decodeCommandRoot M (← StrictJsonParser.parse json)

end WireCodec

end ValeraControlTower.Unity

import ValeraControlTower.Unity.WireCodec

/-!
# `Runtime/Json/WireCodec.cs`, encoding of commands

An encoder checks the object, writes its text and decodes the text again before it is
returned.  `double.ToString` is a parameter.
-/

namespace ValeraControlTower.Unity

open Unicode CsString

namespace WireCodec

/-! ## Text -/

/-- An upper-case hexadecimal digit. -/
def hexChar (digit : ℕ) : Char :=
  if digit < 10 then Char.ofNat ('0'.toNat + digit) else Char.ofNat ('A'.toNat + digit - 10)

/-- `{0:X4}`. -/
def formatX4 (number : ℕ) : List Char :=
  [hexChar (number / 4096 % 16), hexChar (number / 256 % 16), hexChar (number / 16 % 16),
    hexChar (number % 16)]

/-- One round of the loop of `AppendString`. -/
def appendChar (unit : CodeUnit) : CsString :=
  if unit = CodeUnit.ofChar '"' then cs "\\\""
  else if unit = CodeUnit.ofChar '\\' then cs "\\\\"
  else if unit.val = 0x08 then cs "\\b"
  else if unit.val = 0x0C then cs "\\f"
  else if unit = CodeUnit.ofChar '\n' then cs "\\n"
  else if unit = CodeUnit.ofChar '\r' then cs "\\r"
  else if unit = CodeUnit.ofChar '\t' then cs "\\t"
  else if unit.val < 0x20 then cs "\\u" ++ utf16 (formatX4 unit.val)
  else [unit]

/-- The name of a field up to its colon. -/
def appendName (name : String) : CsString := cs "\"" ++ cs name ++ cs "\":"

/-- `AppendString`. -/
def appendString (name : String) (value : Option CsString) : CsString :=
  appendName name ++
    match value with
    | none => cs "null"
    | some text => cs "\"" ++ text.flatMap appendChar ++ cs "\""

/-- `AppendNumber` of a `long`. -/
def appendLong (name : String) (value : CsLong) : CsString :=
  appendName name ++ utf16 (Numeral.ofInt value.1).text

/-! ## Checks -/

/-- `RequireNonEmpty`. -/
def requireNonEmpty (value : Option CsString) (name : String) : Except CsException Unit :=
  match value with
  | none => invalid (name ++ " must not be empty or whitespace.")
  | some text =>
      if text.isEmpty || isWhiteSpaceOnly text then
        invalid (name ++ " must not be empty or whitespace.")
      else .ok ()

/-- `RequireNotNull`; the object that is not null. -/
def requireNotNull {α : Type} (value : Option α) (name : String) : Except CsException α :=
  match value with
  | some value => .ok value
  | none => invalid (name ++ " must not be null.")

/-- `RequireStringExact`. -/
def requireStringExact (value : Option CsString) (name : String) (expected : CsString) :
    Except CsException Unit :=
  if value ≠ some expected then invalid (name ++ " has an unsupported value.") else .ok ()

/-- `RequireSequence`. -/
def requireSequence (value : CsLong) : Except CsException Unit :=
  if value.1 < 1 then invalid "sequence must be at least 1." else .ok ()

/-- `RequireTimestamp`. -/
def requireTimestamp (value : CsLong) : Except CsException Unit :=
  if value.1 < 0 then invalid "timestamp_ms must be non-negative." else .ok ()

/-- `RequireModeString`. -/
def requireModeString (mode : Option CsString) : Except CsException Unit :=
  match mode with
  | none => invalid "mode must be a bounded non-whitespace string."
  | some mode =>
      if mode.isEmpty || mode.length > 64 || isWhiteSpaceOnly mode then
        invalid "mode must be a bounded non-whitespace string."
      else .ok ()

/-- `ValidateCommandHeader`. -/
def validateCommandHeader (schemaVersion command : Option CsString) (expected : CsString) :
    Except CsException Unit :=
  if schemaVersion ≠ some WireValues.schemaVersion then invalid "schema_version must be 0.1."
  else if command ≠ some expected then invalid "command mismatch."
  else .ok ()

/-- The checks every encoder of a command starts with; the payload that is not null. -/
def validateCommand {Payload : Type} (dto : CommandFields Payload) (expected : CsString) :
    Except CsException Payload := do
  validateCommandHeader dto.schemaVersion dto.command expected
  requireNonEmpty dto.sessionId "session_id"
  requireSequence dto.sequence
  requireTimestamp dto.timestampMs
  requireNotNull dto.payload "payload"

/-- The text of a command up to the brace of its payload. -/
def appendCommand {Payload : Type} (dto : CommandFields Payload) : CsString :=
  cs "\x7b" ++ appendString "schema_version" dto.schemaVersion ++ cs "," ++
    appendString "command" dto.command ++ cs "," ++
    appendString "session_id" dto.sessionId ++ cs "," ++
    appendLong "sequence" dto.sequence ++ cs "," ++
    appendLong "timestamp_ms" dto.timestampMs ++ cs "," ++
    (cs "\"" ++ cs "payload" ++ cs "\":\x7b")

variable {K : Type} (M : FloatMath K) (toText : FiniteDouble M → List Char)

variable {M} in
/-- `AppendNumber` of a `double`. -/
def appendDouble (name : String) : CsDouble M → Except CsException CsString
  | .finite value => .ok (appendName name ++ utf16 (toText value))
  | .infinity _ | .nan => invalid (name ++ " must be finite.")

variable {M} in
/-- `AppendQuaternion`. -/
def appendQuaternion (dto : QuaternionDto M) : Except CsException CsString := do
  let x ← appendDouble toText "x" dto.x
  let y ← appendDouble toText "y" dto.y
  let z ← appendDouble toText "z" dto.z
  let w ← appendDouble toText "w" dto.w
  return cs "\"" ++ cs "orientation" ++ cs "\":\x7b" ++ x ++ cs "," ++ y ++ cs "," ++ z ++ cs "," ++
    w ++ cs "\x7d"

variable {M} in
/-- `AppendPosition`. -/
def appendPosition (dto : PositionDto M) : Except CsException CsString := do
  let x ← appendDouble toText "x" dto.x
  let y ← appendDouble toText "y" dto.y
  let z ← appendDouble toText "z" dto.z
  return cs "\"" ++ cs "position" ++ cs "\":\x7b" ++ x ++ cs "," ++ y ++ cs "," ++ z ++ cs "\x7d"

variable {M} in
/-- The position of a `head.pose`, if there is one, behind a comma. -/
def appendOptionalPosition : Option (PositionDto M) → Except CsException CsString
  | none => .ok []
  | some dto => do
      let position ← appendPosition toText dto
      return cs "," ++ position

variable [Field K] [LinearOrder K]

/-- `ValidateQuaternion`; the square of what is not finite is not finite. -/
def validateQuaternion (dto : QuaternionDto M) : Except CsException Unit :=
  match dto with
  | ⟨.finite x, .finite y, .finite z, .finite w⟩ => checkSquared M (squaredLength M x y z w)
  | _ => invalid "Quaternion must be finite and non-zero."

/-! ## Encoders -/

/-- `EncodeSessionStart`. -/
def encodeSessionStart (dto : CommandFields SessionStartPayloadDto) :
    Except CsException CsString := do
  let payload ← validateCommand dto WireValues.sessionStart
  requireStringExact payload.requestedMode "requested_mode" (cs "head")
  return appendCommand dto ++ appendString "requested_mode" payload.requestedMode ++ cs "\x7d\x7d"

/-- `EncodeSessionStop` and `EncodeEmergencyStop`. -/
def encodeEmpty (expected : CsString) (dto : CommandFields EmptyPayloadDto) :
    Except CsException CsString := do
  let _ ← validateCommand dto expected
  return appendCommand dto ++ cs "\x7d" ++ cs "\x7d"

def encodeSessionStop : CommandFields EmptyPayloadDto → Except CsException CsString :=
  encodeEmpty WireValues.sessionStop

def encodeEmergencyStop : CommandFields EmptyPayloadDto → Except CsException CsString :=
  encodeEmpty WireValues.emergencyStop

/-- `EncodeModeSet`. -/
def encodeModeSet (dto : CommandFields ModeSetPayloadDto) : Except CsException CsString := do
  let payload ← validateCommand dto WireValues.modeSet
  requireModeString payload.mode
  return appendCommand dto ++ appendString "mode" payload.mode ++ cs "\x7d\x7d"

/-- `EncodeHeadPose`. -/
def encodeHeadPose (dto : CommandFields (HeadPosePayloadDto M)) : Except CsException CsString := do
  let payload ← validateCommand dto WireValues.headPose
  let orientation ← requireNotNull payload.orientation "payload.orientation"
  requireStringExact payload.frame "frame" (cs "quest_local")
  validateQuaternion M orientation
  let quaternion ← appendQuaternion toText orientation
  let position ← appendOptionalPosition toText payload.position
  return appendCommand dto ++ appendString "frame" payload.frame ++ cs "," ++ quaternion ++
    position ++ cs "\x7d\x7d"

/-- `EncodeHeadRecenter`. -/
def encodeHeadRecenter (dto : CommandFields (HeadRecenterPayloadDto M)) :
    Except CsException CsString := do
  let payload ← validateCommand dto WireValues.headRecenter
  let orientation ← requireNotNull payload.orientation "payload.orientation"
  requireStringExact payload.frame "frame" (cs "quest_local")
  validateQuaternion M orientation
  let quaternion ← appendQuaternion toText orientation
  return appendCommand dto ++ appendString "frame" payload.frame ++ cs "," ++
    quaternion ++ cs "\x7d\x7d"

/-- The `switch` of `EncodeCommand`. -/
def encodeFields : CommandDto M → Except CsException CsString
  | .sessionStart dto => encodeSessionStart dto
  | .sessionStop dto => encodeSessionStop dto
  | .modeSet dto => encodeModeSet dto
  | .headPose dto => encodeHeadPose M toText dto
  | .headRecenter dto => encodeHeadRecenter M toText dto
  | .emergencyStop dto => encodeEmergencyStop dto

/-- `EncodeCommand` of an object of one of the six classes. -/
def encodeCommand (dto : CommandDto M) : Except CsException CsString := do
  let json ← encodeFields M toText dto
  let _ ← decodeCommand M json
  return json

end WireCodec

end ValeraControlTower.Unity

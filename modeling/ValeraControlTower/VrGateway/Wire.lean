import ValeraControlTower.VrGateway.JsonDecoder
import ValeraControlTower.VrGateway.Messages

/-!
# `robot/vr_gateway/wire.py`, decoding

`decode_command` and what it calls, in the order of the checks.  The hooks of the
standard decoder are a parameter of `parseJson` so that a run of the decoder can be
watched; `decodeCommand` passes those of the source.
-/

namespace ValeraControlTower

open Unicode Json

namespace Wire

def maxInputCharacters : ℕ := 65536

def maxInputUtf8Bytes : ℕ := 65536

def maxJsonDepth : ℕ := 16

def maxInt64 : ℤ := 9223372036854775807

def maxModeLength : ℕ := 64

variable {K : Type}

/-! ## Text -/

/-- `str.isspace` of one character. -/
def isSpace (point : CodePoint) : Bool :=
  let code := point.val
  decide (0x09 ≤ code ∧ code ≤ 0x0D) || decide (0x1C ≤ code ∧ code ≤ 0x20) ||
    code == 0x85 || code == 0xA0 || code == 0x1680 ||
    decide (0x2000 ≤ code ∧ code ≤ 0x200A) || code == 0x2028 || code == 0x2029 ||
    code == 0x202F || code == 0x205F || code == 0x3000

/-- `str.isspace`. -/
def isspace (text : PyStr) : Bool := !text.isEmpty && text.all isSpace

/-- `str.strip() == ""`. -/
def stripsToEmpty (text : PyStr) : Bool := text.all isSpace

/-- `len(text.encode("utf-8"))`; surrogates cannot be encoded. -/
def utf8Length (text : PyStr) : Except PyException ℕ :=
  if text.any CodePoint.isSurrogate then .error .unicodeEncodeError
  else .ok (text.map CodePoint.utf8Length).sum

/-- The state of the bracket scan. -/
structure BracketScan where
  depth : ℤ := 0
  maxDepth : ℤ := 0
  inString : Bool := false
  escape : Bool := false

/-- One round of the loop of `_check_nesting_depth`. -/
def BracketScan.next (scan : BracketScan) (point : CodePoint) : Except PyException BracketScan :=
  if scan.escape then .ok { scan with escape := false }
  else if point = CodePoint.ofChar '\\' then .ok { scan with escape := true }
  else if point = CodePoint.ofChar '"' then .ok { scan with inString := !scan.inString }
  else if scan.inString then .ok scan
  else if point = CodePoint.ofChar '{' ∨ point = CodePoint.ofChar '[' then
    let scan := { scan with
      depth := scan.depth + 1
      maxDepth := max scan.maxDepth (scan.depth + 1) }
    if scan.maxDepth > (maxJsonDepth : ℤ) then .error (.wireError "JSON nesting depth exceeds 16")
    else .ok scan
  else if point = CodePoint.ofChar '}' ∨ point = CodePoint.ofChar ']' then
    let scan := { scan with depth := scan.depth - 1 }
    if scan.depth < 0 then .error (.wireError "unbalanced JSON brackets") else .ok scan
  else .ok scan

/-- `_check_nesting_depth`. -/
def checkNestingDepth (raw : PyStr) : Except PyException Unit := do
  let _ ← raw.foldlM BracketScan.next {}

/-! ## Documents -/

/-- `_reject_duplicate_keys`, with the dictionary built so far. -/
def collectKeys (normalized : PyPairs K) : PyPairs K → Except PyException (PyPairs K)
  | [] => .ok normalized
  | (key, value) :: pairs =>
      if key ∈ normalized.map Prod.fst then .error (.wireError "duplicate keys in JSON object")
      else collectKeys (normalized ++ [(key, value)]) pairs

/-- `_reject_duplicate_keys`. -/
def rejectDuplicateKeys (pairs : PyPairs K) : Except PyException (PyJson K) :=
  (collectKeys [] pairs).map .obj

/-- `_reject_constant`. -/
def rejectConstant (value : String) : Except PyException (PyJson K) :=
  .error (.wireError ("invalid JSON literal '" ++ value ++ "'"))

mutual

/-- `_check_depth`. -/
def checkDepth (depth : ℕ) : PyJson K → Except PyException Unit
  | .obj members =>
      if depth > maxJsonDepth then .error (.wireError "JSON nesting depth exceeds 16")
      else checkDepthMembers (depth + 1) members
  | .arr items =>
      if depth > maxJsonDepth then .error (.wireError "JSON nesting depth exceeds 16")
      else checkDepthItems (depth + 1) items
  | _ =>
      if depth > maxJsonDepth then .error (.wireError "JSON nesting depth exceeds 16")
      else .ok ()

def checkDepthItems (depth : ℕ) : List (PyJson K) → Except PyException Unit
  | [] => .ok ()
  | item :: items => do
      checkDepth depth item
      checkDepthItems depth items

def checkDepthMembers (depth : ℕ) : PyPairs K → Except PyException Unit
  | [] => .ok ()
  | (_, value) :: members => do
      checkDepth depth value
      checkDepthMembers depth members

end

/-- A decoded string with a surrogate is malformed. -/
def rejectSurrogateString (text : PyStr) : Except PyException Unit :=
  if text.any CodePoint.isSurrogate then
    .error (.wireError "malformed Unicode surrogate in decoded string")
  else .ok ()

mutual

/-- `_reject_surrogates`. -/
def rejectSurrogates : PyJson K → Except PyException Unit
  | .str text => rejectSurrogateString text
  | .obj members => rejectSurrogatesMembers members
  | .arr items => rejectSurrogatesItems items
  | _ => .ok ()

def rejectSurrogatesItems : List (PyJson K) → Except PyException Unit
  | [] => .ok ()
  | item :: items => do
      rejectSurrogates item
      rejectSurrogatesItems items

def rejectSurrogatesMembers : PyPairs K → Except PyException Unit
  | [] => .ok ()
  | (key, value) :: members => do
      rejectSurrogateString key
      rejectSurrogates value
      rejectSurrogatesMembers members

end

/-- The hooks `_parse_json` passes, with `int` for integer literals. -/
def decoderHooks (M : FloatMath K) (parseInt : Numeral → Except PyException ℤ) :
    DecoderHooks K where
  objectPairsHook := rejectDuplicateKeys
  parseConstant := rejectConstant
  parseInt
  parseFloat := ValeraControlTower.parseFloat M

/-- The `except` clauses around `raw_decode`. -/
def catchDecodeErrors {α : Type} : Except PyException α → Except PyException α
  | .error (.jsonDecodeError message) => .error (.wireError message)
  | .error .recursionError => .error (.wireError "JSON recursion depth exceeded")
  | outcome => outcome

/-- `_parse_json`, with the conversion of integer literals. -/
def parseJson (M : FloatMath K) (parseInt : Numeral → Except PyException ℤ) (raw : PyStr) :
    Except PyException (PyJson K) := do
  checkNestingDepth raw
  let (document, rest) ← catchDecodeErrors
    (JsonDecoder.rawDecode (decoderHooks M parseInt) (JsonDecoder.skipWhitespace raw))
  if !stripsToEmpty rest then throw (.wireError "trailing data after JSON document")
  checkDepth 1 document
  rejectSurrogates document
  return document

/-! ## Fields -/

/-- `set(value.keys()) == expected`. -/
def sameKeys (members : PyPairs K) (expected : List PyStr) : Bool :=
  (members.map Prod.fst).all (· ∈ expected) && expected.all (· ∈ members.map Prod.fst)

/-- `value[key]`, once the keys have been checked. -/
def getItem (members : PyPairs K) (key : PyStr) : PyJson K :=
  (members.lookup key).getD .null

def envelopeKeys : List PyStr :=
  [py "schema_version", py "command", py "session_id", py "sequence", py "timestamp_ms",
    py "payload"]

def headPoseKeys : List PyStr := [py "frame", py "orientation", py "position"]

def headRecenterKeys : List PyStr := [py "frame", py "orientation"]

def quaternionKeys : List PyStr := [py "x", py "y", py "z", py "w"]

def positionKeys : List PyStr := [py "x", py "y", py "z"]

def sessionStartKeys : List PyStr := [py "requested_mode"]

def modeSetKeys : List PyStr := [py "mode"]

/-- `_COMMAND_BY_NAME`. -/
def commandByName (name : PyStr) : Option CommandName :=
  [CommandName.sessionStart, .sessionStop, .modeSet, .headPose, .headRecenter,
    .emergencyStop].find? fun command => command.value = name

/-- The object a decoded value is; containers are of no type the field checks accept. -/
def object : PyJson K → PyObject K
  | .null => .none
  | .bool value => .bool value
  | .num (.int value) => .int value
  | .num (.float value) => .float value
  | .str text => .str text
  | .arr _ | .obj _ => .other

/-- `_validate_session_id`. -/
def validateSessionId (value : PyObject K) :
    Except PyException { text : PyStr // text ≠ [] ∧ isspace text = false } :=
  match value with
  | .str text =>
      if present : text ≠ [] then
        if blank : isspace text = true ∨ stripsToEmpty text = true then
          .error (.wireError "session_id must be non-empty and non-whitespace")
        else .ok ⟨text, present, by
          simp only [not_or, Bool.not_eq_true] at blank
          exact blank.1⟩
      else .error (.wireError "session_id must be a non-empty string")
  | _ => .error (.wireError "session_id must be a non-empty string")

theorem validateSessionId_str {text : PyStr} (nonempty : text ≠ [])
    (visible : isspace text = false) :
    validateSessionId (.str text : PyObject K) = .ok ⟨text, nonempty, visible⟩ := by
  have notBlank : ¬(isspace text = true ∨ stripsToEmpty text = true) := by
    have some : text.isEmpty = false := by simpa using nonempty
    simp only [isspace, some, Bool.not_false, Bool.true_and] at visible
    simp only [isspace, some, Bool.not_false, Bool.true_and, stripsToEmpty, visible, or_self]
    exact Bool.false_ne_true
  unfold validateSessionId
  dsimp only
  rw [dif_pos nonempty, dif_neg notBlank]

/-- A number between the least one allowed and `MAX_INT64`. -/
def InRange (minimum value : ℤ) : Prop := minimum ≤ value ∧ value ≤ maxInt64

/-- `_validate_int_field`. -/
def validateIntField (value : PyObject K) (name : String) (minimum : ℤ) :
    Except PyException { number : ℤ // minimum ≤ number ∧ number ≤ maxInt64 } :=
  match value with
  | .int number =>
      if tooSmall : number < minimum then
        .error (.wireError (name ++ " must be at least " ++ toString minimum))
      else if tooLarge : number > maxInt64 then
        .error (.wireError (name ++ " must not exceed Int64.MaxValue"))
      else .ok ⟨number, not_lt.mp tooSmall, not_lt.mp tooLarge⟩
  | _ => .error (.wireError (name ++ " must be an integer"))

theorem validateIntField_int {minimum value : ℤ} (inRange : InRange minimum value) (name : String) :
    validateIntField (.int value : PyObject K) name minimum = .ok ⟨value, inRange⟩ := by
  unfold validateIntField
  dsimp only
  rw [dif_neg (not_lt.mpr inRange.1), dif_neg (not_lt.mpr inRange.2)]

/-- The `except MessageValidationError` clauses around constructors. -/
def catchMessageErrors {α : Type} : Except PyException α → Except PyException α
  | .error (.messageValidationError message) => .error (.wireError message)
  | outcome => outcome

variable [Field K] [LinearOrder K] {M : FloatMath K}

/-- `_finite_json_number`: the number as a `float`. -/
def finiteJsonNumber (M : FloatMath K) (owner : String) (value : PyNumber K) :
    Except PyException K := do
  let value := object (.num value)
  if ← value.isfinite M then return value.toFloat M
  else throw (.messageValidationError (owner ++ " values must be finite JSON numbers"))

/-- One round of the component loops of `_decode_quaternion` and
`_decode_position_optional`. -/
def decodeComponent (M : FloatMath K) (owner : String) (value : PyJson K) :
    Except PyException (PyNumber K) :=
  match value with
  | .num number => do
      if ← (object (.num number)).isfinite M then return number
      else throw (.wireError (owner ++ " values must be finite JSON numbers"))
  | _ => .error (.wireError (owner ++ " values must be finite JSON numbers"))

/-- `Quaternion(x, y, z, w)`. -/
def constructQuaternion (M : FloatMath K) (x y z w : PyNumber K) :
    Except PyException (Quaternion M) := do
  let x ← finiteJsonNumber M "quaternion" x
  let y ← finiteJsonNumber M "quaternion" y
  let z ← finiteJsonNumber M "quaternion" z
  let w ← finiteJsonNumber M "quaternion" w
  Quaternion.new M x y z w

/-- `Position(x, y, z)`. -/
def constructPosition (M : FloatMath K) (x y z : PyNumber K) :
    Except PyException (Position K) := do
  let x ← finiteJsonNumber M "position" x
  let y ← finiteJsonNumber M "position" y
  let z ← finiteJsonNumber M "position" z
  return ⟨x, y, z⟩

/-- `_decode_quaternion`. -/
def decodeQuaternion (M : FloatMath K) (value : PyJson K) : Except PyException (Quaternion M) :=
  match value with
  | .obj members =>
      if sameKeys members quaternionKeys then do
        let x ← decodeComponent M "quaternion" (getItem members (py "x"))
        let y ← decodeComponent M "quaternion" (getItem members (py "y"))
        let z ← decodeComponent M "quaternion" (getItem members (py "z"))
        let w ← decodeComponent M "quaternion" (getItem members (py "w"))
        catchMessageErrors (constructQuaternion M x y z w)
      else .error (.wireError "orientation must be an object with x,y,z,w")
  | _ => .error (.wireError "orientation must be an object with x,y,z,w")

/-- `_decode_position_optional`. -/
def decodePositionOptional (M : FloatMath K) (value : PyJson K) :
    Except PyException (Option (Position K)) :=
  match value with
  | .null => .ok none
  | .obj members =>
      if sameKeys members positionKeys then do
        let x ← decodeComponent M "position" (getItem members (py "x"))
        let y ← decodeComponent M "position" (getItem members (py "y"))
        let z ← decodeComponent M "position" (getItem members (py "z"))
        let position ← catchMessageErrors (constructPosition M x y z)
        return some position
      else .error (.wireError "position must be an object with x,y,z or null")
  | _ => .error (.wireError "position must be an object with x,y,z or null")

/-! ## Payloads -/

/-- `_decode_session_start`. -/
def decodeSessionStart (payload : PyPairs K) : Except PyException SessionStartPayload :=
  if sameKeys payload sessionStartKeys then
    match getItem payload (py "requested_mode") with
    | .str requestedMode =>
        if exact : requestedMode = py "head" then .ok ⟨requestedMode, by simp [exact]; decide⟩
        else .error (.wireError "session.start requested_mode must be exactly \"head\"")
    | _ => .error (.wireError "session.start requested_mode must be exactly \"head\"")
  else .error (.wireError "session.start payload must have requested_mode only")

/-- `_decode_mode_set`. -/
def decodeModeSet (payload : PyPairs K) : Except PyException ModeSetPayload :=
  if sameKeys payload modeSetKeys then
    match getItem payload (py "mode") with
    | .str mode =>
        if blank : mode = [] ∨ isspace mode = true then
          .error (.wireError "mode must be non-empty and non-whitespace")
        else if mode.length > maxModeLength then
          .error (.wireError "mode must be at most 64 characters")
        else .ok ⟨mode, fun empty => blank (.inl empty)⟩
    | _ => .error (.wireError "mode must be a string")
  else .error (.wireError "mode.set payload must have mode only")

/-- `_decode_empty_payload`. -/
def decodeEmptyPayload (payload : PyPairs K) : Except PyException Unit :=
  if payload.isEmpty then .ok () else .error (.wireError "payload must be an empty object")

/-- The frame of a pose. -/
def decodeFrame (value : PyJson K) :
    Except PyException { frame : PyStr // frame = questLocalFrame } :=
  match value with
  | .str frame =>
      if exact : frame = questLocalFrame then .ok ⟨frame, exact⟩
      else .error (.wireError "frame must be quest_local")
  | _ => .error (.wireError "frame must be quest_local")

/-- The position of a `head.pose`, which may be left out. -/
def decodePositionField (M : FloatMath K) (payload : PyPairs K) :
    Except PyException (Option (Position K)) :=
  if py "position" ∈ payload.map Prod.fst then
    decodePositionOptional M (getItem payload (py "position"))
  else .ok none

/-- `_decode_head_pose`. -/
def decodeHeadPose (M : FloatMath K) (payload : PyPairs K) :
    Except PyException (PosePayload M) :=
  let keys := payload.map Prod.fst
  if ¬(py "frame" ∈ keys ∧ py "orientation" ∈ keys) then
    .error (.wireError "head.pose payload must contain frame and orientation")
  else if ¬keys.all (· ∈ headPoseKeys) then
    .error (.wireError "head.pose payload has unknown fields")
  else do
    let frame ← decodeFrame (getItem payload (py "frame"))
    let orientation ← decodeQuaternion M (getItem payload (py "orientation"))
    let position ← decodePositionField M payload
    return ⟨frame.1, orientation, position, frame_exact frame⟩

/-- `_decode_head_recenter`. -/
def decodeHeadRecenter (M : FloatMath K) (payload : PyPairs K) :
    Except PyException (PosePayload M) :=
  if sameKeys payload headRecenterKeys then do
    let frame ← decodeFrame (getItem payload (py "frame"))
    let orientation ← decodeQuaternion M (getItem payload (py "orientation"))
    return ⟨frame.1, orientation, none, frame_exact frame⟩
  else .error (.wireError "head.recenter payload must have exactly frame and orientation")

/-- `_decode_payload`. -/
def decodePayload (M : FloatMath K) (command : CommandName) (payload : PyJson K) :
    Except PyException (Payload M) :=
  match payload with
  | .obj payload =>
      match command with
      | .sessionStart => Payload.sessionStart <$> decodeSessionStart payload
      | .sessionStop => (fun _ => Payload.empty) <$> decodeEmptyPayload payload
      | .modeSet => Payload.modeSet <$> decodeModeSet payload
      | .emergencyStop => (fun _ => Payload.empty) <$> decodeEmptyPayload payload
      | .headPose => Payload.pose <$> decodeHeadPose M payload
      | .headRecenter => Payload.pose <$> decodeHeadRecenter M payload
  | _ => .error (.wireError "payload must be a JSON object")

/-! ## Commands -/

/-- The fields of an envelope before its payload, checked. -/
structure Header where
  command : CommandName
  sessionId : PyStr
  sequence : ℤ
  timestampMs : ℤ
  sessionIdNonempty : sessionId ≠ []
  sessionIdVisible : isspace sessionId = false
  sequencePositive : 1 ≤ sequence
  sequenceBounded : sequence ≤ maxInt64
  timestampNonnegative : 0 ≤ timestampMs
  timestampBounded : timestampMs ≤ maxInt64

def decodeSchemaVersion (value : PyJson K) : Except PyException Unit :=
  match value with
  | .str version =>
      if version = schemaVersion then .ok ()
      else .error (.wireError "schema_version must be 0.1")
  | _ => .error (.wireError "schema_version must be 0.1")

def decodeCommandName (value : PyJson K) : Except PyException CommandName :=
  match value with
  | .str name =>
      match commandByName name with
      | some command => .ok command
      | none => .error (.wireError "unknown command discriminator")
  | _ => .error (.wireError "unknown command discriminator")

/-- The checks of `decode_command` between `_parse_json` and `_decode_payload`. -/
def decodeHeader (members : PyPairs K) : Except PyException Header :=
  if sameKeys members envelopeKeys then do
    decodeSchemaVersion (getItem members (py "schema_version"))
    let command ← decodeCommandName (getItem members (py "command"))
    let sessionId ← validateSessionId (object (getItem members (py "session_id")))
    let sequence ← validateIntField (object (getItem members (py "sequence"))) "sequence" 1
    let timestampMs ←
      validateIntField (object (getItem members (py "timestamp_ms"))) "timestamp_ms" 0
    return ⟨command, sessionId.1, sequence.1, timestampMs.1, sessionId.2.1, sessionId.2.2,
      sequence.2.1, sequence.2.2, timestampMs.2.1, timestampMs.2.2⟩
  else .error (.wireError "envelope must have exactly the required fields")

/-- `CommandEnvelope("0.1", …)`: the header has passed what the constructor checks. -/
def Header.envelope (header : Header) (payload : Payload M) : CommandEnvelope M where
  schemaVersion := schemaVersion
  command := header.command
  sessionId := header.sessionId
  sequence := header.sequence
  timestampMs := header.timestampMs
  payload := payload
  schemaVersionExact := rfl
  sessionIdNonempty := header.sessionIdNonempty
  sequencePositive := header.sequencePositive
  timestampNonnegative := header.timestampNonnegative

/-- `decode_command` behind `_parse_json`. -/
def decodeDocument (M : FloatMath K) (document : PyJson K) :
    Except PyException (CommandEnvelope M) :=
  match document with
  | .obj members => do
      let header ← decodeHeader members
      let payload ← decodePayload M header.command (getItem members (py "payload"))
      return header.envelope payload
  | _ => .error (.wireError "command must be a JSON object")

/-- The checks of `decode_command` before `_parse_json`. -/
def checkSize (raw : PyStr) : Except PyException Unit :=
  if raw.length > maxInputCharacters then
    .error (.wireError "command exceeds maximum input characters")
  else
    match utf8Length raw with
    | .error _ => .error (.wireError "command is not valid UTF-8")
    | .ok bytes =>
        if bytes > maxInputUtf8Bytes then
          .error (.wireError "command exceeds maximum UTF-8 bytes")
        else .ok ()

/-- `decode_command`. -/
def decodeCommand (M : FloatMath K) (raw : PyStr) : Except PyException (CommandEnvelope M) := do
  checkSize raw
  let document ← parseJson M parseInt raw
  decodeDocument M document

end Wire

end ValeraControlTower

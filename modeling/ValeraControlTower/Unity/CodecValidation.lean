import ValeraControlTower.Unity.EncodedEvents
import ValeraControlTower.Unity.ParserProgress

/-!
# The codec returns or refuses

No check, decoder or encoder throws anything but a `WireValidationException`: members are
asked of objects only, and a correlation is made of an id and a sequence that have passed
the checks of its constructor.
-/

namespace ValeraControlTower.Unity

open Unicode Json CsString

/-- The call returns or throws a `WireValidationException`. -/
abbrev FailsClosed {α : Type} (outcome : Except CsException α) : Prop :=
  Validated (fun _ => True) outcome

namespace WireCodec

/-! ## Fields -/

section Fields

variable (members : List (CsString × JsonValue)) (name : String)

theorem validated_requireMember : FailsClosed (requireMember (.obj members) name) := by
  unfold requireMember
  dsimp only
  split
  · exact .ok trivial
  · exact .invalid _

theorem validated_requireString (expected : Option CsString) :
    FailsClosed (requireString (.obj members) name expected) := by
  apply (validated_requireMember members name).bind
  intro value _
  cases value with
  | str text =>
      cases expected with
      | none => exact .ok trivial
      | some expected =>
          dsimp only
          split
          · exact .ok trivial
          · exact .invalid _
  | null | bool _ | num _ | arr _ | obj _ => exact .invalid _

theorem validated_requireNonEmptyString :
    Validated (fun text => isWhiteSpaceOnly text = false)
      (requireNonEmptyString (.obj members) name) := by
  apply (validated_requireString members name none).bind
  intro text _
  split
  · exact .invalid _
  · next shown =>
      rw [Bool.or_eq_true, not_or, Bool.not_eq_true, Bool.not_eq_true] at shown
      exact .ok shown.2

theorem validated_requireModeStringFromJson :
    FailsClosed (requireModeStringFromJson (.obj members)) := by
  apply (validated_requireString members "mode" none).bind
  intro mode _
  split
  · exact .invalid _
  · exact .ok trivial

theorem validated_requireInteger (minimum : ℤ) :
    Validated (fun value => minimum ≤ value.1) (requireInteger (.obj members) name minimum) := by
  apply (validated_requireMember members name).bind
  intro value _
  cases value with
  | num text =>
      dsimp only
      split
      · split
        · exact .invalid _
        · next above => exact .ok (not_lt.mp above)
      · exact .invalid _
  | null | bool _ | str _ | arr _ | obj _ => exact .invalid _

theorem validated_requireKnown (values : List String) :
    FailsClosed (requireKnown (.obj members) name values) := by
  apply (validated_requireString members name none).bind
  intro text _
  split
  · exact .ok trivial
  · exact .invalid _

theorem validated_requireHold : FailsClosed (requireHold (.obj members)) := by
  apply (validated_requireMember members "hold").bind
  intro value _
  cases value with
  | bool _ => exact .ok trivial
  | null | str _ | num _ | arr _ | obj _ => exact .invalid _

end Fields

/-- A value is an object. -/
def IsObject (value : JsonValue) : Prop := ∃ members, value = .obj members

theorem validated_requireObject (value : JsonValue) (context : String) :
    Validated (fun _ => IsObject value) (requireObject value context) := by
  cases value with
  | obj members => exact .ok ⟨members, rfl⟩
  | null | bool _ | str _ | num _ | arr _ => exact .invalid _

theorem validated_requireExactFields (value : JsonValue) (required optional : List String) :
    Validated (fun _ => IsObject value) (requireExactFields value required optional) := by
  cases value with
  | obj members =>
      unfold requireExactFields
      dsimp only
      split
      · exact .invalid _
      · split
        · exact .refused
        · exact .ok ⟨members, rfl⟩
  | null | bool _ | str _ | num _ | arr _ => exact .invalid _

variable {K : Type} {M : FloatMath K}

theorem validated_requireFiniteNumber (members : List (CsString × JsonValue)) (name : String) :
    FailsClosed (requireFiniteNumber M (.obj members) name) := by
  apply (validated_requireMember members name).bind
  intro value _
  cases value with
  | num text =>
      dsimp only
      split
      · exact .ok trivial
      · exact .invalid _
  | null | bool _ | str _ | arr _ | obj _ => exact .invalid _

/-! ## Decoding of events -/

theorem validated_decodeCorrelation (members : List (CsString × JsonValue)) (required : Bool) :
    FailsClosed (decodeCorrelation (.obj members) required) := by
  apply (validated_requireMember members "session_id").bind
  intro session _
  apply (validated_requireMember members "sequence").bind
  intro sequence _
  split
  · split
    · exact .invalid _
    · exact .ok trivial
  · exact .invalid _
  · exact .invalid _
  · apply (validated_requireNonEmptyString members "session_id").bind
    intro sessionId visible
    apply (validated_requireInteger members "sequence" 1).bind
    intro value positive
    rw [new_available visible positive]
    exact .ok trivial

theorem validated_decodeGatewayState (members : List (CsString × JsonValue)) :
    FailsClosed (decodeGatewayState (.obj members)) := by
  apply (validated_requireInteger members _ _).bind
  intro _ _
  apply (validated_requireString members _ _).bind
  intro _ _
  apply (validated_decodeCorrelation members _).bind
  intro _ _
  exact .ok trivial

theorem validated_decodeNeckTarget (members : List (CsString × JsonValue)) (required : Bool) :
    FailsClosed (decodeNeckTarget M (.obj members) required) := by
  apply (validated_requireInteger members _ _).bind
  intro _ _
  apply (validated_decodeCorrelation members _).bind
  intro _ _
  apply (validated_requireFiniteNumber members _).bind
  intro _ _
  apply (validated_requireFiniteNumber members _).bind
  intro _ _
  apply (validated_requireMember members _).bind
  intro _ _
  exact .ok trivial

theorem validated_decodeSafetyStop (members : List (CsString × JsonValue)) :
    FailsClosed (decodeSafetyStop (.obj members)) := by
  apply (validated_requireInteger members _ _).bind
  intro _ _
  apply (validated_requireString members _ _).bind
  intro _ _
  apply (validated_decodeCorrelation members _).bind
  intro _ _
  apply (validated_requireString members _ _).bind
  intro _ _
  apply (validated_requireString members _ _).bind
  intro _ _
  apply (validated_requireString members _ _).bind
  intro _ _
  exact .ok trivial

theorem validated_decodeCommandRejected (members : List (CsString × JsonValue)) :
    FailsClosed (decodeCommandRejected (.obj members)) := by
  apply (validated_requireInteger members _ _).bind
  intro _ _
  apply (validated_requireString members _ _).bind
  intro _ _
  apply (validated_requireString members _ _).bind
  intro _ _
  apply (validated_decodeCorrelation members _).bind
  intro _ _
  exact .ok trivial

theorem validated_decodeEventType (members : List (CsString × JsonValue)) (eventType : CsString) :
    FailsClosed (decodeEventType M (.obj members) eventType) := by
  unfold decodeEventType
  split
  · apply (validated_requireExactFields _ _ _).bind
    intro _ _
    apply (validated_requireKnown members _ _).bind
    intro _ _
    exact (validated_decodeGatewayState members).bind fun _ _ => .ok trivial
  split
  · apply (validated_requireExactFields _ _ _).bind
    intro _ _
    apply (validated_requireFiniteNumber members _).bind
    intro _ _
    apply (validated_requireFiniteNumber members _).bind
    intro _ _
    apply (validated_requireHold members).bind
    intro _ _
    exact (validated_decodeNeckTarget members true).bind fun _ _ => .ok trivial
  split
  · apply (validated_requireExactFields _ _ _).bind
    intro _ _
    apply (validated_requireKnown members _ _).bind
    intro _ _
    apply (validated_requireNonEmptyString members _).bind
    intro _ _
    apply (validated_requireNonEmptyString members _).bind
    intro _ _
    apply (validated_requireNonEmptyString members _).bind
    intro _ _
    exact (validated_decodeSafetyStop members).bind fun _ _ => .ok trivial
  split
  · apply (validated_requireExactFields _ _ _).bind
    intro _ _
    apply (validated_requireKnown members _ _).bind
    intro _ _
    apply (validated_requireNonEmptyString members _).bind
    intro _ _
    exact (validated_decodeCommandRejected members).bind fun _ _ => .ok trivial
  · exact .invalid _

/-- `DecodeEvent` returns or throws a `WireValidationException`. -/
theorem validated_decodeEvent (json : CsString) : FailsClosed (decodeEvent M json) := by
  apply (StrictJsonParser.validated_parse json).bind
  intro root _
  apply (validated_requireObject root _).bind
  rintro _ ⟨members, rfl⟩
  apply (validated_requireString members _ _).bind
  intro _ _
  apply (validated_requireString members _ _).bind
  intro eventType _
  apply (validated_requireInteger members _ _).bind
  intro _ _
  exact validated_decodeEventType members eventType

/-! ## Encoding of events -/

variable {toText : FiniteDouble M → List Char}

theorem validated_validateEventHeader (schemaVersion eventType : Option CsString)
    (expected : CsString) : FailsClosed (validateEventHeader schemaVersion eventType expected) := by
  unfold validateEventHeader
  split
  · exact .invalid _
  · split
    · exact .invalid _
    · exact .ok trivial

theorem validated_requireKnownValue (value : Option CsString) (name : String)
    (values : List String) : FailsClosed (requireKnownValue value name values) := by
  unfold requireKnownValue
  split
  · exact .ok trivial
  · exact .invalid _

theorem validated_requireNonEmpty (value : Option CsString) (name : String) :
    FailsClosed (requireNonEmpty value name) := by
  cases value with
  | none => exact .invalid _
  | some text =>
      unfold requireNonEmpty
      dsimp only
      split
      · exact .invalid _
      · exact .ok trivial

theorem validated_validateFinite (value : CsDouble M) (name : String) :
    FailsClosed (validateFinite M value name) := by
  cases value with
  | finite _ => exact .ok trivial
  | infinity _ | nan => exact .invalid _

theorem validated_appendDouble (name : String) (value : CsDouble M) :
    FailsClosed (appendDouble toText name value) := by
  cases value with
  | finite _ => exact .ok trivial
  | infinity _ | nan => exact .invalid _

theorem validated_encodeEventFields (dto : EventDto M) :
    FailsClosed (encodeEventFields M toText dto) := by
  cases dto with
  | gatewayState dto =>
      apply (validated_validateEventHeader _ _ _).bind
      intro _ _
      exact (validated_requireKnownValue _ _ _).bind fun _ _ => .ok trivial
  | neckTarget dto =>
      apply (validated_validateEventHeader _ _ _).bind
      intro _ _
      split
      · exact .refused
      · apply (validated_validateFinite _ _).bind
        intro _ _
        apply (validated_validateFinite _ _).bind
        intro _ _
        apply (validated_appendDouble _ _).bind
        intro _ _
        exact (validated_appendDouble _ _).bind fun _ _ => .ok trivial
  | safetyStop dto =>
      apply (validated_validateEventHeader _ _ _).bind
      intro _ _
      apply (validated_requireKnownValue _ _ _).bind
      intro _ _
      apply (validated_requireNonEmpty _ _).bind
      intro _ _
      apply (validated_requireNonEmpty _ _).bind
      intro _ _
      exact (validated_requireNonEmpty _ _).bind fun _ _ => .ok trivial
  | commandRejected dto =>
      apply (validated_validateEventHeader _ _ _).bind
      intro _ _
      apply (validated_requireKnownValue _ _ _).bind
      intro _ _
      exact (validated_requireNonEmpty _ _).bind fun _ _ => .ok trivial

theorem validated_encodeEvent (dto : EventDto M) : FailsClosed (encodeEvent M toText dto) := by
  apply (validated_encodeEventFields dto).bind
  intro json _
  exact (validated_decodeEvent json).bind fun _ _ => .ok trivial

/-! ## Decoding of commands -/

section Commands

variable [Field K] [LinearOrder K]

theorem validated_checkSquared (squared : K) : FailsClosed (checkSquared M squared) := by
  unfold checkSquared
  split
  · exact .invalid _
  · exact .ok trivial

theorem validated_validateOrientation (value : JsonValue) :
    FailsClosed (validateOrientation M value) := by
  apply (validated_requireExactFields value _ _).bind
  rintro _ ⟨members, rfl⟩
  apply (validated_requireFiniteNumber members _).bind
  intro _ _
  apply (validated_requireFiniteNumber members _).bind
  intro _ _
  apply (validated_requireFiniteNumber members _).bind
  intro _ _
  apply (validated_requireFiniteNumber members _).bind
  intro _ _
  exact validated_checkSquared _

theorem validated_decodeOrientation (value : JsonValue) :
    FailsClosed (decodeOrientation M value) := by
  apply (validated_requireExactFields value _ _).bind
  rintro _ ⟨members, rfl⟩
  apply (validated_requireFiniteNumber members _).bind
  intro _ _
  apply (validated_requireFiniteNumber members _).bind
  intro _ _
  apply (validated_requireFiniteNumber members _).bind
  intro _ _
  apply (validated_requireFiniteNumber members _).bind
  intro _ _
  exact (validated_checkSquared _).bind fun _ _ => .ok trivial

omit [Field K] [LinearOrder K] in
theorem validated_validatePresentPosition (value : Option JsonValue) :
    FailsClosed (validatePresentPosition M value) := by
  cases value with
  | none => exact .ok trivial
  | some value =>
      apply (validated_requireExactFields value _ _).bind
      rintro _ ⟨members, rfl⟩
      apply (validated_requireFiniteNumber members _).bind
      intro _ _
      apply (validated_requireFiniteNumber members _).bind
      intro _ _
      exact (validated_requireFiniteNumber members _).bind fun _ _ => .ok trivial

omit [Field K] [LinearOrder K] in
theorem validated_decodePosition (value : JsonValue) : FailsClosed (decodePosition M value) := by
  apply (validated_requireObject value _).bind
  intro _ _
  apply (validated_requireExactFields value _ _).bind
  rintro _ ⟨members, rfl⟩
  apply (validated_requireFiniteNumber members _).bind
  intro _ _
  apply (validated_requireFiniteNumber members _).bind
  intro _ _
  exact (validated_requireFiniteNumber members _).bind fun _ _ => .ok trivial

omit [Field K] [LinearOrder K] in
theorem validated_decodePresentPosition (value : Option JsonValue) :
    FailsClosed (decodePresentPosition M value) := by
  cases value with
  | none => exact .ok trivial
  | some value =>
      exact (validated_decodePosition value).map fun _ _ => trivial

theorem validated_validateCommandPayload (command : CsString)
    (members : List (CsString × JsonValue)) :
    FailsClosed (validateCommandPayload M command (.obj members)) := by
  unfold validateCommandPayload
  split
  · apply (validated_requireExactFields _ _ _).bind
    intro _ _
    exact (validated_requireString members _ _).bind fun _ _ => .ok trivial
  split
  · apply (validated_requireExactFields _ _ _).bind
    intro _ _
    exact validated_requireModeStringFromJson members
  split
  · exact (validated_requireExactFields _ _ _).mono fun _ _ => trivial
  · apply (validated_requireExactFields _ _ _).bind
    intro _ _
    apply (validated_requireString members _ _).bind
    intro _ _
    apply (validated_requireMember members _).bind
    intro orientation _
    apply (validated_validateOrientation orientation).bind
    intro _ _
    exact validated_validatePresentPosition _

theorem validated_decodePosePayload (members : List (CsString × JsonValue)) (allowPosition : Bool) :
    FailsClosed (decodePosePayload M (.obj members) allowPosition) := by
  apply (validated_requireString members _ _).bind
  intro _ _
  apply (validated_requireMember members _).bind
  intro orientation _
  apply (validated_decodeOrientation orientation).bind
  intro _ _
  exact (validated_decodePresentPosition _).bind fun _ _ => .ok trivial

theorem validated_decodePayload (header : Header) (members : List (CsString × JsonValue)) :
    FailsClosed (decodePayload M header (.obj members)) := by
  unfold decodePayload
  split
  · exact (validated_requireString members _ _).bind fun _ _ => .ok trivial
  split
  · exact .ok trivial
  split
  · exact .ok trivial
  split
  · exact (validated_requireString members _ _).bind fun _ _ => .ok trivial
  split
  · exact (validated_decodePosePayload members true).bind fun _ _ => .ok trivial
  split
  · have recenter : FailsClosed (decodeHeadRecenterPayload M (.obj members)) :=
      (validated_decodePosePayload members false).bind fun _ _ => .ok trivial
    exact recenter.bind fun _ _ => .ok trivial
  · exact .invalid _

/-- The root of a command is an object when its header was read. -/
theorem validated_decodeHeader (root : JsonValue) :
    Validated (fun _ => IsObject root) (decodeHeader root) := by
  apply (validated_requireObject root _).bind
  intro _ isObject
  apply (validated_requireExactFields root _ _).bind
  intro _ _
  obtain ⟨members, rfl⟩ := isObject
  apply (validated_requireString members _ _).bind
  intro _ _
  apply (validated_requireString members _ _).bind
  intro _ _
  apply (validated_requireNonEmptyString members _).bind
  intro _ _
  apply (validated_requireInteger members _ _).bind
  intro _ _
  exact (validated_requireInteger members _ _).bind fun _ _ => .ok ⟨members, rfl⟩

/-- `DecodeCommand` returns or throws a `WireValidationException`. -/
theorem validated_decodeCommand (json : CsString) : FailsClosed (decodeCommand M json) := by
  apply (StrictJsonParser.validated_parse json).bind
  intro root _
  apply (validated_decodeHeader root).bind
  rintro header ⟨members, rfl⟩
  apply (validated_requireMember members _).bind
  intro payload _
  apply (validated_requireObject payload _).bind
  rintro _ ⟨inside, rfl⟩
  apply (validated_validateCommandPayload header.command inside).bind
  intro _ _
  exact validated_decodePayload header inside

/-! ## Encoding of commands -/

omit [Field K] [LinearOrder K] in
theorem validated_requireStringExact (value : Option CsString) (name : String)
    (expected : CsString) : FailsClosed (requireStringExact value name expected) := by
  unfold requireStringExact
  split
  · exact .invalid _
  · exact .ok trivial

theorem validated_requireNotNull {α : Type} (value : Option α) (name : String) :
    FailsClosed (requireNotNull value name) := by
  cases value with
  | none => exact .invalid _
  | some value => exact .ok trivial

theorem validated_requireModeString (mode : Option CsString) :
    FailsClosed (requireModeString mode) := by
  cases mode with
  | none => exact .invalid _
  | some mode =>
      unfold requireModeString
      dsimp only
      split
      · exact .invalid _
      · exact .ok trivial

theorem validated_validateCommand {Payload : Type} (dto : CommandFields Payload)
    (expected : CsString) : FailsClosed (validateCommand dto expected) := by
  have header : FailsClosed (validateCommandHeader dto.schemaVersion dto.command expected) := by
    unfold validateCommandHeader
    split
    · exact .invalid _
    · split
      · exact .invalid _
      · exact .ok trivial
  have sequence : FailsClosed (requireSequence dto.sequence) := by
    unfold requireSequence
    split
    · exact .invalid _
    · exact .ok trivial
  have timestamp : FailsClosed (requireTimestamp dto.timestampMs) := by
    unfold requireTimestamp
    split
    · exact .invalid _
    · exact .ok trivial
  apply header.bind
  intro _ _
  apply (validated_requireNonEmpty _ _).bind
  intro _ _
  apply sequence.bind
  intro _ _
  apply timestamp.bind
  intro _ _
  exact validated_requireNotNull _ _

theorem validated_validateQuaternion (dto : QuaternionDto M) :
    FailsClosed (validateQuaternion M dto) := by
  unfold validateQuaternion
  split
  · exact validated_checkSquared _
  · exact .invalid _

omit [Field K] [LinearOrder K] in
theorem validated_appendQuaternion (dto : QuaternionDto M) :
    FailsClosed (appendQuaternion toText dto) := by
  apply (validated_appendDouble _ _).bind
  intro _ _
  apply (validated_appendDouble _ _).bind
  intro _ _
  apply (validated_appendDouble _ _).bind
  intro _ _
  exact (validated_appendDouble _ _).bind fun _ _ => .ok trivial

omit [Field K] [LinearOrder K] in
theorem validated_appendOptionalPosition (dto : Option (PositionDto M)) :
    FailsClosed (appendOptionalPosition toText dto) := by
  cases dto with
  | none => exact .ok trivial
  | some dto =>
      have position : FailsClosed (appendPosition toText dto) := by
        apply (validated_appendDouble _ _).bind
        intro _ _
        apply (validated_appendDouble _ _).bind
        intro _ _
        exact (validated_appendDouble _ _).bind fun _ _ => .ok trivial
      exact position.bind fun _ _ => .ok trivial

theorem validated_encodeFields (dto : CommandDto M) : FailsClosed (encodeFields M toText dto) := by
  cases dto with
  | sessionStart dto =>
      apply (validated_validateCommand dto _).bind
      intro _ _
      exact (validated_requireStringExact _ _ _).bind fun _ _ => .ok trivial
  | sessionStop dto | emergencyStop dto =>
      exact (validated_validateCommand dto _).bind fun _ _ => .ok trivial
  | modeSet dto =>
      apply (validated_validateCommand dto _).bind
      intro _ _
      exact (validated_requireModeString _).bind fun _ _ => .ok trivial
  | headPose dto =>
      apply (validated_validateCommand dto _).bind
      intro _ _
      apply (validated_requireNotNull _ _).bind
      intro _ _
      apply (validated_requireStringExact _ _ _).bind
      intro _ _
      apply (validated_validateQuaternion _).bind
      intro _ _
      apply (validated_appendQuaternion _).bind
      intro _ _
      exact (validated_appendOptionalPosition _).bind fun _ _ => .ok trivial
  | headRecenter dto =>
      apply (validated_validateCommand dto _).bind
      intro _ _
      apply (validated_requireNotNull _ _).bind
      intro _ _
      apply (validated_requireStringExact _ _ _).bind
      intro _ _
      apply (validated_validateQuaternion _).bind
      intro _ _
      exact (validated_appendQuaternion _).bind fun _ _ => .ok trivial

theorem validated_encodeCommand (dto : CommandDto M) :
    FailsClosed (encodeCommand M toText dto) := by
  apply (validated_encodeFields dto).bind
  intro json _
  exact (validated_decodeCommand json).bind fun _ _ => .ok trivial

end Commands

end WireCodec

end ValeraControlTower.Unity

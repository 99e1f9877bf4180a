import ValeraControlTower.VrGateway.WireEvents

/-!
# What `encode_event` lets pass

For each of the four kinds, the attributes of an object that passes every check, and the
document it is turned into.
-/

namespace ValeraControlTower

open Unicode

variable {K : Type}

namespace Wire

/-! ## Checks -/

theorem validateIntField_ok {value : PyObject K} {name : String} {minimum : ℤ}
    {result : { number : ℤ // minimum ≤ number ∧ number ≤ maxInt64 }}
    (validated : validateIntField value name minimum = .ok result) : value = .int result.1 := by
  cases value with
  | int number =>
      unfold validateIntField at validated
      dsimp only at validated
      split at validated
      · cases validated
      · split at validated
        · cases validated
        · cases validated
          rfl
  | none | bool _ | float _ | str _ | commandName _ | gatewayState _ | rejectionCode _
  | stopReason _ | eventName _ | instanceOf _ _ | other => cases validated

/-- The time of an event with a header that passes. -/
theorem requireEventHeader_time {dict : PyDict K} {expected : EventName} {name : String}
    (passed : requireEventHeader dict expected name = .ok ()) :
    ∃ nowNs, InRange 0 nowNs ∧ dict.getattr .gatewayMonotonicNs = .ok (.int nowNs) := by
  obtain ⟨value, isTime, passed⟩ := bind_eq_ok passed
  obtain ⟨nowNs, validated, _⟩ := bind_eq_ok passed
  cases validateIntField_ok validated
  exact ⟨nowNs.1, nowNs.2, isTime⟩

/-- A text that is neither empty nor white space. -/
def VisibleText (value : PyObject K) : Prop :=
  ∃ text, value = .str text ∧ text ≠ [] ∧ isspace text = false

theorem visibleText_of_validated {value : PyObject K} {name : String}
    (validated : validateNonEmptyNonWhitespace value name = .ok ()) : VisibleText value := by
  cases value with
  | str text =>
      unfold validateNonEmptyNonWhitespace at validated
      dsimp only at validated
      split at validated
      · cases validated
      · next shown =>
          rw [not_or, Bool.not_eq_true] at shown
          exact ⟨text, rfl, shown⟩
  | none | bool _ | int _ | float _ | commandName _ | gatewayState _ | rejectionCode _
  | stopReason _ | eventName _ | instanceOf _ _ | other => cases validated

theorem validateSessionId_ok {value : PyObject K}
    {result : { text : PyStr // text ≠ [] ∧ isspace text = false }}
    (validated : validateSessionId value = .ok result) : value = .str result.1 := by
  cases value with
  | str text =>
      unfold validateSessionId at validated
      dsimp only at validated
      split at validated
      · split at validated
        · cases validated
        · cases validated
          rfl
      · cases validated
  | none | bool _ | int _ | float _ | commandName _ | gatewayState _ | rejectionCode _
  | stopReason _ | eventName _ | instanceOf _ _ | other => cases validated

/-- Two ids that may stand in an event. -/
inductive CorrelationIds : PyObject K → PyObject K → Prop where
  | absent : CorrelationIds .none .none
  | present {sessionId : PyStr} {sequence : ℤ} (nonempty : sessionId ≠ [])
      (visible : isspace sessionId = false) (inRange : InRange 1 sequence) :
      CorrelationIds (.str sessionId) (.int sequence)

theorem present_eq_false {value : PyObject K} (absent : present value = false) : value = .none := by
  cases value with
  | none => rfl
  | bool _ | int _ | float _ | str _ | commandName _ | gatewayState _ | rejectionCode _
  | stopReason _ | eventName _ | instanceOf _ _ | other => cases absent

theorem validateCorrelationSequence_ok {value : PyObject K}
    (validated : validateCorrelationSequence value = .ok ()) :
    ∃ sequence, value = .int sequence ∧ InRange 1 sequence := by
  cases value with
  | int number =>
      unfold validateCorrelationSequence at validated
      dsimp only at validated
      split at validated
      · cases validated
      · next inRange =>
          rw [not_or, not_lt, not_lt] at inRange
          exact ⟨number, rfl, inRange⟩
  | none | bool _ | float _ | str _ | commandName _ | gatewayState _ | rejectionCode _
  | stopReason _ | eventName _ | instanceOf _ _ | other => cases validated

theorem validateCorrelation_ids {sessionId sequence : PyObject K} {required : Bool}
    (validated : validateCorrelation sessionId sequence required = .ok ()) :
    CorrelationIds sessionId sequence ∧ (required = true → present sessionId = true) := by
  unfold validateCorrelation at validated
  split at validated
  · cases validated
  · next together =>
      rw [not_not] at together
      split at validated
      · next absent =>
          cases present_eq_false absent
          cases present_eq_false (together.symm.trans absent)
          cases required with
          | true => cases validated
          | false =>
              refine ⟨.absent, ?_⟩
              rintro ⟨⟩
      · next isPresent =>
          obtain ⟨text, isSession, isSequence⟩ := bind_eq_ok validated
          obtain ⟨number, rfl, inRange⟩ := validateCorrelationSequence_ok isSequence
          cases validateSessionId_ok isSession
          exact ⟨.present text.2.1 text.2.2 inRange, fun _ => rfl⟩

/-! ## The four events -/

/-- The attributes all events have. -/
structure EventAttributes (dict : PyDict K) (nowNs : ℤ) (sessionId sequence : PyObject K) :
    Prop where
  clock : InRange 0 nowNs
  isTime : dict.getattr .gatewayMonotonicNs = .ok (.int nowNs)
  isSession : dict.getattr .sessionId = .ok sessionId
  isSequence : dict.getattr .sequence = .ok sequence
  ids : CorrelationIds sessionId sequence

/-- The two ids behind the checks of their correlation. -/
theorem correlation_ok {dict : PyDict K} {required : Bool} {Result : Type}
    {next : PyObject K → PyObject K → Except PyException Result} {result : Result}
    (returned : (do
      let sessionId ← dict.getattr .sessionId
      let sequence ← dict.getattr .sequence
      validateCorrelation sessionId sequence required
      next sessionId sequence) = .ok result) :
    ∃ sessionId sequence, dict.getattr .sessionId = .ok sessionId ∧
      dict.getattr .sequence = .ok sequence ∧ CorrelationIds sessionId sequence ∧
      (required = true → present sessionId = true) ∧ next sessionId sequence = .ok result := by
  obtain ⟨sessionId, isSession, returned⟩ := bind_eq_ok returned
  obtain ⟨sequence, isSequence, returned⟩ := bind_eq_ok returned
  obtain ⟨_, validated, returned⟩ := bind_eq_ok returned
  obtain ⟨ids, needed⟩ := validateCorrelation_ids validated
  exact ⟨sessionId, sequence, isSession, isSequence, ids, needed, returned⟩

theorem encodeGatewayStateEvent_ok {dict : PyDict K} {document : EventDocument K}
    (encoded : encodeGatewayStateEvent dict = .ok document) :
    ∃ nowNs state sessionId sequence, EventAttributes dict nowNs sessionId sequence ∧
      dict.getattr .state = .ok (.gatewayState state) ∧
      document = [(py "schema_version", .str schemaVersion),
        (py "event_type", .str EventName.gatewayState.value),
        (py "gateway_monotonic_ns", .int nowNs), (py "state", .str state.value),
        (py "session_id", sessionId), (py "sequence", sequence)] := by
  obtain ⟨_, passed, encoded⟩ := bind_eq_ok encoded
  obtain ⟨nowNs, clock, isTime⟩ := requireEventHeader_time passed
  obtain ⟨value, isState, encoded⟩ := bind_eq_ok encoded
  cases value with
  | gatewayState state =>
      obtain ⟨sessionId, sequence, isSession, isSequence, ids, _, encoded⟩ :=
        correlation_ok encoded
      rw [isTime] at encoded
      cases encoded
      exact ⟨nowNs, state, sessionId, sequence, ⟨clock, isTime, isSession, isSequence, ids⟩,
        isState, rfl⟩
  | none | bool _ | int _ | float _ | str _ | commandName _ | rejectionCode _
  | stopReason _ | eventName _ | instanceOf _ _ | other => cases encoded

theorem encodeSafetyStopEvent_ok {dict : PyDict K} {document : EventDocument K}
    (encoded : encodeSafetyStopEvent dict = .ok document) :
    ∃ nowNs reason sessionId sequence neckAction baseAction armAction,
      EventAttributes dict nowNs sessionId sequence ∧
      dict.getattr .reason = .ok (.stopReason reason) ∧
      dict.getattrD .neckAction (.str (py "HOLD_LAST_POSITION")) = neckAction ∧
      dict.getattrD .baseAction (.str (py "STOP")) = baseAction ∧
      dict.getattrD .armAction (.str (py "HOLD")) = armAction ∧
      VisibleText neckAction ∧ VisibleText baseAction ∧ VisibleText armAction ∧
      document = [(py "schema_version", .str schemaVersion),
        (py "event_type", .str EventName.safetyStop.value),
        (py "gateway_monotonic_ns", .int nowNs), (py "reason", .str reason.value),
        (py "session_id", sessionId), (py "sequence", sequence), (py "neck_action", neckAction),
        (py "base_action", baseAction), (py "arm_action", armAction)] := by
  obtain ⟨_, passed, encoded⟩ := bind_eq_ok encoded
  obtain ⟨nowNs, clock, isTime⟩ := requireEventHeader_time passed
  obtain ⟨value, isReason, encoded⟩ := bind_eq_ok encoded
  cases value with
  | stopReason reason =>
      obtain ⟨sessionId, sequence, isSession, isSequence, ids, _, encoded⟩ :=
        correlation_ok encoded
      obtain ⟨_, isNeck, encoded⟩ := bind_eq_ok encoded
      obtain ⟨_, isBase, encoded⟩ := bind_eq_ok encoded
      obtain ⟨_, isArm, encoded⟩ := bind_eq_ok encoded
      rw [isTime] at encoded
      cases encoded
      exact ⟨nowNs, reason, sessionId, sequence, _, _, _,
        ⟨clock, isTime, isSession, isSequence, ids⟩, isReason, rfl, rfl, rfl,
        visibleText_of_validated isNeck, visibleText_of_validated isBase,
        visibleText_of_validated isArm, rfl⟩
  | none | bool _ | int _ | float _ | str _ | commandName _ | gatewayState _ | rejectionCode _
  | eventName _ | instanceOf _ _ | other => cases encoded

theorem encodeCommandRejectedEvent_ok {dict : PyDict K} {document : EventDocument K}
    (encoded : encodeCommandRejectedEvent dict = .ok document) :
    ∃ nowNs code message sessionId sequence, EventAttributes dict nowNs sessionId sequence ∧
      dict.getattr .code = .ok (.rejectionCode code) ∧ dict.getattr .message = .ok message ∧
      VisibleText message ∧
      document = [(py "schema_version", .str schemaVersion),
        (py "event_type", .str EventName.commandRejected.value),
        (py "gateway_monotonic_ns", .int nowNs), (py "code", .str code.value),
        (py "message", message), (py "session_id", sessionId), (py "sequence", sequence)] := by
  obtain ⟨_, passed, encoded⟩ := bind_eq_ok encoded
  obtain ⟨nowNs, clock, isTime⟩ := requireEventHeader_time passed
  obtain ⟨value, isCode, encoded⟩ := bind_eq_ok encoded
  cases value with
  | rejectionCode code =>
      obtain ⟨_, same, encoded⟩ := bind_eq_ok encoded
      cases same
      obtain ⟨message, isMessage, encoded⟩ := bind_eq_ok encoded
      obtain ⟨_, validated, encoded⟩ := bind_eq_ok encoded
      obtain ⟨sessionId, sequence, isSession, isSequence, ids, _, encoded⟩ :=
        correlation_ok encoded
      rw [isTime] at encoded
      cases encoded
      exact ⟨nowNs, code, message, sessionId, sequence,
        ⟨clock, isTime, isSession, isSequence, ids⟩, isCode, isMessage,
        visibleText_of_validated validated, rfl⟩
  | none | bool _ | int _ | float _ | str _ | commandName _ | gatewayState _ | stopReason _
  | eventName _ | instanceOf _ _ | other => cases encoded

/-- An angle that `math.isfinite` is true of. -/
inductive FiniteAngle (M : FloatMath K) : PyObject K → Prop where
  | float {value : K} : FiniteAngle M (.float (.finite value))
  | int {value : ℤ} {float : K} (nearest : M.ofRat value = some float) : FiniteAngle M (.int value)

theorem finiteAngle_of_isfinite {M : FloatMath K} {value : PyObject K}
    (finite : value.isfinite M = .ok true) : FiniteAngle M value := by
  cases value with
  | int number =>
      unfold PyObject.isfinite at finite
      dsimp only at finite
      split at finite
      · next isSome =>
          obtain ⟨float, nearest⟩ := Option.isSome_iff_exists.mp isSome
          exact .int nearest
      · cases finite
  | float value =>
      cases value with
      | finite value => exact .float
      | infinity _ | nan => cases finite
  | none | bool _ | str _ | commandName _ | gatewayState _ | rejectionCode _ | stopReason _
  | eventName _ | instanceOf _ _ | other => cases finite

theorem encodeNeckTargetEvent_ok {M : FloatMath K} {dict : PyDict K} {document : EventDocument K}
    (encoded : encodeNeckTargetEvent M dict = .ok document) :
    ∃ nowNs sessionId sequence panDegrees tiltDegrees hold,
      EventAttributes dict nowNs sessionId sequence ∧ present sessionId = true ∧
      dict.getattr .panDegrees = .ok panDegrees ∧ dict.getattr .tiltDegrees = .ok tiltDegrees ∧
      FiniteAngle M panDegrees ∧ FiniteAngle M tiltDegrees ∧
      dict.getattrD .hold (.bool false) = .bool hold ∧
      document = [(py "schema_version", .str schemaVersion),
        (py "event_type", .str EventName.neckTarget.value),
        (py "gateway_monotonic_ns", .int nowNs), (py "session_id", sessionId),
        (py "sequence", sequence), (py "pan_degrees", panDegrees),
        (py "tilt_degrees", tiltDegrees), (py "hold", .bool hold)] := by
  obtain ⟨_, passed, encoded⟩ := bind_eq_ok encoded
  obtain ⟨nowNs, clock, isTime⟩ := requireEventHeader_time passed
  obtain ⟨sessionId, sequence, isSession, isSequence, ids, needed, encoded⟩ :=
    correlation_ok encoded
  obtain ⟨panDegrees, isPan, encoded⟩ := bind_eq_ok encoded
  obtain ⟨_, _, encoded⟩ := bind_eq_ok encoded
  obtain ⟨tiltDegrees, isTilt, encoded⟩ := bind_eq_ok encoded
  obtain ⟨_, _, encoded⟩ := bind_eq_ok encoded
  obtain ⟨panFinite, isPanFinite, encoded⟩ := bind_eq_ok encoded
  cases panFinite with
  | false => cases encoded
  | true =>
      obtain ⟨tiltFinite, isTiltFinite, encoded⟩ := bind_eq_ok encoded
      cases tiltFinite with
      | false => cases encoded
      | true =>
          dsimp only at encoded
          generalize dict.getattrD .hold (.bool false) = value at encoded
          cases value with
          | bool hold =>
              rw [isTime] at encoded
              cases encoded
              exact ⟨nowNs, sessionId, sequence, panDegrees, tiltDegrees, hold,
                ⟨clock, isTime, isSession, isSequence, ids⟩, needed rfl, isPan, isTilt,
                finiteAngle_of_isfinite isPanFinite, finiteAngle_of_isfinite isTiltFinite,
                rfl, rfl⟩
          | none | int _ | float _ | str _ | commandName _ | gatewayState _ | rejectionCode _
          | stopReason _ | eventName _ | instanceOf _ _ | other => cases encoded

theorem dumped_of_encodeEvent {M : FloatMath K} {object : PyObject K} {text : List Char}
    (encoded : encodeEvent M object = .ok text) :
    ∃ document, eventToValidatedDict M object = .ok document ∧
      JsonEncoder.dumps M document = .ok text := by
  obtain ⟨document, validated, encoded⟩ := bind_eq_ok encoded
  refine ⟨document, validated, ?_⟩
  cases dumped : JsonEncoder.dumps M document with
  | error exception =>
      rw [dumped] at encoded
      unfold catchSerializationErrors at encoded
      dsimp only at encoded
      split at encoded
      · cases encoded
      · cases encoded
  | ok json =>
      rw [dumped] at encoded
      exact encoded

end Wire

end ValeraControlTower

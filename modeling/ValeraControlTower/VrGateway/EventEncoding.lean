import ValeraControlTower.VrGateway.Runs
import ValeraControlTower.VrGateway.WireEvents

/-!
# Encoding the events of the gateway

An event whose time stamp and correlation are within the ranges of the contract passes
every check of `encode_event`; `document` is the object that is then serialized.
-/

namespace ValeraControlTower

variable {K : Type} {M : FloatMath K} {admits : PyStr → Prop}

open Wire

/-- The two halves of a correlation, both absent or both fit for the wire, with a session
id that is admitted. -/
inductive Correlated (admits : PyStr → Prop) : Option PyStr → Option ℤ → Prop where
  | absent : Correlated admits none none
  | present {sessionId : PyStr} {sequence : ℤ} (admitted : admits sessionId)
      (nonempty : sessionId ≠ []) (visible : isspace sessionId = false)
      (inRange : InRange 1 sequence) : Correlated admits (some sessionId) (some sequence)

/-- The object that is serialized. -/
def OutputEvent.document : OutputEvent K → EventDocument K
  | gatewayState event =>
      [(py "schema_version", .str schemaVersion),
        (py "event_type", .str EventName.gatewayState.value),
        (py "gateway_monotonic_ns", .int event.gatewayMonotonicNs),
        (py "state", .str event.state.value),
        (py "session_id", optionalObject .str event.sessionId),
        (py "sequence", optionalObject .int event.sequence)]
  | neckTarget event =>
      [(py "schema_version", .str schemaVersion),
        (py "event_type", .str EventName.neckTarget.value),
        (py "gateway_monotonic_ns", .int event.gatewayMonotonicNs),
        (py "session_id", .str event.sessionId),
        (py "sequence", .int event.sequence),
        (py "pan_degrees", .float (.finite event.panDegrees)),
        (py "tilt_degrees", .float (.finite event.tiltDegrees)),
        (py "hold", .bool event.hold)]
  | safetyStop event =>
      [(py "schema_version", .str schemaVersion),
        (py "event_type", .str EventName.safetyStop.value),
        (py "gateway_monotonic_ns", .int event.gatewayMonotonicNs),
        (py "reason", .str event.reason.value),
        (py "session_id", optionalObject .str event.sessionId),
        (py "sequence", optionalObject .int event.sequence),
        (py "neck_action", .str event.neckAction),
        (py "base_action", .str event.baseAction),
        (py "arm_action", .str event.armAction)]
  | commandRejected event =>
      [(py "schema_version", .str schemaVersion),
        (py "event_type", .str EventName.commandRejected.value),
        (py "gateway_monotonic_ns", .int event.gatewayMonotonicNs),
        (py "code", .str event.code.value),
        (py "message", .str event.message),
        (py "session_id", optionalObject .str event.sessionId),
        (py "sequence", optionalObject .int event.sequence)]

/-- What an event of the gateway is like. -/
inductive Encodable (admits : PyStr → Prop) (nowNs : ℤ) : OutputEvent K → Prop where
  | gatewayState {state : GatewayState} {sessionId : Option PyStr} {sequence : Option ℤ}
      (correlated : Correlated admits sessionId sequence) :
      Encodable admits nowNs
        (.gatewayState { gatewayMonotonicNs := nowNs, state, sessionId, sequence })
  | neckTarget {sessionId : PyStr} {sequence : ℤ} (panDegrees tiltDegrees : K)
      (correlated : Correlated admits (some sessionId) (some sequence)) :
      Encodable admits nowNs (.neckTarget {
        gatewayMonotonicNs := nowNs, sessionId, sequence, panDegrees, tiltDegrees })
  | safetyStop {reason : StopReason} {sessionId : Option PyStr} {sequence : Option ℤ}
      (correlated : Correlated admits sessionId sequence) :
      Encodable admits nowNs
        (.safetyStop { gatewayMonotonicNs := nowNs, reason, sessionId, sequence })
  | commandRejected {code : RejectionCode} {sessionId : Option PyStr} {sequence : Option ℤ}
      (correlated : Correlated admits sessionId sequence) :
      Encodable admits nowNs (.commandRejected {
        gatewayMonotonicNs := nowNs, code, message := rejectionMessage code,
        sessionId, sequence })

/-! ## Serialization -/

namespace JsonEncoder

/-- The text of a value that can be serialized. -/
def valueText (M : FloatMath K) (value : PyObject K) : List Char :=
  match encodeValue M value with
  | .ok text => text
  | .error _ => []

def memberText (M : FloatMath K) (member : PyStr × PyObject K) : List Char :=
  encodeString member.1 ++ ':' :: valueText M member.2

/-- The members behind the opening brace. -/
def joinMembers : List (List Char) → List Char
  | [] => ['}']
  | [text] => text ++ ['}']
  | text :: texts => text ++ ',' :: joinMembers texts

/-- The value can be serialized. -/
def Serializable (M : FloatMath K) (value : PyObject K) : Prop :=
  encodeValue M value = .ok (valueText M value)

theorem serializable_of_ok {value : PyObject K} {text : List Char}
    (encoded : encodeValue M value = .ok text) : Serializable M value := by
  unfold Serializable valueText
  rw [encoded]

theorem encodeMember_ok {member : PyStr × PyObject K} (serializable : Serializable M member.2) :
    encodeMember M member = .ok (memberText M member) := by
  unfold encodeMember
  rw [serializable]
  rfl

theorem encodeMembers_ok {members : List (PyStr × PyObject K)}
    (serializable : ∀ member ∈ members, Serializable M member.2) :
    encodeMembers M members = .ok (joinMembers (members.map (memberText M))) := by
  induction members with
  | nil => rfl
  | cons member members inductionHypothesis =>
      have first := encodeMember_ok (serializable member (by simp))
      have rest := inductionHypothesis fun other membership =>
        serializable other (by simp [membership])
      cases members with
      | nil =>
          rw [encodeMembers, first]
          rfl
      | cons second members =>
          rw [encodeMembers, first, rest]
          · rfl
          · simp

theorem dumps_ok {document : List (PyStr × PyObject K)}
    (serializable : ∀ member ∈ document, Serializable M member.2) :
    dumps M document = .ok ('{' :: joinMembers (document.map (memberText M))) := by
  unfold dumps
  rw [encodeMembers_ok serializable]
  rfl

theorem short_of_inRange {value : ℤ} (inRange : InRange 0 value) :
    (Numeral.ofInt value).integer.length ≤ intMaxStrDigits := by
  obtain ⟨nonnegative, bounded⟩ := inRange
  have short : (Numeral.ofInt value).integer.length ≤ 19 := by
    apply Digit.length_decimal_le (by decide)
    have limit : maxInt64 < 10 ^ 19 := by decide
    omega
  change _ ≤ 4300
  omega

theorem encodeInt_ok {value : ℤ} (inRange : InRange 0 value) :
    encodeInt value = .ok (Numeral.ofInt value).text :=
  if_neg (not_lt.mpr (short_of_inRange inRange))

end JsonEncoder

open JsonEncoder

/-! ## Checks -/

theorem Wire.InRange.weaken {minimum value : ℤ} (inRange : InRange minimum value)
    (low : 0 ≤ minimum) :
    InRange 0 value :=
  ⟨low.trans inRange.1, inRange.2⟩

theorem validateCorrelation_ok {sessionId : Option PyStr} {sequence : Option ℤ}
    (correlated : Correlated admits sessionId sequence) :
    validateCorrelation (optionalObject .str sessionId : PyObject K)
      (optionalObject .int sequence) false = .ok () := by
  cases correlated with
  | absent => rfl
  | @present sessionId sequence _ nonempty visible inRange =>
      change (validateSessionId (.str sessionId) >>= fun _ =>
        validateCorrelationSequence (.int sequence)) = _
      rw [validateSessionId_str nonempty visible]
      change validateCorrelationSequence (.int sequence : PyObject K) = _
      unfold validateCorrelationSequence
      dsimp only
      rw [if_neg]
      have low := inRange.1
      have high := inRange.2
      omega

theorem validateCorrelation_required {sessionId : PyStr} {sequence : ℤ}
    (correlated : Correlated admits (some sessionId) (some sequence)) :
    validateCorrelation (.str sessionId : PyObject K) (.int sequence) true = .ok () :=
  validateCorrelation_ok (K := K) correlated

theorem requireEventHeader_ok {dict : PyDict K} {expected : EventName} {nowNs : ℤ}
    (clock : InRange 0 nowNs) (stamped : dict.get? .gatewayMonotonicNs = some (.int nowNs))
    (version : dict.get? .schemaVersion = some (.str schemaVersion))
    (typed : dict.get? .eventType = some (.eventName expected)) (name : String) :
    requireEventHeader dict expected name = .ok () := by
  unfold requireEventHeader PyDict.getattr PyDict.getattrD
  rw [stamped, version, typed]
  change (validateIntField (.int nowNs) _ 0 >>= fun _ => _) = _
  rw [validateIntField_int clock]
  exact if_pos rfl

theorem eventToValidatedDict_ok {nowNs : ℤ} {event : OutputEvent K} (clock : InRange 0 nowNs)
    (encodable : Encodable admits nowNs event) :
    eventToValidatedDict M event.toObject = .ok event.document := by
  cases encodable with
  | gatewayState correlated =>
      change (requireEventHeader _ .gatewayState "gateway.state" >>= fun _ => _) = _
      rw [requireEventHeader_ok clock rfl rfl rfl]
      change (validateCorrelation _ _ false >>= fun _ => _) = _
      rw [validateCorrelation_ok correlated]
      rfl
  | neckTarget panDegrees tiltDegrees correlated =>
      change (requireEventHeader _ .neckTarget "neck.target" >>= fun _ => _) = _
      rw [requireEventHeader_ok clock rfl rfl rfl]
      change (validateCorrelation _ _ true >>= fun _ => _) = _
      rw [validateCorrelation_required correlated]
      rfl
  | safetyStop correlated =>
      change (requireEventHeader _ .safetyStop "safety.stop" >>= fun _ => _) = _
      rw [requireEventHeader_ok clock rfl rfl rfl]
      change (validateCorrelation _ _ false >>= fun _ => _) = _
      rw [validateCorrelation_ok correlated]
      rfl
  | @commandRejected code _ _ correlated =>
      change (requireEventHeader _ .commandRejected "command.rejected" >>= fun _ => _) = _
      rw [requireEventHeader_ok clock rfl rfl rfl]
      change (validateNonEmptyNonWhitespace (.str (rejectionMessage code)) "message" >>=
        fun _ => _) = _
      have worded : validateNonEmptyNonWhitespace (.str (rejectionMessage code) : PyObject K)
          "message" = .ok () := by
        cases code <;> rfl
      rw [worded]
      change (validateCorrelation _ _ false >>= fun _ => _) = _
      rw [validateCorrelation_ok correlated]
      rfl

/-! ## Texts -/

theorem serializable_correlation {sessionId : Option PyStr} {sequence : Option ℤ}
    (correlated : Correlated admits sessionId sequence) :
    Serializable M (optionalObject .str sessionId) ∧
      Serializable M (optionalObject .int sequence) := by
  cases correlated with
  | absent => exact ⟨rfl, rfl⟩
  | present _ _ _ inRange =>
      exact ⟨rfl, serializable_of_ok (encodeInt_ok (inRange.weaken (by decide)))⟩

theorem serializable_document {nowNs : ℤ} {event : OutputEvent K} (clock : InRange 0 nowNs)
    (encodable : Encodable admits nowNs event) :
    ∀ member ∈ event.document, Serializable M member.2 := by
  have stamped : Serializable M (.int nowNs) := serializable_of_ok (encodeInt_ok clock)
  cases encodable with
  | gatewayState correlated =>
      have ⟨session, sequence⟩ := serializable_correlation (M := M) correlated
      simp only [OutputEvent.document, List.forall_mem_cons, List.not_mem_nil, false_imp_iff,
        implies_true, and_true]
      exact ⟨rfl, rfl, stamped, rfl, session, sequence⟩
  | neckTarget panDegrees tiltDegrees correlated =>
      have ⟨session, sequence⟩ := serializable_correlation (M := M) correlated
      simp only [OutputEvent.document, List.forall_mem_cons, List.not_mem_nil, false_imp_iff,
        implies_true, and_true]
      exact ⟨rfl, rfl, stamped, session, sequence, rfl, rfl, rfl⟩
  | safetyStop correlated =>
      have ⟨session, sequence⟩ := serializable_correlation (M := M) correlated
      simp only [OutputEvent.document, List.forall_mem_cons, List.not_mem_nil, false_imp_iff,
        implies_true, and_true]
      exact ⟨rfl, rfl, stamped, rfl, session, sequence, rfl, rfl, rfl⟩
  | commandRejected correlated =>
      have ⟨session, sequence⟩ := serializable_correlation (M := M) correlated
      simp only [OutputEvent.document, List.forall_mem_cons, List.not_mem_nil, false_imp_iff,
        implies_true, and_true]
      exact ⟨rfl, rfl, stamped, rfl, rfl, session, sequence⟩

/-- The text of an event of the gateway. -/
def eventText (M : FloatMath K) (event : OutputEvent K) : List Char :=
  '{' :: joinMembers (event.document.map (memberText M))

theorem encodeEvent_ok {nowNs : ℤ} {event : OutputEvent K} (clock : InRange 0 nowNs)
    (encodable : Encodable admits nowNs event) :
    encodeEvent M event.toObject = .ok (eventText M event) := by
  unfold encodeEvent
  rw [eventToValidatedDict_ok clock encodable]
  change catchSerializationErrors (dumps M event.document) = _
  rw [dumps_ok (serializable_document clock encodable)]
  rfl

/-- Every event of a call is encoded, in order. -/
theorem encodeEvents_ok {nowNs : ℤ} {events : List (OutputEvent K)} (clock : InRange 0 nowNs)
    (encodable : ∀ event ∈ events, Encodable admits nowNs event) :
    encodeEvents M (events.map OutputEvent.toObject) = .ok (events.map (eventText M)) := by
  induction events with
  | nil => rfl
  | cons event events inductionHypothesis =>
      have rest := inductionHypothesis fun other membership =>
        encodable other (by simp [membership])
      unfold encodeEvents at *
      rw [List.map_cons, List.mapM_cons, encodeEvent_ok clock (encodable event (by simp)), rest]
      rfl

end ValeraControlTower

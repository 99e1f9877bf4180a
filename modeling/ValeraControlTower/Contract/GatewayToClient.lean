import ValeraControlTower.Contract.CodecRoundTrip
import ValeraControlTower.VrGateway.EventFailClosed
import ValeraControlTower.VrGateway.EventFields
import ValeraControlTower.VrGateway.EventText

/-!
# Events from the gateway to the client

A text that `encode_event` returns denotes the document of an acceptable event, and
`DecodeEvent` makes the same event of it.  An angle may be an `int`, which the client
reads as the nearest `double`.
-/

namespace ValeraControlTower

open Unicode Json JsonEncoder Unity Unity.WireCodec StrictJsonParser

variable {K : Type} {M : FloatMath K}

/-! ## The same event -/

def SameText (value : PyObject K) (text : Option CsString) : Prop :=
  ∃ points, value = .str points ∧ text = some (units points)

/-- Both ids are `None` and the correlation is not available, or it holds both. -/
inductive SameCorrelation : PyObject K → PyObject K → Correlation → Prop where
  | unavailable : SameCorrelation .none .none .unavailable
  | available {sessionId : PyStr} {sequence : CsLong}
      {visible : CsString.isWhiteSpaceOnly (units sessionId) = false} {positive : 1 ≤ sequence.1} :
      SameCorrelation (.str sessionId) (.int sequence.1)
        (.available (units sessionId) sequence visible positive)

/-- An angle as a `double`: a float itself, an `int` as the nearest one. -/
inductive NearestAngle (M : FloatMath K) : PyObject K → CsDouble M → Prop where
  | float {value : FiniteDouble M} : NearestAngle M (.float (.finite value.1)) (.finite value)
  | int {number : ℤ} {value : FiniteDouble M} (nearest : M.ofRat number = some value.1) :
      NearestAngle M (.int number) (.finite value)

/-- An angle and a `double` of the same value. -/
inductive SameAngle [IntCast K] (M : FloatMath K) : PyObject K → CsDouble M → Prop where
  | float {value : FiniteDouble M} : SameAngle M (.float (.finite value.1)) (.finite value)
  | int {number : ℤ} {value : FiniteDouble M} (same : value.1 = number) :
      SameAngle M (.int number) (.finite value)

/-- The attributes all events have. -/
structure SameAttributes (dict : PyDict K) (gatewayMonotonicNs : CsLong)
    (correlation : Correlation) : Prop where
  time : dict.getattr .gatewayMonotonicNs = .ok (.int gatewayMonotonicNs.1)
  ids : ∃ sessionId sequence, dict.getattr .sessionId = .ok sessionId ∧
    dict.getattr .sequence = .ok sequence ∧ SameCorrelation sessionId sequence correlation

/-- An event of the gateway and an event object of the client with the same fields. -/
inductive SameEvent (angle : PyObject K → CsDouble M → Prop) : PyObject K → EventDto M → Prop where
  | gatewayState {dict : PyDict K} {time : CsLong} {state : GatewayState}
      {correlation : Correlation}
      (attributes : SameAttributes dict time correlation)
      (isState : dict.getattr .state = .ok (.gatewayState state)) :
      SameEvent angle (.instanceOf .gatewayStateEvent dict)
        (.gatewayState ⟨some WireValues.schemaVersion, some WireValues.gatewayState, time,
          some (units state.value), correlation⟩)
  | neckTarget {dict : PyDict K} {time : CsLong} {correlation : Correlation}
      {panDegrees tiltDegrees : PyObject K} {pan tilt : CsDouble M} {hold : Bool}
      (attributes : SameAttributes dict time correlation)
      (isPan : dict.getattr .panDegrees = .ok panDegrees) (samePan : angle panDegrees pan)
      (isTilt : dict.getattr .tiltDegrees = .ok tiltDegrees) (sameTilt : angle tiltDegrees tilt)
      (isHold : dict.getattrD .hold (.bool false) = .bool hold) :
      SameEvent angle (.instanceOf .neckTargetEvent dict)
        (.neckTarget ⟨some WireValues.schemaVersion, some WireValues.neckTarget, time, correlation,
          pan, tilt, hold⟩)
  | safetyStop {dict : PyDict K} {time : CsLong} {reason : StopReason} {correlation : Correlation}
      {neckAction baseAction armAction : Option CsString}
      (attributes : SameAttributes dict time correlation)
      (isReason : dict.getattr .reason = .ok (.stopReason reason))
      (isNeck : SameText (dict.getattrD .neckAction (.str (py "HOLD_LAST_POSITION"))) neckAction)
      (isBase : SameText (dict.getattrD .baseAction (.str (py "STOP"))) baseAction)
      (isArm : SameText (dict.getattrD .armAction (.str (py "HOLD"))) armAction) :
      SameEvent angle (.instanceOf .safetyStopEvent dict)
        (.safetyStop ⟨some WireValues.schemaVersion, some WireValues.safetyStop, time,
          some (units reason.value), correlation, neckAction, baseAction, armAction⟩)
  | commandRejected {dict : PyDict K} {time : CsLong} {code : RejectionCode}
      {messageObject : PyObject K} {message : Option CsString} {correlation : Correlation}
      (attributes : SameAttributes dict time correlation)
      (isCode : dict.getattr .code = .ok (.rejectionCode code))
      (isMessage : dict.getattr .message = .ok messageObject)
      (sameMessage : SameText messageObject message) :
      SameEvent angle (.instanceOf .commandRejectedEvent dict)
        (.commandRejected ⟨some WireValues.schemaVersion, some WireValues.commandRejected, time,
          some (units code.value), message, correlation⟩)

/-! ## Objects -/

/-- No string of the object has a lone surrogate. -/
def ProperTexts (object : PyObject K) : Prop :=
  ∀ (cls : PyClass) (dict : PyDict K) (name : PyAttribute) (text : PyStr),
    object = .instanceOf cls dict → dict.getattr name = .ok (.str text) →
      wellFormed (units text) = true

/-- `repr` and `double.TryParse` round-trip the finite floats of the object. -/
def FloatsRoundTrip (M : FloatMath K) (object : PyObject K) : Prop :=
  ∀ (cls : PyClass) (dict : PyDict K) (name : PyAttribute) (value : K),
    object = .instanceOf cls dict → dict.getattr name = .ok (.float (.finite value)) →
      ∃ literal : Literal, M.repr value = literal.1.text ∧ M.ofRat literal.1.value = some value

/-- A value that is no string with a lone surrogate. -/
def ProperValue (value : PyObject K) : Prop :=
  ∀ text, value = .str text → wellFormed (units text) = true

variable {cls : PyClass} {dict : PyDict K}

theorem properValue_of_getattr (proper : ProperTexts (.instanceOf cls dict)) {name : PyAttribute}
    {value : PyObject K} (isValue : dict.getattr name = .ok value) : ProperValue value := by
  rintro text rfl
  exact proper cls dict name text rfl isValue

theorem properValue_of_getattrD (proper : ProperTexts (.instanceOf cls dict))
    {name : PyAttribute} {default : List Char} {value : PyObject K}
    (isValue : dict.getattrD name (.str (ofChars default)) = value) : ProperValue value := by
  unfold PyDict.getattrD at isValue
  cases found : dict.get? name with
  | none =>
      rw [found] at isValue
      subst isValue
      rintro text ⟨⟩
      exact wellFormed_utf16 default
  | some present =>
      apply @properValue_of_getattr _ cls dict proper name value
      unfold PyDict.getattr
      rw [found] at isValue ⊢
      exact congrArg Except.ok isValue

/-- A visible text is shown by the client. -/
theorem shown_of_visible {points : PyStr} {text : List Char} (same : units points = utf16 text)
    (nonempty : points ≠ []) (visible : Wire.isspace points = false) : Shown text := by
  have blank : ¬(units points).all CsString.isWhiteSpace = true := by
    intro white
    rw [← Bool.not_eq_true] at visible
    apply visible
    have all : points.all Wire.isSpace = true := by
      rw [List.all_eq_true]
      intro point membership
      apply isSpace_of_units
      rw [List.all_eq_true]
      exact fun unit unitMembership => List.all_eq_true.mp white unit
        (List.mem_flatMap.mpr ⟨point, membership, unitMembership⟩)
    unfold Wire.isspace
    rw [all, Bool.and_true, Bool.not_eq_true']
    exact List.isEmpty_eq_false_iff.mpr nonempty
  rw [same, Bool.not_eq_true] at blank
  exact ⟨nonempty_of_visible blank, blank⟩

/-- A text that passes. -/
theorem exists_shown {value : PyObject K} (proper : ProperValue value)
    (visible : Wire.VisibleText value) :
    ∃ text, JsonEncoder.WrittenAs M value (.str text) ∧ Shown text ∧
      SameText value (some (utf16 text)) := by
  obtain ⟨points, rfl, nonempty, notSpace⟩ := visible
  obtain ⟨text, same⟩ := exists_utf16 (proper points rfl)
  exact ⟨text, .str same, shown_of_visible same nonempty notSpace, points, rfl,
    congrArg some same.symm⟩

/-- The correlation of an event that passes. -/
theorem exists_correlation (proper : ProperTexts (.instanceOf cls dict)) {nowNs : ℤ}
    {sessionId sequence : PyObject K}
    (attributes : Wire.EventAttributes dict nowNs sessionId sequence) :
    ∃ (time : CsLong) (correlation : Correlation) (wire : Option WireCorrelation),
      time.1 = nowNs ∧ SameAttributes dict time correlation ∧ HoldsCorrelation correlation wire ∧
      JsonEncoder.WrittenMembers M [(py "session_id", sessionId), (py "sequence", sequence)]
        (correlationMembers wire) ∧
      (Wire.present sessionId = true → wire.isSome = true) := by
  obtain ⟨⟨nonnegative, below⟩, isTime, isSession, isSequence, ids⟩ := attributes
  unfold Wire.maxInt64 at below
  refine ⟨⟨nowNs, by omega, by omega⟩, ?_⟩
  cases ids with
  | absent =>
      refine ⟨.unavailable, none, rfl, ⟨isTime, _, _, isSession, isSequence, .unavailable⟩,
        .unavailable, .cons ⟨rfl, .none⟩ (.cons ⟨rfl, .none⟩ .nil), ?_⟩
      rintro ⟨⟩
  | @present points sequence nonempty visible inRange =>
      obtain ⟨positive, small⟩ := inRange
      unfold Wire.maxInt64 at small
      obtain ⟨text, same⟩ := exists_utf16 (properValue_of_getattr proper isSession points rfl)
      obtain ⟨_, shown⟩ := shown_of_visible same nonempty visible
      refine ⟨.available (utf16 text) ⟨sequence, by omega, by omega⟩ shown positive,
        some ⟨text, sequence⟩, rfl, ⟨isTime, _, _, isSession, isSequence, ?_⟩, .available,
        .cons ⟨rfl, .str same⟩ (.cons ⟨rfl, .int⟩ .nil), fun _ => rfl⟩
      simp only [← same]
      exact @SameCorrelation.available _ points ⟨sequence, _⟩ _ _

/-- An angle that passes. -/
theorem exists_angle (roundTrips : FloatsRoundTrip M (.instanceOf cls dict)) {name : PyAttribute}
    {value : PyObject K} (isValue : dict.getattr name = .ok value)
    (finite : Wire.FiniteAngle M value) :
    ∃ (literal : Literal) (angle : CsDouble M), JsonEncoder.WrittenAs M value (.num literal) ∧
      HoldsNumber M angle literal ∧ NearestAngle M value angle := by
  cases finite with
  | @float value =>
      obtain ⟨literal, isText, denotes⟩ := roundTrips cls dict name value rfl isValue
      exact ⟨literal, .finite ⟨value, _, denotes⟩, .float isText, denotes,
        @NearestAngle.float _ _ ⟨value, _, denotes⟩⟩
  | @int number value nearest =>
      refine ⟨.ofInt number, .finite ⟨value, _, nearest⟩, .int, ?_, .int nearest⟩
      change M.ofRat (Literal.ofInt number).1.value = some value
      rwa [Literal.value_ofInt]

/-! ## Events -/

theorem exists_gatewayState (state : GatewayState) :
    ∃ text ∈ gatewayStates.map String.toList, state.value = ofChars text := by
  cases state <;> exact ⟨_, by decide, rfl⟩

theorem exists_stopReason (reason : StopReason) :
    ∃ text ∈ stopReasons.map String.toList, reason.value = ofChars text := by
  cases reason <;> exact ⟨_, by decide, rfl⟩

theorem exists_rejectionCode (code : RejectionCode) :
    ∃ text ∈ rejectionCodes.map String.toList, code.value = ofChars text := by
  cases code <;> exact ⟨_, by decide, rfl⟩

/-- The document of an object, and what the client makes of it. -/
structure Carries (object : PyObject K) (document : Wire.EventDocument K) (event : WireEvent)
    (dto : EventDto M) : Prop where
  written : JsonEncoder.WrittenMembers M document event.members
  holds : HoldsEvent dto event
  nonnegative : 0 ≤ event.gatewayMonotonicNs
  acceptable : AcceptableBody event.body
  same : SameEvent (NearestAngle M) object dto

/-- The members in front of the body. -/
theorem written_header {body : WireEventBody} {nowNs : ℤ} {document : Wire.EventDocument K}
    (written : JsonEncoder.WrittenMembers M document body.members) :
    JsonEncoder.WrittenMembers M ((py "schema_version", .str schemaVersion) ::
      (py "event_type", .str body.eventType.value) ::
      (py "gateway_monotonic_ns", .int nowNs) :: document) (WireEvent.members ⟨nowNs, body⟩) := by
  refine .cons ⟨rfl, .str rfl⟩ (.cons ⟨rfl, .str ?_⟩ (.cons ⟨rfl, .int⟩ written))
  cases body <;> rfl

theorem exists_gatewayStateEvent (proper : ProperTexts (.instanceOf .gatewayStateEvent dict))
    {document : Wire.EventDocument K}
    (encoded : Wire.encodeGatewayStateEvent dict = .ok document) :
    ∃ (event : WireEvent) (dto : EventDto M),
      Carries (.instanceOf .gatewayStateEvent dict) document event dto := by
  obtain ⟨nowNs, state, sessionId, sequence, attributes, isState, rfl⟩ :=
    Wire.encodeGatewayStateEvent_ok encoded
  obtain ⟨time, correlation, wire, rfl, sameAttributes, holds, written, _⟩ :=
    exists_correlation (M := M) proper attributes
  obtain ⟨text, known, isText⟩ := exists_gatewayState state
  refine ⟨⟨time.1, .gatewayState text wire⟩, _, {
    written := @written_header _ _ (.gatewayState text wire) _ _
      (.cons ⟨rfl, .str (congrArg units isText)⟩ written)
    holds := ⟨time, rfl, .gatewayState holds⟩
    nonnegative := attributes.clock.1
    acceptable := known
    same := ?_ }⟩
  have same := @SameEvent.gatewayState _ _ (NearestAngle M) _ _ _ _ sameAttributes isState
  rwa [isText] at same

theorem exists_safetyStopEvent (proper : ProperTexts (.instanceOf .safetyStopEvent dict))
    {document : Wire.EventDocument K} (encoded : Wire.encodeSafetyStopEvent dict = .ok document) :
    ∃ (event : WireEvent) (dto : EventDto M),
      Carries (.instanceOf .safetyStopEvent dict) document event dto := by
  obtain ⟨nowNs, reason, sessionId, sequence, neckAction, baseAction, armAction, attributes,
    isReason, isNeck, isBase, isArm, visibleNeck, visibleBase, visibleArm, rfl⟩ :=
    Wire.encodeSafetyStopEvent_ok encoded
  obtain ⟨time, correlation, wire, rfl, sameAttributes, holds, written, _⟩ :=
    exists_correlation (M := M) proper attributes
  obtain ⟨text, known, isText⟩ := exists_stopReason reason
  obtain ⟨neck, writtenNeck, shownNeck, sameNeck⟩ :=
    exists_shown (M := M) (properValue_of_getattrD proper isNeck) visibleNeck
  obtain ⟨base, writtenBase, shownBase, sameBase⟩ :=
    exists_shown (M := M) (properValue_of_getattrD proper isBase) visibleBase
  obtain ⟨arm, writtenArm, shownArm, sameArm⟩ :=
    exists_shown (M := M) (properValue_of_getattrD proper isArm) visibleArm
  have actions : JsonEncoder.WrittenMembers M
      [(py "neck_action", neckAction), (py "base_action", baseAction), (py "arm_action", armAction)]
      [("neck_action", .str neck), ("base_action", .str base), ("arm_action", .str arm)] :=
    .cons ⟨rfl, writtenNeck⟩ (.cons ⟨rfl, writtenBase⟩ (.cons ⟨rfl, writtenArm⟩ .nil))
  refine ⟨⟨time.1, .safetyStop text wire neck base arm⟩, _, {
    written := @written_header _ _ (.safetyStop text wire neck base arm) _ _
      (.cons ⟨rfl, .str (congrArg units isText)⟩ (List.rel_append written actions))
    holds := ⟨time, rfl, .safetyStop holds⟩
    nonnegative := attributes.clock.1
    acceptable := ⟨known, shownNeck, shownBase, shownArm⟩
    same := ?_ }⟩
  subst isNeck isBase isArm
  have same := @SameEvent.safetyStop _ _ (NearestAngle M) _ _ _ _ _ _ _ sameAttributes isReason
    sameNeck sameBase sameArm
  rwa [isText] at same

theorem exists_commandRejectedEvent
    (proper : ProperTexts (.instanceOf .commandRejectedEvent dict))
    {document : Wire.EventDocument K}
    (encoded : Wire.encodeCommandRejectedEvent dict = .ok document) :
    ∃ (event : WireEvent) (dto : EventDto M),
      Carries (.instanceOf .commandRejectedEvent dict) document event dto := by
  obtain ⟨nowNs, code, value, sessionId, sequence, attributes, isCode, isMessage, visible, rfl⟩ :=
    Wire.encodeCommandRejectedEvent_ok encoded
  obtain ⟨time, correlation, wire, rfl, sameAttributes, holds, written, _⟩ :=
    exists_correlation (M := M) proper attributes
  obtain ⟨text, known, isText⟩ := exists_rejectionCode code
  obtain ⟨message, writtenMessage, shown, sameMessage⟩ :=
    exists_shown (M := M) (properValue_of_getattr proper isMessage) visible
  refine ⟨⟨time.1, .commandRejected text message wire⟩, _, {
    written := @written_header _ _ (.commandRejected text message wire) _ _
      (.cons ⟨rfl, .str (congrArg units isText)⟩ (.cons ⟨rfl, writtenMessage⟩ written))
    holds := ⟨time, rfl, .commandRejected holds⟩
    nonnegative := attributes.clock.1
    acceptable := ⟨known, shown⟩
    same := ?_ }⟩
  have same := @SameEvent.commandRejected _ _ (NearestAngle M) _ _ _ _ _ _ sameAttributes isCode
    isMessage sameMessage
  rwa [isText] at same

theorem exists_neckTargetEvent (proper : ProperTexts (.instanceOf .neckTargetEvent dict))
    (roundTrips : FloatsRoundTrip M (.instanceOf .neckTargetEvent dict))
    {document : Wire.EventDocument K}
    (encoded : Wire.encodeNeckTargetEvent M dict = .ok document) :
    ∃ (event : WireEvent) (dto : EventDto M),
      Carries (.instanceOf .neckTargetEvent dict) document event dto := by
  obtain ⟨nowNs, sessionId, sequence, panDegrees, tiltDegrees, hold, attributes, isPresent, isPan,
    isTilt, finitePan, finiteTilt, isHold, rfl⟩ := Wire.encodeNeckTargetEvent_ok encoded
  obtain ⟨time, correlation, wire, rfl, sameAttributes, holds, written, needed⟩ :=
    exists_correlation (M := M) proper attributes
  obtain ⟨ids, rfl⟩ := Option.isSome_iff_exists.mp (needed isPresent)
  obtain ⟨panLiteral, pan, writtenPan, holdsPan, samePan⟩ :=
    exists_angle roundTrips isPan finitePan
  obtain ⟨tiltLiteral, tilt, writtenTilt, holdsTilt, sameTilt⟩ :=
    exists_angle roundTrips isTilt finiteTilt
  have angles : JsonEncoder.WrittenMembers M
      [(py "pan_degrees", panDegrees), (py "tilt_degrees", tiltDegrees), (py "hold", .bool hold)]
      [("pan_degrees", .num panLiteral), ("tilt_degrees", .num tiltLiteral),
        ("hold", .bool hold)] :=
    .cons ⟨rfl, writtenPan⟩ (.cons ⟨rfl, writtenTilt⟩ (.cons ⟨rfl, .bool⟩ .nil))
  exact ⟨⟨time.1, .neckTarget ids panLiteral tiltLiteral hold⟩, _, {
    written := @written_header _ _ (.neckTarget ids panLiteral tiltLiteral hold) _ _
      (List.rel_append written angles)
    holds := ⟨time, rfl, .neckTarget holds holdsPan holdsTilt⟩
    nonnegative := attributes.clock.1
    acceptable := trivial
    same := .neckTarget sameAttributes isPan samePan isTilt sameTilt isHold }⟩

/-- An object that passes every check has a document that the client accepts. -/
theorem exists_carries {object : PyObject K} (proper : ProperTexts object)
    (roundTrips : FloatsRoundTrip M object) {document : Wire.EventDocument K}
    (encoded : Wire.eventToValidatedDict M object = .ok document) :
    ∃ (event : WireEvent) (dto : EventDto M), Carries object document event dto := by
  cases object with
  | instanceOf cls dict =>
      cases cls with
      | gatewayStateEvent => exact exists_gatewayStateEvent proper encoded
      | neckTargetEvent => exact exists_neckTargetEvent proper roundTrips encoded
      | safetyStopEvent => exact exists_safetyStopEvent proper encoded
      | commandRejectedEvent => exact exists_commandRejectedEvent proper encoded
      | _ => cases encoded
  | none | bool _ | int _ | float _ | str _ | commandName _ | gatewayState _ | rejectionCode _
  | stopReason _ | eventName _ | other => cases encoded

/-- An ASCII text of at most 65536 characters is within the limits of the client. -/
theorem checkLimits_of_ascii {text : List Char} (ascii : JsonEncoder.Ascii text)
    (short : text.length ≤ maximumCharacters) : checkLimits (utf16 text) = .ok () := by
  unfold checkLimits getByteCount
  rw [if_neg (not_lt.mpr ((JsonEncoder.length_utf16_ascii ascii).trans_le short)),
    wellFormed_utf16, codePoints_utf16, if_pos rfl]
  exact if_neg (not_lt.mpr ((JsonEncoder.utf8Length_ascii ascii).trans_le short))

/-- The text of an event is decoded. -/
theorem decodeEvent_of_carries {object : PyObject K} {document : Wire.EventDocument K}
    {event : WireEvent} {dto : EventDto M} (carries : Carries object document event dto)
    {text : List Char} (dumped : JsonEncoder.dumps M document = .ok text)
    (short : text.length ≤ maximumCharacters) : decodeEvent M (utf16 text) = .ok dto := by
  obtain ⟨derived, ascii⟩ := JsonEncoder.derives_dumps carries.written dumped
  have parsed := parse_event (isText_of_derives derived) (checkLimits_of_ascii ascii short)
  unfold decodeEvent
  rw [parsed]
  exact decodeEventRoot_of_holds event.isEvent_tree carries.holds carries.nonnegative
    carries.acceptable

/-- The text of an event is decoded to the same event, with every angle as the `double`
nearest it. -/
theorem encodeEvent_decodes (object : PyObject K) (proper : ProperTexts object)
    (roundTrips : FloatsRoundTrip M object) (text : List Char)
    (encoded : Wire.encodeEvent M object = .ok text) (short : text.length ≤ 65536) :
    ∃ dto, decodeEvent M (utf16 text) = .ok dto ∧ SameEvent (NearestAngle M) object dto := by
  obtain ⟨document, validated, dumped⟩ := Wire.dumped_of_encodeEvent encoded
  obtain ⟨event, dto, carries⟩ := exists_carries proper roundTrips validated
  exact ⟨dto, decodeEvent_of_carries carries dumped short, carries.same⟩

/-! ## Angles -/

/-- A `neck.target` of the gateway. -/
def neckTargetObject (panDegrees tiltDegrees : PyObject K) : PyObject K :=
  .instanceOf .neckTargetEvent [(.gatewayMonotonicNs, .int 0), (.sessionId, .str (py "s")),
    (.sequence, .int 1), (.panDegrees, panDegrees), (.tiltDegrees, tiltDegrees)]

/-- Its text. -/
def neckTargetJson (panDegrees tiltDegrees : String) : List Char :=
  ("\x7b\"schema_version\":\"0.1\",\"event_type\":\"neck.target\",\"gateway_monotonic_ns\":0," ++
    "\"session_id\":\"s\",\"sequence\":1,\"pan_degrees\":" ++ panDegrees ++
    ",\"tilt_degrees\":" ++ tiltDegrees ++ ",\"hold\":false\x7d").toList

theorem properTexts_neckTarget {panDegrees tiltDegrees : PyObject K}
    (isPan : panDegrees.isNumber = true) (isTilt : tiltDegrees.isNumber = true) :
    ProperTexts (neckTargetObject panDegrees tiltDegrees) := by
  rintro cls dict name text ⟨⟩ found
  cases name with
  | sessionId =>
      cases found
      rfl
  | panDegrees =>
      cases found
      cases isPan
  | tiltDegrees =>
      cases found
      cases isTilt
  | _ => cases found

/-- The pan angle of the object that an event is decoded to. -/
theorem SameEvent.exists_pan {angle : PyObject K → CsDouble M → Prop}
    {panDegrees tiltDegrees : PyObject K} {dto : EventDto M}
    (same : SameEvent angle (neckTargetObject panDegrees tiltDegrees) dto) :
    ∃ target, dto = .neckTarget target ∧ angle panDegrees target.panDegrees := by
  cases same with
  | neckTarget _ isPan samePan _ _ _ =>
      cases isPan
      exact ⟨_, rfl, samePan⟩

/-- The integer next to the largest of the floats. -/
theorem FloatMath.ofRat_rounded :
    FloatMath.integers.ofRat ((2 ^ 53 + 1 : ℤ) : ℚ) = some (2 ^ 53 : ℝ) := by
  refine (if_pos ⟨Rat.den_intCast _, ?_⟩).trans (congrArg some ?_)
  · norm_num
  · norm_num

theorem isfinite_of_ofRat {number : ℤ} {value : K} (denotes : M.ofRat number = some value) :
    (PyObject.int number).isfinite M = .ok true := by
  rw [Wire.isfinite_int, denotes]
  rfl

set_option maxRecDepth 20000 in
theorem encodeEvent_rounded :
    Wire.encodeEvent FloatMath.integers (neckTargetObject (.int (2 ^ 53 + 1)) (.int 0)) =
      .ok (neckTargetJson "9007199254740993" "0") := by
  unfold Wire.encodeEvent
  change ((PyObject.int (2 ^ 53 + 1)).isfinite FloatMath.integers >>= fun _ => _) >>= _ = _
  rw [isfinite_of_ofRat FloatMath.ofRat_rounded]
  change ((PyObject.int 0).isfinite FloatMath.integers >>= fun _ => _) >>= _ = _
  rw [isfinite_of_ofRat (FloatMath.ofRat_intCast (by decide))]
  rfl

set_option maxRecDepth 20000 in
/-- An angle that no `double` has is rounded on the way. -/
theorem not_always_sameAngle :
    ¬∀ (object : PyObject ℝ) (text : List Char), ProperTexts object →
      FloatsRoundTrip FloatMath.integers object →
      Wire.encodeEvent FloatMath.integers object = .ok text → text.length ≤ 65536 →
      ∃ dto, decodeEvent FloatMath.integers (utf16 text) = .ok dto ∧
        SameEvent (SameAngle FloatMath.integers) object dto := by
  intro always
  have proper := @properTexts_neckTarget ℝ (.int (2 ^ 53 + 1)) (.int 0) rfl rfl
  have roundTrips : FloatsRoundTrip FloatMath.integers
      (neckTargetObject (.int (2 ^ 53 + 1)) (.int 0)) := by
    rintro cls dict name value ⟨⟩ found
    cases name <;> cases found
  have short : (neckTargetJson "9007199254740993" "0").length ≤ 65536 := by decide
  obtain ⟨dto, decoded, same⟩ := always _ _ proper roundTrips encodeEvent_rounded short
  obtain ⟨document, validated, dumped⟩ := Wire.dumped_of_encodeEvent encodeEvent_rounded
  obtain ⟨event, dto', carries⟩ := exists_carries proper roundTrips validated
  rw [decodeEvent_of_carries carries dumped short] at decoded
  cases decoded
  obtain ⟨target, rfl, exact⟩ := same.exists_pan
  obtain ⟨_, isTarget, nearest⟩ := carries.same.exists_pan
  cases isTarget
  generalize target.panDegrees = pan at exact nearest
  cases exact with
  | int isExact =>
      cases nearest with
      | int isNearest =>
          rw [FloatMath.ofRat_rounded, Option.some_inj] at isNearest
          rw [← isNearest] at isExact
          norm_num at isExact

theorem floatsRoundTrip_neckTarget : FloatsRoundTrip FloatMath.axis
    (neckTargetObject (.float (.finite 30)) (.float (.finite 30))) := by
  rintro cls dict name value ⟨⟩ found
  cases name with
  | panDegrees | tiltDegrees =>
      cases found
      obtain ⟨literal, _, isText, denotes⟩ := Wire.exists_literal_thirty
      exact ⟨literal, isText, denotes⟩
  | _ => cases found

set_option maxRecDepth 20000 in
theorem encodeEvent_decodes_neckTarget :
    ∃ dto, decodeEvent FloatMath.axis (utf16 (neckTargetJson "30.0" "30.0")) = .ok dto ∧
      SameEvent (NearestAngle FloatMath.axis)
        (neckTargetObject (.float (.finite 30)) (.float (.finite 30))) dto :=
  encodeEvent_decodes _
    (properTexts_neckTarget rfl rfl) floatsRoundTrip_neckTarget _ rfl (by decide)

end ValeraControlTower

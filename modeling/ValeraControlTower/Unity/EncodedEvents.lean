import ValeraControlTower.Unity.EncodedCommands
import ValeraControlTower.Unity.EventReading

/-!
# The documents `EncodeEvent` writes

Where the text is well formed, it denotes the document of an acceptable event that the
object holds, so that decoding it returns the object.
-/

namespace ValeraControlTower.Unity.WireCodec

open Unicode Json CsString StrictJsonParser

/-! ## Members -/

theorem wellFormed_cs_append (text : String) (rest : CsString) :
    wellFormed (cs text ++ rest) = wellFormed rest :=
  wellFormed_utf16_append text.toList rest

theorem appends_null {name : String} (plain : Plain name) :
    Appends (appendName name ++ cs "null") name .null :=
  appends_value plain .null

theorem appends_boolean {name : String} (plain : Plain name) (value : Bool) :
    Appends (appendBoolean name value) name (.bool value) := by
  cases value with
  | false => exact appends_value plain .false
  | true => exact appends_value plain .true

/-- The two members of a correlation. -/
def correlationPieces (correlation : Correlation) : List CsString :=
  [appendString "session_id" correlation.sessionId,
    appendNullableNumber "sequence" correlation.sequence]

theorem appends_correlation {correlation : Correlation} {rest : CsString}
    (proper : wellFormed (appendCorrelation correlation ++ rest) = true) :
    wellFormed rest = true ∧ ∃ wire, HoldsCorrelation correlation wire ∧
      AppendsAll (correlationPieces correlation) (correlationMembers wire) := by
  unfold appendCorrelation at proper
  rw [List.append_assoc, List.append_assoc] at proper
  cases correlation with
  | unavailable =>
      have isSession := @appends_null "session_id" (by decide)
      have isSequence := @appends_null "sequence" (by decide)
      have remains := proper
      change wellFormed ((appendName "session_id" ++ cs "null") ++
        (cs "," ++ ((appendName "sequence" ++ cs "null") ++ rest))) = true at remains
      rw [isSession.proper, wellFormed_cs_append, isSequence.proper] at remains
      exact ⟨remains, none, .unavailable, .cons isSession (.cons isSequence .nil)⟩
  | available sessionId sequence visible positive =>
      obtain ⟨chars, rfl, isSession, proper⟩ := appends_string (by decide) proper
      have isSequence := @appends_long "sequence" (by decide) sequence
      have remains := proper
      change wellFormed (cs "," ++ (appendLong "sequence" sequence ++ rest)) = true at remains
      rw [wellFormed_cs_append, isSequence.proper] at remains
      exact ⟨remains, some ⟨chars, sequence.1⟩, .available, .cons isSession (.cons isSequence .nil)⟩

/-! ## Headers -/

theorem validateEventHeader_ok {schemaVersion eventType : Option CsString} {expected : CsString}
    (valid : validateEventHeader schemaVersion eventType expected = .ok ()) :
    schemaVersion = some WireValues.schemaVersion ∧ eventType = some expected := by
  unfold validateEventHeader at valid
  split at valid
  · cases valid
  · next version =>
      split at valid
      · cases valid
      · next name => exact ⟨not_not.mp version, not_not.mp name⟩

theorem requireKnownValue_ok {value : Option CsString} {name : String} {values : List String}
    (known : requireKnownValue value name values = .ok ()) :
    ∃ text : String, text ∈ values ∧ value = some (cs text) := by
  unfold requireKnownValue at known
  split at known
  · next membership =>
      obtain ⟨text, isKnown, same⟩ := List.mem_map.mp membership
      exact ⟨text, isKnown, same.symm⟩
  · cases known

/-- The members an event starts with. -/
theorem appends_header {name : EventName} {gatewayMonotonicNs : CsLong} {rest : CsString}
    (proper : wellFormed (appendEventHeader (some WireValues.schemaVersion) (some (cs name.wire))
      gatewayMonotonicNs ++ rest) = true) :
    wellFormed rest = true ∧
      Appends (appendString "schema_version" (some WireValues.schemaVersion)) "schema_version"
        (.str "0.1".toList) ∧
      Appends (appendString "event_type" (some (cs name.wire))) "event_type"
        (.str name.wire.toList) ∧
      Appends (appendLong "gateway_monotonic_ns" gatewayMonotonicNs) "gateway_monotonic_ns"
        (.num (.ofInt gatewayMonotonicNs.1)) := by
  unfold appendEventHeader at proper
  simp only [List.append_assoc] at proper
  rw [wellFormed_cs_append] at proper
  obtain ⟨version, sameVersion, isVersion, proper⟩ := appends_string (by decide) proper
  rw [wellFormed_cs_append] at proper
  obtain ⟨eventType, sameType, isType, proper⟩ := appends_string (by decide) proper
  have isTime := @appends_long "gateway_monotonic_ns" (by decide) gatewayMonotonicNs
  rw [wellFormed_cs_append, isTime.proper, wellFormed_cs_append] at proper
  cases utf16_injective sameVersion
  cases utf16_injective sameType
  exact ⟨proper, isVersion, isType, isTime⟩

/-- The text of an event from its members. -/
theorem event_text {body : WireEventBody} {gatewayMonotonicNs : CsLong} {rest : CsString}
    (proper : wellFormed (appendEventHeader (some WireValues.schemaVersion)
      (some (cs body.eventType.wire)) gatewayMonotonicNs ++ rest) = true)
    {piece : CsString} {pieces : List CsString}
    (appends : AppendsAll (piece :: pieces) body.members)
    (same : rest = List.intercalate (cs ",") (piece :: pieces) ++ cs "\x7d") :
    ∃ text, appendEventHeader (some WireValues.schemaVersion) (some (cs body.eventType.wire))
        gatewayMonotonicNs ++ rest = utf16 text ∧
      Derives text (.value (WireEvent.tree ⟨gatewayMonotonicNs.1, body⟩).document) := by
  obtain ⟨_, isVersion, isType, isTime⟩ := appends_header proper
  obtain ⟨text, isText, derived⟩ := exists_objectText (AppendsAll.cons isVersion
    (AppendsAll.cons isType (AppendsAll.cons isTime appends)))
  refine ⟨text, ?_, derived⟩
  rw [← isText, same]
  unfold appendEventHeader
  simp [List.intercalate]

/-! ## Events -/

variable {K : Type} {M : FloatMath K} {toText : FiniteDouble M → List Char}

/-- The text denotes the document of an acceptable event that the object holds. -/
def WritesEvent (dto : EventDto M) (json : CsString) : Prop :=
  ∃ event : WireEvent, HoldsEvent dto event ∧ AcceptableBody event.body ∧
    ∃ text, json = utf16 text ∧ Derives text (.value event.tree.document)

theorem writes_gatewayState {dto : GatewayStateEventDto} {json : CsString}
    (encoded : encodeGatewayState dto = .ok json) (proper : wellFormed json = true) :
    WritesEvent (M := M) (.gatewayState dto) json := by
  obtain ⟨schemaVersion, eventType, time, state, correlation⟩ := dto
  obtain ⟨_, isHeader, encoded⟩ := bind_eq_ok encoded
  obtain ⟨_, known, encoded⟩ := bind_eq_ok encoded
  cases encoded
  obtain ⟨rfl, rfl⟩ := validateEventHeader_ok isHeader
  obtain ⟨state, isKnown, rfl⟩ := requireKnownValue_ok known
  simp only [List.append_assoc] at proper ⊢
  have remains := (@appends_header .gatewayState _ _ proper).1
  obtain ⟨_, same, isState, remains⟩ := appends_string (by decide) remains
  cases utf16_injective same
  rw [wellFormed_cs_append] at remains
  obtain ⟨_, wire, holds, isCorrelation⟩ := appends_correlation remains
  refine ⟨⟨time.1, .gatewayState state.toList wire⟩, ⟨time, rfl, .gatewayState holds⟩,
    List.mem_map_of_mem isKnown, ?_⟩
  refine @event_text (.gatewayState state.toList wire) _ _ proper _ _
    (.cons isState isCorrelation) ?_
  simp [correlationPieces, appendCorrelation, List.intercalate]

/-- A text that is no white space, in code units and in characters. -/
theorem shown_of_requireNonEmpty {chars : List Char} {name : String}
    (passed : requireNonEmpty (some (utf16 chars)) name = .ok ()) : Shown chars := by
  obtain ⟨_, same, nonempty, visible⟩ := requireNonEmpty_ok passed
  cases same
  exact ⟨mt utf16_eq_nil_iff.mpr nonempty, visible⟩

theorem requireNonEmpty_some {value : Option CsString} {name : String}
    (passed : requireNonEmpty value name = .ok ()) : ∃ text, value = some text := by
  obtain ⟨text, same, _⟩ := requireNonEmpty_ok passed
  exact ⟨text, same⟩

theorem writes_commandRejected {dto : CommandRejectedEventDto} {json : CsString}
    (encoded : encodeCommandRejected dto = .ok json) (proper : wellFormed json = true) :
    WritesEvent (M := M) (.commandRejected dto) json := by
  obtain ⟨schemaVersion, eventType, time, code, message, correlation⟩ := dto
  obtain ⟨_, isHeader, encoded⟩ := bind_eq_ok encoded
  obtain ⟨_, known, encoded⟩ := bind_eq_ok encoded
  obtain ⟨_, present, encoded⟩ := bind_eq_ok encoded
  cases encoded
  obtain ⟨rfl, rfl⟩ := validateEventHeader_ok isHeader
  obtain ⟨code, isKnown, rfl⟩ := requireKnownValue_ok known
  obtain ⟨message, rfl⟩ := requireNonEmpty_some present
  simp only [List.append_assoc] at proper ⊢
  have remains := (@appends_header .commandRejected _ _ proper).1
  obtain ⟨_, same, isCode, remains⟩ := appends_string (by decide) remains
  cases utf16_injective same
  rw [wellFormed_cs_append] at remains
  obtain ⟨message, rfl, isMessage, remains⟩ := appends_string (by decide) remains
  rw [wellFormed_cs_append] at remains
  obtain ⟨_, wire, holds, isCorrelation⟩ := appends_correlation remains
  refine ⟨⟨time.1, .commandRejected code.toList message wire⟩, ⟨time, rfl, .commandRejected holds⟩,
    ⟨List.mem_map_of_mem isKnown, shown_of_requireNonEmpty present⟩, ?_⟩
  refine @event_text (.commandRejected code.toList message wire) _ _ proper _ _
    (.cons isCode (.cons isMessage isCorrelation)) ?_
  simp [correlationPieces, appendCorrelation, List.intercalate]

theorem writes_safetyStop {dto : SafetyStopEventDto} {json : CsString}
    (encoded : encodeSafetyStop dto = .ok json) (proper : wellFormed json = true) :
    WritesEvent (M := M) (.safetyStop dto) json := by
  obtain ⟨schemaVersion, eventType, time, reason, correlation, neckAction, baseAction, armAction⟩ :=
    dto
  obtain ⟨_, isHeader, encoded⟩ := bind_eq_ok encoded
  obtain ⟨_, known, encoded⟩ := bind_eq_ok encoded
  obtain ⟨_, presentNeck, encoded⟩ := bind_eq_ok encoded
  obtain ⟨_, presentBase, encoded⟩ := bind_eq_ok encoded
  obtain ⟨_, presentArm, encoded⟩ := bind_eq_ok encoded
  cases encoded
  obtain ⟨rfl, rfl⟩ := validateEventHeader_ok isHeader
  obtain ⟨reason, isKnown, rfl⟩ := requireKnownValue_ok known
  obtain ⟨neckAction, rfl⟩ := requireNonEmpty_some presentNeck
  obtain ⟨baseAction, rfl⟩ := requireNonEmpty_some presentBase
  obtain ⟨armAction, rfl⟩ := requireNonEmpty_some presentArm
  simp only [List.append_assoc] at proper ⊢
  have remains := (@appends_header .safetyStop _ _ proper).1
  obtain ⟨_, same, isReason, remains⟩ := appends_string (by decide) remains
  cases utf16_injective same
  rw [wellFormed_cs_append] at remains
  obtain ⟨remains, wire, holds, isCorrelation⟩ := appends_correlation remains
  rw [wellFormed_cs_append] at remains
  obtain ⟨neckAction, rfl, isNeck, remains⟩ := appends_string (by decide) remains
  rw [wellFormed_cs_append] at remains
  obtain ⟨baseAction, rfl, isBase, remains⟩ := appends_string (by decide) remains
  rw [wellFormed_cs_append] at remains
  obtain ⟨armAction, rfl, isArm, _⟩ := appends_string (by decide) remains
  refine ⟨⟨time.1, .safetyStop reason.toList wire neckAction baseAction armAction⟩,
    ⟨time, rfl, .safetyStop holds⟩, ⟨List.mem_map_of_mem isKnown,
      shown_of_requireNonEmpty presentNeck, shown_of_requireNonEmpty presentBase,
      shown_of_requireNonEmpty presentArm⟩, ?_⟩
  have actions := AppendsAll.cons isNeck (AppendsAll.cons isBase (AppendsAll.cons isArm
    AppendsAll.nil))
  refine @event_text (.safetyStop reason.toList wire neckAction baseAction armAction) _ _ proper _ _
    (.cons isReason (List.rel_append isCorrelation actions)) ?_
  simp [correlationPieces, appendCorrelation, List.intercalate]

theorem writes_neckTarget (roundTrips : RoundTrips M toText) {dto : NeckTargetEventDto M}
    {json : CsString} (encoded : encodeNeckTarget M toText dto = .ok json)
    (proper : wellFormed json = true) : WritesEvent (.neckTarget dto) json := by
  obtain ⟨schemaVersion, eventType, time, correlation, pan, tilt, hold⟩ := dto
  obtain ⟨_, isHeader, encoded⟩ := bind_eq_ok encoded
  obtain ⟨rfl, rfl⟩ := validateEventHeader_ok isHeader
  cases correlation with
  | unavailable => cases encoded
  | available sessionId sequence visible positive =>
      obtain ⟨_, _, encoded⟩ := bind_eq_ok encoded
      obtain ⟨_, _, encoded⟩ := bind_eq_ok encoded
      obtain ⟨panText, isPan, encoded⟩ := bind_eq_ok encoded
      obtain ⟨tiltText, isTilt, encoded⟩ := bind_eq_ok encoded
      cases encoded
      obtain ⟨panDegrees, holdsPan, appendsPan⟩ := appends_double roundTrips (by decide) isPan
      obtain ⟨tiltDegrees, holdsTilt, appendsTilt⟩ := appends_double roundTrips (by decide) isTilt
      simp only [List.append_assoc] at proper ⊢
      have remains := (@appends_header .neckTarget _ _ proper).1
      obtain ⟨_, wire, holds, isCorrelation⟩ := appends_correlation remains
      cases holds with
      | @available chars _ _ _ =>
          refine ⟨⟨time.1, .neckTarget ⟨chars, sequence.1⟩ panDegrees tiltDegrees hold⟩,
            ⟨time, rfl, .neckTarget .available holdsPan holdsTilt⟩, trivial, ?_⟩
          have angles := AppendsAll.cons appendsPan (AppendsAll.cons appendsTilt
            (AppendsAll.cons (@appends_boolean "hold" (by decide) hold) AppendsAll.nil))
          refine @event_text
            (.neckTarget ⟨chars, sequence.1⟩ panDegrees tiltDegrees hold) _ _ proper
            _ _ (List.rel_append isCorrelation angles) ?_
          simp [appendCorrelation, List.intercalate]

/-- What an encoder writes denotes the object. -/
theorem writesEvent_of_encodeEventFields (roundTrips : RoundTrips M toText) {dto : EventDto M}
    {json : CsString} (encoded : encodeEventFields M toText dto = .ok json)
    (proper : wellFormed json = true) : WritesEvent dto json := by
  cases dto with
  | gatewayState dto => exact writes_gatewayState encoded proper
  | neckTarget dto => exact writes_neckTarget roundTrips encoded proper
  | safetyStop dto => exact writes_safetyStop encoded proper
  | commandRejected dto => exact writes_commandRejected encoded proper

/-! ## Reading back -/

theorem limits_of_decodeEvent {json : CsString} {dto : EventDto M}
    (decoded : decodeEvent M json = .ok dto) : checkLimits json = .ok () := by
  obtain ⟨root, parsed, _⟩ := bind_eq_ok decoded
  obtain ⟨_, within, _⟩ := bind_eq_ok parsed
  exact within

/-- The text of an event is parsed to its document. -/
theorem parse_event {event : WireEvent} {text : List Char}
    (isText : IsText text event.tree.document) (within : checkLimits (utf16 text) = .ok ()) :
    parse (utf16 text) = .ok (csTree event.tree) := by
  have distinct := Tree.distinctKeys_map utf16 Subtype.val utf16_injective event.tree
    event.distinctKeys_tree
  have paired : event.tree.document.Strings Paired :=
    Tree.strings_map utf16 Subtype.val wellFormed_utf16 event.tree
  have shallow : event.tree.document.depth ≤ maximumDepth + 1 := by
    unfold WireTree.document
    rw [Tree.depth_map]
    exact Nat.le_trans event.depth_tree (by decide)
  rw [parse_of_isText isText distinct paired shallow within, csDocument_document]

/-- An encoded event is decoded to the object itself. -/
theorem encodeEvent_ok (roundTrips : RoundTrips M toText) {dto : EventDto M} {json : CsString}
    (encoded : encodeEvent M toText dto = .ok json) : decodeEvent M json = .ok dto := by
  obtain ⟨json', written, encoded⟩ := bind_eq_ok encoded
  obtain ⟨dto', decoded, same⟩ := bind_eq_ok encoded
  cases same
  have within := limits_of_decodeEvent decoded
  obtain ⟨event, holds, acceptable, text, rfl, derived⟩ :=
    writesEvent_of_encodeEventFields roundTrips written (wellFormed_of_limits within)
  have parsed := parse_event (isText_of_derives derived) within
  have nonnegative := nonnegative_of_decodeEventRoot event.isEvent_tree (by
    unfold decodeEvent at decoded
    rw [parsed] at decoded
    exact decoded)
  unfold decodeEvent
  rw [parsed]
  exact decodeEventRoot_of_holds event.isEvent_tree holds nonnegative acceptable

end ValeraControlTower.Unity.WireCodec

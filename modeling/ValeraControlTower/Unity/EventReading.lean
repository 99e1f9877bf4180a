import ValeraControlTower.Contract.Events
import ValeraControlTower.Unity.CommandReading
import ValeraControlTower.Unity.WireEvents

/-!
# The documents `DecodeEvent` accepts

The document of an event of the contract is decoded to the object that holds it.
-/

namespace ValeraControlTower.Unity

open Unicode Json CsString

namespace WireCodec

/-! ## Objects -/

/-- What a correlation holds of the document. -/
inductive HoldsCorrelation : Correlation → Option WireCorrelation → Prop where
  | unavailable : HoldsCorrelation .unavailable none
  | available {sessionId : List Char} {sequence : CsLong}
      {visible : isWhiteSpaceOnly (utf16 sessionId) = false} {positive : 1 ≤ sequence.1} :
      HoldsCorrelation (.available (utf16 sessionId) sequence visible positive)
        (some ⟨sessionId, sequence.1⟩)

variable {K : Type} {M : FloatMath K}

/-- What an event object with the given time holds of the document. -/
inductive HoldsBody (gatewayMonotonicNs : CsLong) : EventDto M → WireEventBody → Prop where
  | gatewayState {state : List Char} {correlation : Correlation} {wire : Option WireCorrelation}
      (isCorrelation : HoldsCorrelation correlation wire) :
      HoldsBody gatewayMonotonicNs (.gatewayState ⟨some WireValues.schemaVersion,
        some WireValues.gatewayState, gatewayMonotonicNs, some (utf16 state), correlation⟩)
        (.gatewayState state wire)
  | neckTarget {correlation : Correlation} {wire : WireCorrelation} {pan tilt : CsDouble M}
      {panDegrees tiltDegrees : Literal} {hold : Bool}
      (isCorrelation : HoldsCorrelation correlation (some wire))
      (isPan : HoldsNumber M pan panDegrees) (isTilt : HoldsNumber M tilt tiltDegrees) :
      HoldsBody gatewayMonotonicNs (.neckTarget ⟨some WireValues.schemaVersion,
        some WireValues.neckTarget, gatewayMonotonicNs, correlation, pan, tilt, hold⟩)
        (.neckTarget wire panDegrees tiltDegrees hold)
  | safetyStop {reason neckAction baseAction armAction : List Char} {correlation : Correlation}
      {wire : Option WireCorrelation} (isCorrelation : HoldsCorrelation correlation wire) :
      HoldsBody gatewayMonotonicNs (.safetyStop ⟨some WireValues.schemaVersion,
        some WireValues.safetyStop, gatewayMonotonicNs, some (utf16 reason), correlation,
        some (utf16 neckAction), some (utf16 baseAction), some (utf16 armAction)⟩)
        (.safetyStop reason wire neckAction baseAction armAction)
  | commandRejected {code message : List Char} {correlation : Correlation}
      {wire : Option WireCorrelation} (isCorrelation : HoldsCorrelation correlation wire) :
      HoldsBody gatewayMonotonicNs (.commandRejected ⟨some WireValues.schemaVersion,
        some WireValues.commandRejected, gatewayMonotonicNs, some (utf16 code),
        some (utf16 message), correlation⟩)
        (.commandRejected code message wire)

/-- What an event object holds of the document. -/
def HoldsEvent (dto : EventDto M) (event : WireEvent) : Prop :=
  ∃ gatewayMonotonicNs : CsLong, gatewayMonotonicNs.1 = event.gatewayMonotonicNs ∧
    HoldsBody gatewayMonotonicNs dto event.body

/-! ## Values -/

/-- A text that is neither empty nor white space. -/
def Shown (text : List Char) : Prop := text ≠ [] ∧ Dialect.unity.blank text = false

/-- The enumerations and the texts an event document may hold. -/
def AcceptableBody : WireEventBody → Prop
  | .gatewayState state _ => state ∈ gatewayStates.map String.toList
  | .neckTarget _ _ _ _ => True
  | .safetyStop reason _ neckAction baseAction armAction =>
      reason ∈ stopReasons.map String.toList ∧ Shown neckAction ∧ Shown baseAction ∧
        Shown armAction
  | .commandRejected code message _ =>
      code ∈ rejectionCodes.map String.toList ∧ Shown message

/-! ## Fields -/

theorem integer_ofInt {minimum number : ℤ} (nonnegative : 0 ≤ minimum) (above : minimum ≤ number)
    (below : number ≤ 9223372036854775807) : Dialect.unity.Integer minimum (.ofInt number) where
  isInteger := Numeral.isInteger_ofInt number
  sign _ := decide_eq_false (not_lt.mpr (nonnegative.trans above))
  above := above.trans_eq (Numeral.intValue_ofInt number).symm
  below := (Numeral.intValue_ofInt number).trans_le below

theorem requireInteger_of_has {members : WireMembers} {name : String} {minimum : ℤ}
    {value : CsLong} (has : members.Has name (.num (.ofInt value.1))) (nonnegative : 0 ≤ minimum)
    (above : minimum ≤ value.1) :
    requireInteger (csTree (.obj members)) name minimum = .ok value :=
  requireInteger_iff.mpr ⟨_, has, integer_ofInt nonnegative above value.2.2,
    (Numeral.intValue_ofInt value.1).symm⟩

theorem requireText_of_has {members : WireMembers} {name : String} {text : List Char}
    (has : members.Has name (.str text)) :
    requireString (csTree (.obj members)) name none = .ok (utf16 text) :=
  requireText_iff.mpr ⟨text, has, rfl⟩

theorem requireShown_of_has {members : WireMembers} {name : String} {text : List Char}
    (has : members.Has name (.str text)) (shown : Shown text) :
    requireNonEmptyString (csTree (.obj members)) name = .ok (utf16 text) :=
  requireNonEmptyString_iff.mpr ⟨text, has, rfl, shown⟩

theorem mem_cs_iff {text : List Char} {values : List String} :
    utf16 text ∈ values.map cs ↔ text ∈ values.map String.toList := by
  have same : values.map cs = (values.map String.toList).map utf16 := by
    rw [List.map_map]
    rfl
  rw [same, List.mem_map_of_injective utf16_injective]

theorem requireKnown_of_has {members : WireMembers} {name : String} {text : List Char}
    {values : List String} (has : members.Has name (.str text))
    (known : text ∈ values.map String.toList) :
    requireKnown (csTree (.obj members)) name values = .ok () := by
  unfold requireKnown
  rw [requireText_of_has has]
  exact if_pos (mem_cs_iff.mpr known)

theorem requireHold_of_has {members : WireMembers} {hold : Bool}
    (has : members.Has "hold" (.bool hold)) : requireHold (csTree (.obj members)) = .ok () := by
  unfold requireHold
  rw [requireMember_of_has has]
  rfl

/-! ## Correlations -/

theorem new_available {sessionId : CsString} {sequence : CsLong}
    (visible : isWhiteSpaceOnly sessionId = false) (positive : 1 ≤ sequence.1) :
    Correlation.new sessionId sequence = .ok (.available sessionId sequence visible positive) := by
  unfold Correlation.new
  rw [dif_pos visible, dif_pos positive]

theorem nonempty_of_visible {text : List Char} (visible : isWhiteSpaceOnly (utf16 text) = false) :
    text ≠ [] := by
  rintro rfl
  cases visible

theorem decodeCorrelation_of_holds {members : WireMembers} {correlation : Correlation}
    {wire : Option WireCorrelation} (has : members.HasCorrelation wire)
    (holds : HoldsCorrelation correlation wire) {required : Bool}
    (present : required = true → wire.isSome = true) :
    decodeCorrelation (csTree (.obj members)) required = .ok correlation := by
  unfold decodeCorrelation
  cases holds with
  | unavailable =>
      have optional : required = false := by
        cases required with
        | false => rfl
        | true => cases present rfl
      rw [requireMember_of_has has.1, requireMember_of_has has.2, optional]
      rfl
  | @available sessionId sequence visible positive =>
      rw [requireMember_of_has has.1, requireMember_of_has has.2,
        requireShown_of_has has.1 ⟨nonempty_of_visible visible, visible⟩,
        requireInteger_of_has has.2 (by decide) positive]
      exact new_available visible positive

/-! ## Events -/

/-- The body of an event, in the document it is part of. -/
theorem decodeEventType_of_holds {members : WireMembers} {body : WireEventBody}
    (isBody : IsEventBody members body) {gatewayMonotonicNs : CsLong} {dto : EventDto M}
    (holds : HoldsBody gatewayMonotonicNs dto body) (acceptable : AcceptableBody body)
    (isTime : requireInteger (csTree (.obj members)) "gateway_monotonic_ns" 0 =
      .ok gatewayMonotonicNs) {name : EventName} (isName : name = body.eventType) :
    decodeEventType M (csTree (.obj members)) (cs name.wire) = .ok dto := by
  unfold decodeEventType
  cases isBody with
  | gatewayState fields isState isCorrelation =>
      obtain rfl : name = .gatewayState := isName
      cases holds with
      | gatewayState holds =>
          have checked :
              requireExactFields (csTree (.obj members)) gatewayStateFields [] = .ok () :=
            requireExactFields_iff.mpr fields
          have correlated :=
            @decodeCorrelation_of_holds _ _ _ isCorrelation holds false (by rintro ⟨⟩)
          rw [if_pos (by rfl), checked, requireKnown_of_has isState acceptable]
          unfold decodeGatewayState
          rw [isTime, requireText_of_has isState, correlated]
          rfl
  | neckTarget fields isCorrelation isPan isTilt isHold =>
      obtain rfl : name = .neckTarget := isName
      cases holds with
      | neckTarget holds holdsPan holdsTilt =>
          have checked : requireExactFields (csTree (.obj members)) neckTargetFields [] = .ok () :=
            requireExactFields_iff.mpr fields
          have correlated := @decodeCorrelation_of_holds _ _ _ isCorrelation holds true fun _ => rfl
          obtain ⟨pan, rfl, denotesPan⟩ := holdsNumber_iff.mp holdsPan
          obtain ⟨tilt, rfl, denotesTilt⟩ := holdsNumber_iff.mp holdsTilt
          rw [if_neg (by decide), if_pos (by rfl), checked,
            requireFiniteNumber_iff.mpr ⟨_, isPan, denotesPan⟩,
            requireFiniteNumber_iff.mpr ⟨_, isTilt, denotesTilt⟩, requireHold_of_has isHold]
          unfold decodeNeckTarget
          rw [isTime, correlated, requireFiniteNumber_iff.mpr ⟨_, isPan, denotesPan⟩,
            requireFiniteNumber_iff.mpr ⟨_, isTilt, denotesTilt⟩, requireMember_of_has isHold]
          rfl
  | safetyStop fields isReason isCorrelation isNeck isBase isArm =>
      obtain rfl : name = .safetyStop := isName
      cases holds with
      | safetyStop holds =>
          have checked : requireExactFields (csTree (.obj members)) safetyStopFields [] = .ok () :=
            requireExactFields_iff.mpr fields
          have correlated :=
            @decodeCorrelation_of_holds _ _ _ isCorrelation holds false (by rintro ⟨⟩)
          obtain ⟨known, shownNeck, shownBase, shownArm⟩ := acceptable
          rw [if_neg (by decide), if_neg (by decide), if_pos (by rfl), checked,
            requireKnown_of_has isReason known, requireShown_of_has isNeck shownNeck,
            requireShown_of_has isBase shownBase, requireShown_of_has isArm shownArm]
          unfold decodeSafetyStop
          rw [isTime, requireText_of_has isReason, correlated, requireText_of_has isNeck,
            requireText_of_has isBase, requireText_of_has isArm]
          rfl
  | commandRejected fields isCode isMessage isCorrelation =>
      obtain rfl : name = .commandRejected := isName
      cases holds with
      | commandRejected holds =>
          have checked : requireExactFields (csTree (.obj members)) commandRejectedFields [] =
              .ok () := requireExactFields_iff.mpr fields
          have correlated :=
            @decodeCorrelation_of_holds _ _ _ isCorrelation holds false (by rintro ⟨⟩)
          obtain ⟨known, shown⟩ := acceptable
          rw [if_neg (by decide), if_neg (by decide), if_neg (by decide), if_pos (by rfl), checked,
            requireKnown_of_has isCode known, requireShown_of_has isMessage shown]
          unfold decodeCommandRejected
          rw [isTime, requireText_of_has isCode, requireText_of_has isMessage, correlated]
          rfl

/-- The document of an acceptable event is decoded to an object that holds it. -/
theorem decodeEventRoot_of_holds {tree : WireTree} {event : WireEvent}
    (isEvent : IsEvent tree event) {dto : EventDto M} (holds : HoldsEvent dto event)
    (nonnegative : 0 ≤ event.gatewayMonotonicNs) (acceptable : AcceptableBody event.body) :
    decodeEventRoot M (csTree tree) = .ok dto := by
  obtain ⟨gatewayMonotonicNs, isSame, holdsBody⟩ := holds
  obtain @⟨members, _, hasVersion, hasType, hasTime, isBody⟩ := isEvent
  rw [← isSame] at hasTime nonnegative
  have isVersion : requireString (csTree (.obj members)) "schema_version"
      (some WireValues.schemaVersion) = .ok (cs "0.1") :=
    requireLiteral_iff.mpr ⟨hasVersion, rfl⟩
  have isTime := requireInteger_of_has hasTime le_rfl nonnegative
  unfold decodeEventRoot
  rw [requireObject_obj, isVersion, requireText_of_has hasType, isTime]
  exact decodeEventType_of_holds isBody holdsBody acceptable isTime rfl

/-- What is decoded has a time that is not negative. -/
theorem nonnegative_of_decodeEventRoot {tree : WireTree} {event : WireEvent}
    (isEvent : IsEvent tree event) {dto : EventDto M}
    (decoded : decodeEventRoot M (csTree tree) = .ok dto) : 0 ≤ event.gatewayMonotonicNs := by
  obtain @⟨members, _, hasVersion, hasType, hasTime, isBody⟩ := isEvent
  obtain ⟨_, _, decoded⟩ := bind_eq_ok decoded
  obtain ⟨_, _, decoded⟩ := bind_eq_ok decoded
  obtain ⟨_, _, decoded⟩ := bind_eq_ok decoded
  obtain ⟨_, isTime, _⟩ := bind_eq_ok decoded
  obtain ⟨literal, hasTime', inRange, _⟩ := requireInteger_iff.mp isTime
  cases hasTime.unique hasTime'
  exact inRange.above.trans_eq (Numeral.intValue_ofInt event.gatewayMonotonicNs)

end WireCodec

end ValeraControlTower.Unity

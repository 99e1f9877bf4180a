import ValeraControlTower.Contract.ClientToGateway
import ValeraControlTower.Contract.GatewayToClient
import ValeraControlTower.VrGateway.TransportRuns

/-!
# The size of the events

What an adapter publishes is ASCII, so that its characters, code units and bytes are as
many.  Their number is the one of a fixed part, the digits of the numbers and the session
id as `json.dumps` escapes it.
-/

namespace ValeraControlTower

open Unicode Json JsonEncoder Wire VrGatewayAdapter Unity.StrictJsonParser

/-! ## Texts -/

/-- The limits that the client checks in front of everything else. -/
structure FitsClient (text : List Char) : Prop where
  characters : (utf16 text).length ≤ maximumCharacters
  bytes : ((ofChars text).map CodePoint.utf8Length).sum ≤ maximumBytes

theorem fitsClient_iff {text : List Char} (ascii : Ascii text) :
    FitsClient text ↔ text.length ≤ 65536 := by
  constructor
  · intro fits
    exact (length_utf16_ascii ascii).ge.trans fits.characters
  · intro short
    exact ⟨(length_utf16_ascii ascii).trans_le short, (utf8Length_ascii ascii).trans_le short⟩

/-- The length of a string as it is escaped. -/
def escapedLength (text : PyStr) : ℕ := (text.flatMap escapeAscii).length

theorem length_encodeString (text : PyStr) :
    (encodeString text).length = escapedLength text + 2 := by
  simp [encodeString, escapedLength]

variable {K : Type} {M : FloatMath K}

theorem length_joinMembers {texts : List (List Char)} (present : texts ≠ []) :
    (joinMembers texts).length = (texts.map List.length).sum + texts.length := by
  induction texts with
  | nil => exact absurd rfl present
  | cons text texts inductionHypothesis =>
      cases texts with
      | nil => simp [joinMembers]
      | cons second texts =>
          rw [joinMembers, List.length_append, List.length_cons,
            inductionHypothesis (List.cons_ne_nil _ _)]
          · simp only [List.map_cons, List.sum_cons, List.length_cons]
            omega
          · simp

theorem ascii_joinMembers {texts : List (List Char)} (ascii : ∀ text ∈ texts, Ascii text) :
    Ascii (joinMembers texts) := by
  induction texts with
  | nil => decide
  | cons text texts inductionHypothesis =>
      have first := ascii text (by simp)
      have rest := inductionHypothesis fun other membership => ascii other (by simp [membership])
      cases texts with
      | nil => exact first.append (by decide)
      | cons second texts =>
          rw [joinMembers]
          · exact first.append (.cons (by decide) rest)
          · simp

/-- The length of a value that is written. -/
def valueLength (M : FloatMath K) (value : PyObject K) : ℕ := (valueText M value).length

theorem length_memberText (name : PyStr) (value : PyObject K) :
    (JsonEncoder.memberText M (name, value)).length =
      escapedLength name + valueLength M value + 3 := by
  unfold JsonEncoder.memberText valueLength
  dsimp only
  rw [List.length_append, length_encodeString, List.length_cons]
  omega

theorem valueLength_str (text : PyStr) :
    valueLength M (.str text) = escapedLength text + 2 :=
  length_encodeString text

theorem valueLength_int {value : ℤ} (inRange : InRange 0 value) :
    valueLength M (.int value) = (Digit.decimal value.natAbs).length := by
  have nonnegative : decide (value < 0) = false := decide_eq_false (not_lt.mpr inRange.1)
  unfold valueLength valueText encodeValue
  dsimp only
  rw [encodeInt_ok inRange]
  simp [Numeral.text, Numeral.integerText, Numeral.ofInt, Numeral.fractionText,
    Numeral.exponentText, nonnegative]

theorem valueLength_int_le {value : ℤ} (inRange : InRange 0 value) :
    valueLength M (.int value) ≤ 19 := by
  rw [valueLength_int inRange]
  apply Digit.length_decimal_le (by decide)
  have limit : maxInt64 < 10 ^ 19 := by decide
  obtain ⟨nonnegative, bounded⟩ := inRange
  omega

/-! ## Events -/

/-- What stands in the text of an event whatever its values are. -/
def fixedLength (event : OutputEvent K) : ℕ :=
  (event.document.map fun member => escapedLength member.1 + 4).sum + 1

theorem length_eventText (event : OutputEvent K) :
    (eventText M event).length =
      fixedLength event + (event.document.map fun member => valueLength M member.2).sum := by
  have present : event.document.map (JsonEncoder.memberText M) ≠ [] := by
    cases event <;> exact List.cons_ne_nil _ _
  unfold eventText fixedLength
  rw [List.length_cons, length_joinMembers present, List.length_map, List.map_map]
  induction event.document with
  | nil => rfl
  | cons member members inductionHypothesis =>
      obtain ⟨name, value⟩ := member
      have first := length_memberText (M := M) name value
      simp only [List.map_cons, List.sum_cons, List.length_cons, Function.comp_apply] at *
      omega

/-- `repr` of a float is ASCII and has at most 24 characters. -/
structure FloatMath.ShortRepr (M : FloatMath K) : Prop where
  ascii : ∀ value, Ascii (M.repr value)
  length_le : ∀ value, (M.repr value).length ≤ 24

theorem ascii_valueText (short : M.ShortRepr) (value : PyObject K) :
    Ascii (valueText M value) := by
  unfold valueText
  cases encoded : encodeValue M value with
  | error exception => exact .nil
  | ok text =>
      cases value with
      | none =>
          cases encoded
          decide
      | bool value =>
          cases encoded
          cases value <;> decide
      | int value =>
          unfold encodeValue encodeInt at encoded
          dsimp only at encoded
          split at encoded
          · cases encoded
          · cases encoded
            exact ascii_numeral _
      | float value =>
          cases value with
          | finite value =>
              cases encoded
              exact short.ascii value
          | infinity _ | nan => cases encoded
      | str _ | commandName _ | gatewayState _ | rejectionCode _ | stopReason _ | eventName _ =>
          cases encoded
          exact ascii_encodeString _
      | instanceOf _ _ | other => cases encoded

theorem ascii_eventText (short : M.ShortRepr) (event : OutputEvent K) :
    Ascii (eventText M event) := by
  refine .cons (by decide) (ascii_joinMembers fun text membership => ?_)
  obtain ⟨member, _, rfl⟩ := List.mem_map.mp membership
  exact (ascii_encodeString _).append (.cons (by decide) (ascii_valueText short _))

/-- An id that fits next to the rest of any event. -/
def ShortId (sessionId : PyStr) : Prop := escapedLength sessionId ≤ 65292

theorem valueLength_correlation {sessionId : Option PyStr} {sequence : Option ℤ}
    (correlated : Correlated ShortId sessionId sequence) :
    valueLength M (optionalObject .str sessionId) ≤ 65294 ∧
      valueLength M (optionalObject .int sequence) ≤ 19 := by
  cases correlated with
  | absent => exact ⟨show 4 ≤ 65294 by decide, show 4 ≤ 19 by decide⟩
  | present admitted _ _ inRange =>
      exact ⟨(valueLength_str _).trans_le (Nat.add_le_add_right admitted 2),
        valueLength_int_le ⟨zero_le_one.trans inRange.1, inRange.2⟩⟩

theorem valueLength_state (state : GatewayState) :
    valueLength M (.str state.value) ≤ 19 := by
  rw [valueLength_str]
  cases state <;> decide

theorem valueLength_reason (reason : StopReason) :
    valueLength M (.str reason.value) ≤ 17 := by
  rw [valueLength_str]
  cases reason <;> decide

theorem valueLength_rejection (code : RejectionCode) :
    valueLength M (.str code.value) + valueLength M (.str (rejectionMessage code)) ≤ 66 := by
  rw [valueLength_str, valueLength_str]
  cases code <;> decide

theorem length_eventText_le (short : M.ShortRepr) {nowNs : ℤ} (clock : InRange 0 nowNs)
    {event : OutputEvent K} (encodable : Encodable ShortId nowNs event) :
    (eventText M event).length ≤ 65536 := by
  have time := valueLength_int_le (M := M) clock
  cases encodable with
  | @gatewayState state sessionId sequence correlated =>
      obtain ⟨sessionLength, sequenceLength⟩ := valueLength_correlation (M := M) correlated
      have stateLength := valueLength_state (M := M) state
      calc _ = 92 + (5 + (15 + (valueLength M (.int nowNs) + (valueLength M (.str state.value) +
            (valueLength M (optionalObject .str sessionId) +
            (valueLength M (optionalObject .int sequence) + 0)))))) := length_eventText _
        _ ≤ 65536 := by omega
  | @neckTarget sessionId sequence panDegrees tiltDegrees correlated =>
      obtain ⟨sessionLength, sequenceLength⟩ := valueLength_correlation (M := M) correlated
      have panLength := short.length_le panDegrees
      have tiltLength := short.length_le tiltDegrees
      calc _ = 122 + (5 + (13 + (valueLength M (.int nowNs) + (valueLength M (.str sessionId) +
            (valueLength M (.int sequence) + ((M.repr panDegrees).length +
            ((M.repr tiltDegrees).length + (5 + 0)))))))) := length_eventText _
        _ ≤ 65536 := by
            change valueLength M (.str sessionId) ≤ _ at sessionLength
            change valueLength M (.int sequence) ≤ _ at sequenceLength
            omega
  | @safetyStop reason sessionId sequence correlated =>
      obtain ⟨sessionLength, sequenceLength⟩ := valueLength_correlation (M := M) correlated
      have reasonLength := valueLength_reason (M := M) reason
      calc _ = 137 + (5 + (13 + (valueLength M (.int nowNs) + (valueLength M (.str reason.value) +
            (valueLength M (optionalObject .str sessionId) +
            (valueLength M (optionalObject .int sequence) + (20 + (6 + (6 + 0))))))))) :=
          length_eventText _
        _ ≤ 65536 := by omega
  | @commandRejected code sessionId sequence correlated =>
      obtain ⟨sessionLength, sequenceLength⟩ := valueLength_correlation (M := M) correlated
      have rejectionLength := valueLength_rejection (M := M) code
      calc _ = 102 + (5 + (18 + (valueLength M (.int nowNs) + (valueLength M (.str code.value) +
            (valueLength M (.str (rejectionMessage code)) +
            (valueLength M (optionalObject .str sessionId) +
            (valueLength M (optionalObject .int sequence) + 0))))))) := length_eventText _
        _ ≤ 65536 := by omega

/-! ## Runs -/

variable [Field K] [LinearOrder K]

/-- What a call publishes are the texts of events that can be encoded. -/
theorem published_encodable {admits : PyStr → Prop} {adapter : VrGatewayAdapter M}
    (fit : Fit admits adapter.gateway) {arrival : Arrival} (clock : InRange 0 arrival.nowNs)
    (admitted : arrival.Admitted M admits) {texts : List (List Char)}
    (returned : (adapter.step arrival).2 = .ok texts) :
    ∀ text ∈ texts, ∃ event, Encodable admits arrival.nowNs event ∧ text = eventText M event := by
  have events : ∃ events : List (OutputEvent K),
      (∀ event ∈ events, Encodable admits arrival.nowNs event) ∧
      publish M (.ok events) = .ok texts := by
    obtain ⟨delivery, nowNs⟩ := arrival
    cases delivery with
    | poll =>
        exact ⟨(adapter.gateway.evaluateDeadline nowNs).2,
          (evaluateDeadline_fit fit nowNs).2, returned⟩
    | command raw =>
        simp only [step, handleCommand, handleCommandVia] at returned
        cases received : receive M raw with
        | error exception =>
            rw [received] at returned
            cases returned
        | ok object =>
            rw [received] at returned
            have encodable := (handle_fit fit (receive_received admitted received) nowNs).2
            cases handled : (adapter.gateway.handle object nowNs).2 with
            | error exception =>
                simp only [handled] at returned
                cases returned
            | ok events =>
                simp only [handled] at returned
                exact ⟨events, encodable events handled, returned⟩
  obtain ⟨events, encodable, published⟩ := events
  change encodeEvents M (events.map OutputEvent.toObject) = _ at published
  rw [encodeEvents_ok clock encodable] at published
  cases published
  intro text membership
  obtain ⟨event, isEvent, rfl⟩ := List.mem_map.mp membership
  exact ⟨event, encodable event isEvent, rfl⟩

/-- Every text that a run publishes is within the limits of the client. -/
def AllFit (transcript : Transcript) : Prop :=
  ∀ entry ∈ transcript, ∀ texts, entry.output = .ok texts → ∀ text ∈ texts, FitsClient text

/-- In a run in which every command that is decoded has a short id, all texts fit. -/
theorem allFit_of_shortIds (short : M.ShortRepr) (controller : NeckController M)
    (config : GatewayConfig) (transcript : Transcript) (adapter : VrGatewayAdapter M)
    (run : IsRun controller config transcript adapter) (clocked : Clocked transcript)
    (ids : ∀ entry ∈ transcript, entry.input.Admitted M ShortId) : AllFit transcript := by
  intro entry membership texts output text published
  obtain ⟨before, after, rfl⟩ := List.append_of_mem membership
  obtain ⟨state, past, returned, _⟩ := run.entry
  have fit := fit_of_run past fun other inside => ids other (List.mem_append_left _ inside)
  rw [returned] at output
  obtain ⟨event, encodable, rfl⟩ := published_encodable fit (clocked entry membership)
    (ids entry membership) output text published
  rw [fitsClient_iff (ascii_eventText short event)]
  exact length_eventText_le short (clocked entry membership) encodable

/-! ## Long and short ids -/

/-- An id of so many letters with an acute accent. -/
def accented (count : ℕ) : List Char := List.replicate count 'é'

theorem plain_accented (count : ℕ) : Plain (accented count) := by
  intro char membership
  rw [List.eq_of_mem_replicate membership]
  decide

theorem escapedLength_accented (count : ℕ) :
    escapedLength (ofChars (accented count)) = 6 * count := by
  unfold escapedLength ofChars accented
  rw [List.map_replicate]
  induction count with
  | zero => rfl
  | succ count inductionHypothesis =>
      rw [List.replicate_succ, List.flatMap_cons, List.length_append, inductionHypothesis]
      change 6 + 6 * count = _
      omega

/-- The text with such an id is within the limits of the gateway. -/
theorem withinLimits_accented :
    WithinLimits (ofChars (longStopText (accented 11000))) := by
  have split : ∃ before after : List Char, longStopText (accented 11000) =
      before ++ (accented 11000 ++ after) ∧ before.length + after.length ≤ 200 ∧
      ((ofChars before).map CodePoint.utf8Length).sum +
        ((ofChars after).map CodePoint.utf8Length).sum ≤ 200 := by
    refine ⟨"\x7b\"schema_version\":\"0.1\",\"command\":\"session.stop\",\"session_id\":\"".toList,
      "\",\"sequence\":1,\"timestamp_ms\":0,\"payload\":\x7b\x7d\x7d".toList,
        ?_, by decide, by decide⟩
    simp [longStopText, objectText, Json.memberText, List.intercalate]
  obtain ⟨before, after, isText, short, narrow⟩ := split
  have bytes : ((ofChars (accented 11000)).map CodePoint.utf8Length).sum = 22000 := by
    unfold ofChars accented
    rw [List.map_replicate, List.map_replicate, List.sum_replicate]
    rfl
  rw [isText]
  constructor
  · simp only [List.length_append, ofChars, List.length_map]
    have count : (accented 11000).length = 11000 := List.length_replicate
    omega
  · simp only [ofChars_append, List.map_append, List.sum_append]
    omega

theorem decodeCommand_longStopText {sessionId : List Char} (isPlain : Plain sessionId)
    (nonempty : sessionId ≠ []) (visible : isspace (ofChars sessionId) = false)
    (within : WithinLimits (ofChars (longStopText sessionId))) :
    ∃ command : CommandEnvelope FloatMath.axis,
      decodeCommand FloatMath.axis (ofChars (longStopText sessionId)) = .ok command ∧
      command.command = .sessionStop ∧ command.sessionId = ofChars sessionId := by
  have acceptable : (stopCommand sessionId).Acceptable FloatMath.axis
      (Reading.python FloatMath.axis) :=
    ⟨nonempty, visible, @python_integer (.ofInt 1) 1 rfl ⟨by decide, by decide⟩,
      @python_integer (.ofInt 0) 0 rfl ⟨by decide, by decide⟩, trivial⟩
  have isCommand := isCommand_stopCommand sessionId
  have readable := readable_of_acceptable Reading.denoting_python FloatMath.overflows_axis
    isCommand (WireCommand.distinctKeys_tree _) acceptable
  have same := @decodeCommand_eq _ FloatMath.axis _ _ _ _ within (derives_longStopText isPlain)
    readable
  obtain ⟨command, decoded⟩ := exists_decodeDocument_iff.mpr ⟨_, isCommand, acceptable⟩
  obtain ⟨_, isCommand', _, holds⟩ := decodeDocument_iff.mp decoded
  cases isCommand.unique isCommand'
  exact ⟨command, same.trans decoded, holds.isCommand, holds.isSessionId⟩

/-- Without a session a `session.stop` is rejected. -/
theorem handle_stop {controller : NeckController M} {config : GatewayConfig}
    {command : CommandEnvelope M} (named : command.command = .sessionStop) (nowNs : ℤ) :
    ((VrGateway.new controller config).handle command.toObject nowNs).2 =
      .ok [VrGateway.reject command .noActiveSession nowNs] := by
  have idle : (VrGateway.new controller config).evaluateDeadline nowNs =
      (VrGateway.new controller config, []) := rfl
  unfold VrGateway.handle
  rw [validateCommandEnvelope_toObject]
  dsimp only
  rw [VrGateway.isEmergencyStop_eq_false (by rw [named]; decide), idle]
  simp [named, VrGateway.route, VrGateway.new]

/-- What a new adapter makes of a text that is decoded to a `session.stop`. -/
theorem handleCommand_stop {controller : NeckController M} {config : GatewayConfig} {raw : PyStr}
    {command : CommandEnvelope M} (decoded : decodeCommand M raw = .ok command)
    (named : command.command = .sessionStop) {nowNs : ℤ} (clock : InRange 0 nowNs) :
    ((VrGatewayAdapter.mk (VrGateway.new controller config)).handleCommand raw nowNs).2 =
      .ok [eventText M (VrGateway.reject command .noActiveSession nowNs)] := by
  have received : receive M raw = .ok command.toObject := by
    unfold receive
    rw [decoded]
  have isReceived : Received M VrGateway.Anything command.toObject :=
    receive_received (fun _ _ => trivial) received
  have encodable := (handle_fit (fit_new controller config) isReceived nowNs).2 _
    (handle_stop named nowNs)
  unfold handleCommand handleCommandVia
  rw [received]
  change publish M ((VrGateway.new controller config).handle command.toObject nowNs).2 = _
  rw [handle_stop named]
  exact encodeEvents_ok clock encodable

/-- The event that names a long id does not fit. -/
theorem not_fitsClient_of_long (short : M.ShortRepr) {command : CommandEnvelope M}
    (long : 65536 < escapedLength command.sessionId) (nowNs : ℤ) :
    ¬FitsClient (eventText M (VrGateway.reject command .noActiveSession nowNs)) := by
  rw [fitsClient_iff (ascii_eventText short _), not_le]
  calc 65536 < escapedLength command.sessionId := long
    _ ≤ 102 + (5 + (18 + (valueLength M (.int nowNs) + (19 + (33 +
          (escapedLength command.sessionId + 2 +
          (valueLength M (.int command.sequence) + 0))))))) := by omega
    _ = _ := by
        rw [← valueLength_str (M := M)]
        exact (length_eventText (VrGateway.reject command .noActiveSession nowNs)).symm

theorem not_allFit_of_long (short : M.ShortRepr) {controller : NeckController M}
    {config : GatewayConfig} {raw : PyStr} {command : CommandEnvelope M}
    (decoded : decodeCommand M raw = .ok command) (named : command.command = .sessionStop)
    (long : 65536 < escapedLength command.sessionId) :
    ∃ transcript adapter, IsRun controller config transcript adapter ∧ Clocked transcript ∧
      ¬AllFit transcript := by
  have clock : InRange 0 0 := ⟨le_rfl, by decide⟩
  refine ⟨_, _, Machine.Run.single _ ⟨.command raw, 0⟩, ?_, fun fits => ?_⟩
  · intro entry membership
    rw [List.mem_singleton.mp membership]
    exact clock
  · exact not_fitsClient_of_long short long 0 (fits _ (List.mem_singleton_self _) _
      (handleCommand_stop decoded named clock) _ (List.mem_singleton_self _))

theorem FloatMath.shortRepr_axis : FloatMath.axis.ShortRepr where
  ascii _ := ascii_numeral _
  length_le value := by
    have digits : (if |value| < 10 ^ 16 then Digit.decimal value.floor.natAbs else
        [0]).length ≤ 17 := by
      split
      · next small =>
          apply Digit.length_decimal_le (by decide)
          obtain ⟨above, below⟩ := abs_lt.mp small
          have lower : (-10 ^ 16 : ℤ) ≤ value.floor :=
            Rat.le_floor_iff.mpr (by exact_mod_cast above.le)
          have upper : value.floor < 10 ^ 16 := Rat.floor_lt_iff.mpr (by exact_mod_cast below)
          omega
      · decide
    change (Numeral.text _).length ≤ 24
    simp only [Numeral.text, Numeral.integerText, Numeral.fractionText, Numeral.exponentText,
      List.length_append, List.length_map, List.length_cons, List.length_nil]
    have sign : (if decide (value < 0) = true then ['-'] else []).length ≤ 1 := by
      split <;> decide
    omega

set_option maxRecDepth 4000 in
/-- The call of a new adapter with a `session.stop` under a short id. -/
theorem allFit_of_shortIds_stop :
    AllFit [⟨⟨.command (ofChars (longStopText ['s'])), 0⟩,
      (step (VrGatewayAdapter.mk (VrGateway.new Session.controller {}))
        ⟨.command (ofChars (longStopText ['s'])), 0⟩).2⟩] := by
  obtain ⟨command, decoded, _, isSession⟩ := decodeCommand_longStopText (by decide)
    (List.cons_ne_nil 's' []) rfl ⟨by decide, by decide⟩
  refine allFit_of_shortIds FloatMath.shortRepr_axis Session.controller {} _ _
    (Machine.Run.single _ _) ?_ ?_
  · intro entry membership
    rw [List.mem_singleton.mp membership]
    exact ⟨le_rfl, by decide⟩
  · intro entry membership
    rw [List.mem_singleton.mp membership]
    intro other decodes
    cases decoded.symm.trans decodes
    rw [isSession]
    exact show escapedLength (ofChars ['s']) ≤ 65292 by decide

theorem not_always_allFit :
    ¬∀ (controller : NeckController FloatMath.axis) (config : GatewayConfig)
      (transcript : Transcript) (adapter : VrGatewayAdapter FloatMath.axis),
      IsRun controller config transcript adapter → Clocked transcript → AllFit transcript := by
  intro always
  have letters : accented 11000 = 'é' :: accented 10999 := List.replicate_succ
  have visible : isspace (ofChars (accented 11000)) = false := by
    rw [letters]
    rfl
  obtain ⟨command, decoded, named, isSession⟩ := decodeCommand_longStopText (plain_accented 11000)
    (letters ▸ List.cons_ne_nil _ _) visible withinLimits_accented
  have long : 65536 < escapedLength command.sessionId := by
    rw [isSession, escapedLength_accented]
    decide
  obtain ⟨transcript, adapter, run, clocked, exceeds⟩ :=
    @not_allFit_of_long _ _ _ _ FloatMath.shortRepr_axis Session.controller
      {} _ _ decoded named long
  exact exceeds (always _ _ _ _ run clocked)

end ValeraControlTower

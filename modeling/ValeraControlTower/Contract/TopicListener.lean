import ValeraControlTower.Contract.EventSize
import ValeraControlTower.Contract.GatewayToClient
import ValeraControlTower.VrGateway.Bridge
import ValeraControlTower.VrGateway.Listener

/-!
# A client at the event topic

The client decodes whatever the bridge publishes, and a listener that sees nothing but the
decoded objects can follow the gateway: what it is told is what the session protocol
allows, and it knows the state that the gateway is in, and the session that is active.
-/

namespace ValeraControlTower

open Unicode Json Unity Unity.WireCodec Wire VrGatewayAdapter VrGatewayBridge

/-! ## What the client is told -/

/-- The member whose text an object of the client holds. -/
def namedBy {Member : Type} (value : Member → PyStr) (members : List Member)
    (text : Option CsString) : Option Member :=
  members.find? fun member => text = some (units (value member))

/-- What a decoded event tells a listener. -/
def Unity.EventDto.notice? {K : Type} {M : FloatMath K} : EventDto M → Option (Notice CsString)
  | .gatewayState dto =>
      (namedBy GatewayState.value
        [.idle, .awaitingRecenter, .headActive, .safeStopped, .estopLatched] dto.state).map
        fun state => .state state dto.correlation.sessionId (dto.correlation.sequence.map (·.1))
  | .neckTarget dto =>
      match dto.correlation with
      | .available sessionId sequence _ _ => some (.target sessionId sequence.1)
      | .unavailable => none
  | .safetyStop dto =>
      (namedBy StopReason.value [.watchdog, .sessionStopped, .emergencyStop] dto.reason).map
        fun reason => .stop reason dto.correlation.sessionId (dto.correlation.sequence.map (·.1))
  | .commandRejected _ => some .rejected

variable {K : Type} {M : FloatMath K}

theorem namedBy_state (state : GatewayState) :
    namedBy GatewayState.value [.idle, .awaitingRecenter, .headActive, .safeStopped, .estopLatched]
      (some (units state.value)) = some state := by
  cases state <;> decide

theorem namedBy_reason (reason : StopReason) :
    namedBy StopReason.value [.watchdog, .sessionStopped, .emergencyStop]
      (some (units reason.value)) = some reason := by
  cases reason <;> decide

/-- An id without a lone surrogate, as `decode_command` returns it. -/
def IsText (sessionId : PyStr) : Prop := ∃ text, sessionId = ofChars text

theorem IsText.codePoints_units {sessionId : PyStr} (isText : IsText sessionId) :
    codePoints (units sessionId) = sessionId := by
  obtain ⟨text, rfl⟩ := isText
  exact codePoints_utf16 text

/-- The ids a correlation of the client holds, in code points. -/
theorem SameCorrelation.ids {sessionId : Option PyStr} {sequence : Option ℤ}
    {correlation : Correlation} (isText : ∀ text, sessionId = some text → IsText text)
    (same : SameCorrelation (optionalObject .str sessionId : PyObject K)
      (optionalObject .int sequence) correlation) :
    correlation.sessionId.map codePoints = sessionId ∧
      correlation.sequence.map (·.1) = sequence := by
  cases sessionId with
  | none =>
      cases sequence with
      | none =>
          cases same
          exact ⟨rfl, rfl⟩
      | some sequence => cases same
  | some sessionId =>
      cases sequence with
      | none => cases same
      | some sequence =>
          cases same
          exact ⟨congrArg some (isText sessionId rfl).codePoints_units, rfl⟩

/-- The id of an event that can be encoded. -/
theorem isText_of_correlated {admits : PyStr → Prop} (texts : ∀ id, admits id → IsText id)
    {sessionId : Option PyStr} {sequence : Option ℤ}
    (correlated : Correlated admits sessionId sequence) :
    ∀ text, sessionId = some text → IsText text := by
  intro text isSome
  cases correlated with
  | absent => cases isSome
  | present admitted _ _ _ =>
      cases isSome
      exact texts text admitted

/-- The client is told what the gateway says. -/
theorem exists_notice {admits : PyStr → Prop} (texts : ∀ id, admits id → IsText id) {nowNs : ℤ}
    {event : OutputEvent K} (encodable : Encodable admits nowNs event)
    {angle : PyObject K → CsDouble M → Prop} {dto : EventDto M}
    (same : SameEvent angle event.toObject dto) :
    ∃ heard, dto.notice? = some heard ∧ heard.map codePoints = event.notice := by
  cases encodable with
  | gatewayState correlated =>
      cases same with
      | gatewayState attributes isState =>
          obtain ⟨_, sessionId, sequence, isSession, isSequence, sameIds⟩ := attributes
          cases isState
          cases isSession
          cases isSequence
          obtain ⟨sameSession, sameSequence⟩ :=
            sameIds.ids (isText_of_correlated texts correlated)
          refine ⟨_, congrArg (Option.map _) (namedBy_state _), ?_⟩
          exact congrArg₂ (Notice.state _) sameSession sameSequence
  | neckTarget panDegrees tiltDegrees correlated =>
      cases same with
      | neckTarget attributes isPan samePan isTilt sameTilt isHold =>
          obtain ⟨_, sessionId, sequence, isSession, isSequence, sameIds⟩ := attributes
          cases isSession
          cases isSequence
          have isText := isText_of_correlated texts correlated _ rfl
          cases sameIds
          exact ⟨_, rfl, congrArg (Notice.target · _) isText.codePoints_units⟩
  | safetyStop correlated =>
      cases same with
      | safetyStop attributes isReason isNeck isBase isArm =>
          obtain ⟨_, sessionId, sequence, isSession, isSequence, sameIds⟩ := attributes
          cases isReason
          cases isSession
          cases isSequence
          obtain ⟨sameSession, sameSequence⟩ :=
            sameIds.ids (isText_of_correlated texts correlated)
          refine ⟨_, congrArg (Option.map _) (namedBy_reason _), ?_⟩
          exact congrArg₂ (Notice.stop _) sameSession sameSequence
  | commandRejected correlated =>
      cases same with
      | commandRejected => exact ⟨_, rfl, rfl⟩

/-! ## Texts without lone surrogates -/

theorem IsText.properValue {text : PyStr} (isText : IsText text) :
    ProperValue (.str text : PyObject K) := by
  intro same isSame
  cases isSame
  obtain ⟨chars, rfl⟩ := isText
  exact wellFormed_utf16 chars

theorem properValue_id {sessionId : Option PyStr}
    (isText : ∀ text, sessionId = some text → IsText text) :
    ProperValue (optionalObject .str sessionId : PyObject K) := by
  cases sessionId with
  | none => simp [ProperValue, optionalObject]
  | some text => exact (isText text rfl).properValue

theorem properTexts_of_forall {cls : PyClass} {dict : PyDict K}
    (proper : ∀ entry ∈ dict, ProperValue entry.2) : ProperTexts (.instanceOf cls dict) := by
  intro cls' dict' name text isObject found
  cases isObject
  rw [PyDict.getattr_eq_ok] at found
  obtain ⟨before, after, rfl, _⟩ := List.lookup_eq_some_iff.mp found
  exact proper (name, .str text) (by simp) text rfl

/-- No text of an event that can be encoded has a lone surrogate. -/
theorem properTexts_of_encodable {admits : PyStr → Prop} (texts : ∀ id, admits id → IsText id)
    {nowNs : ℤ} {event : OutputEvent K} (encodable : Encodable admits nowNs event) :
    ProperTexts event.toObject := by
  have version : ProperValue (.str schemaVersion : PyObject K) := IsText.properValue ⟨_, rfl⟩
  have other {value : PyObject K} (notStr : ∀ text, value ≠ .str text) : ProperValue value :=
    fun text isStr => absurd isStr (notStr text)
  have number (sequence : Option ℤ) :
      ProperValue (optionalObject .int sequence : PyObject K) := by
    cases sequence <;> exact other (by simp [optionalObject])
  cases encodable with
  | gatewayState correlated =>
      have id := properValue_id (K := K) (isText_of_correlated texts correlated)
      exact properTexts_of_forall (by simp [id, version, other, number])
  | neckTarget panDegrees tiltDegrees correlated =>
      have id := (isText_of_correlated texts correlated _ rfl).properValue (K := K)
      exact properTexts_of_forall (by simp [id, version, other])
  | @safetyStop reason sessionId sequence correlated =>
      have id := properValue_id (K := K) (isText_of_correlated texts correlated)
      have action (text : String) : ProperValue (.str (py text) : PyObject K) :=
        IsText.properValue ⟨_, rfl⟩
      exact properTexts_of_forall (by simp [id, version, other, number, action])
  | @commandRejected code sessionId sequence correlated =>
      have id := properValue_id (K := K) (isText_of_correlated texts correlated)
      have message : ProperValue (.str (rejectionMessage code) : PyObject K) := by
        cases code <;> exact IsText.properValue ⟨_, rfl⟩
      exact properTexts_of_forall (by simp [id, version, other, number, message])

/-! ## Decoded ids -/

theorem Correlated.imp {admits other : PyStr → Prop} (weaker : ∀ id, admits id → other id)
    {sessionId : Option PyStr} {sequence : Option ℤ}
    (correlated : Correlated admits sessionId sequence) : Correlated other sessionId sequence := by
  cases correlated with
  | absent => exact .absent
  | present admitted nonempty visible inRange =>
      exact .present (weaker _ admitted) nonempty visible inRange

theorem Encodable.imp {admits other : PyStr → Prop} (weaker : ∀ id, admits id → other id)
    {nowNs : ℤ} {event : OutputEvent K} (encodable : Encodable admits nowNs event) :
    Encodable other nowNs event := by
  cases encodable with
  | gatewayState correlated => exact .gatewayState (correlated.imp weaker)
  | neckTarget _ _ correlated => exact .neckTarget _ _ (correlated.imp weaker)
  | safetyStop correlated => exact .safetyStop (correlated.imp weaker)
  | commandRejected correlated => exact .commandRejected (correlated.imp weaker)

section Decoded

variable [Field K] [LinearOrder K]

/-- What a client may send for the events to fit: its ids are short.  That they are texts is
up to the decoder. -/
def ClientId (sessionId : PyStr) : Prop := ShortId sessionId ∧ IsText sessionId

theorem isText_of_decoded {raw : PyStr} {command : CommandEnvelope M}
    (decoded : Wire.decodeCommand M raw = .ok command) : IsText command.sessionId := by
  obtain ⟨_, within, decoded⟩ := bind_eq_ok decoded
  obtain ⟨document, parsed, decoded⟩ := bind_eq_ok decoded
  obtain ⟨source, rfl⟩ := ofChars_of_checkSize within
  obtain ⟨tree, denotes, readable, rfl⟩ := parseJson_sound parsed
  obtain ⟨_, _, _, _, _, derived, _⟩ := denotes
  obtain ⟨wire, rfl⟩ := exists_wireTree derived readable.proper
  rw [pyDocument_document] at decoded
  obtain ⟨_, _, _, holds⟩ := decodeDocument_iff.mp decoded
  exact ⟨_, holds.isSessionId⟩

/-- An id the transport hands over is admitted if the text it came in is. -/
theorem received_of_stimulus {admits : PyStr → Prop} {arrival : Arrival} {stimulus : Stimulus K}
    (admitted : arrival.Admitted M admits) (called : stimulus? M arrival = some stimulus)
    {object : PyObject K} (handed : stimulus.call = .handle object) :
    Received M admits object := by
  obtain ⟨delivery, nowNs⟩ := arrival
  cases delivery with
  | poll =>
      cases called
      cases handed
  | command raw =>
      unfold stimulus? at called
      dsimp only at called
      split at called
      · next received handedOver =>
          cases called
          cases handed
          exact receive_received admitted handedOver
      · cases called

theorem admitted_clientId {arrival : Arrival} (admitted : arrival.Admitted M ShortId) :
    arrival.Admitted M ClientId := by
  obtain ⟨delivery, nowNs⟩ := arrival
  cases delivery with
  | poll => trivial
  | command raw =>
      exact fun command decoded => ⟨admitted command decoded, isText_of_decoded decoded⟩

/-- What a call returns can be encoded if the id it is handed is admitted. -/
theorem step_received {admits : PyStr → Prop} {gateway : VrGateway M} (fit : Fit admits gateway)
    {stimulus : Stimulus K}
    (received : ∀ object, stimulus.call = .handle object → Received M admits object) :
    Fit admits (gateway.step stimulus).1 ∧
      ∀ event ∈ returned ⟨stimulus, (gateway.step stimulus).2⟩,
        Encodable admits stimulus.nowNs event := by
  obtain ⟨call, nowNs⟩ := stimulus
  cases call with
  | poll => exact evaluateDeadline_fit fit nowNs
  | handle object =>
      obtain ⟨next, encodable⟩ := handle_fit fit (received object rfl) nowNs
      refine ⟨next, fun event membership => ?_⟩
      obtain ⟨events, output, inside⟩ := mem_returned membership
      exact encodable events output event inside

/-- Everything a run returns can be encoded. -/
theorem encodable_of_run {admits : PyStr → Prop} {controller : NeckController M}
    {config : GatewayConfig} {history : History K} {gateway : VrGateway M}
    (run : Machine.Run VrGateway.step (.new controller config) history gateway)
    (received : ∀ entry ∈ history, ∀ object, entry.input.call = .handle object →
      Received M admits object) :
    Fit admits gateway ∧ ∀ entry ∈ history, ∀ event ∈ returned entry,
      Encodable admits entry.input.nowNs event := by
  induction run with
  | nil => exact ⟨fit_new controller config, by simp⟩
  | snoc stimulus _ inductionHypothesis =>
      obtain ⟨fit, earlier⟩ := inductionHypothesis fun entry membership =>
        received entry (List.mem_append_left _ membership)
      obtain ⟨next, latest⟩ := step_received fit
        (received _ (List.mem_append_right _ (List.mem_singleton_self _)))
      refine ⟨next, fun entry membership => ?_⟩
      rcases List.mem_append.mp membership with before | last
      · exact earlier entry before
      · obtain rfl := List.mem_singleton.mp last
        exact latest

end Decoded

/-! ## Runs -/

section Run

variable [Field K] [LinearOrder K]

/-- The calls of the gateway behind a record of the bridge. -/
def behind (gateway : VrGateway M) (record : Record) : History K :=
  (Machine.execute VrGateway.step gateway (record.filterMap (stimulus? M ·.input))).1

/-- What a client has at the topic: every text is decoded, to the event that the gateway
returned with every angle as the `double` nearest it, and tells a listener something. -/
structure Understands (M : FloatMath K) (events : List (OutputEvent K)) (topic : List (List Char))
    (dtos : List (EventDto M)) (heard : List (Notice CsString)) : Prop where
  decoded : List.Forall₂ (fun text dto => decodeEvent M (utf16 text) = .ok dto) topic dtos
  same : List.Forall₂ (fun (event : OutputEvent K) dto =>
    SameEvent (NearestAngle M) event.toObject dto) events dtos
  told : List.Forall₂ (fun dto notice => dto.notice? = some notice) dtos heard
  notices : heard.map (Notice.map codePoints) = events.map OutputEvent.notice

omit [Field K] [LinearOrder K] in
/-- An event that the client understands. -/
theorem exists_dto (short : M.ShortRepr) {nowNs : ℤ} (clock : InRange 0 nowNs)
    {event : OutputEvent K} (encodable : Encodable ClientId nowNs event)
    (roundTrips : FloatsRoundTrip M event.toObject) {text : List Char}
    (encoded : encodeEvent M event.toObject = .ok text) :
    ∃ (dto : EventDto M) (notice : Notice CsString), decodeEvent M (utf16 text) = .ok dto ∧
      SameEvent (NearestAngle M) event.toObject dto ∧ dto.notice? = some notice ∧
      notice.map codePoints = event.notice := by
  have texts : ∀ id, ClientId id → IsText id := fun _ => And.right
  have short := length_eventText_le short clock (encodable.imp fun _ => And.left)
  obtain rfl := Except.ok.inj (encoded.symm.trans (encodeEvent_ok clock encodable))
  obtain ⟨document, validated, dumped⟩ := dumped_of_encodeEvent encoded
  obtain ⟨_, dto, carries⟩ :=
    exists_carries (properTexts_of_encodable texts encodable) roundTrips validated
  obtain ⟨notice, told, same⟩ := exists_notice texts encodable carries.same
  exact ⟨dto, notice, decodeEvent_of_carries carries dumped short, carries.same, told, same⟩

omit [Field K] [LinearOrder K] in
/-- One event behind another. -/
theorem exists_understands (short : M.ShortRepr) {events : List (OutputEvent K)}
    {topic : List (List Char)}
    (clocked : ∀ event ∈ events, ∃ nowNs, InRange 0 nowNs ∧ Encodable ClientId nowNs event)
    (roundTrips : ∀ event ∈ events, FloatsRoundTrip M event.toObject)
    (texts : List.Forall₂ (fun (event : OutputEvent K) text =>
      Wire.encodeEvent M event.toObject = .ok text) events topic) :
    ∃ dtos heard, Understands M events topic dtos heard := by
  induction texts with
  | nil => exact ⟨[], [], .nil, .nil, .nil, rfl⟩
  | cons encoded _ inductionHypothesis =>
      obtain ⟨⟨nowNs, clock, encodable⟩, clocked⟩ := List.forall_mem_cons.mp clocked
      obtain ⟨first, roundTrips⟩ := List.forall_mem_cons.mp roundTrips
      obtain ⟨dto, notice, decoded, same, told, named⟩ :=
        exists_dto short clock encodable first encoded
      obtain ⟨dtos, heard, later⟩ := inductionHypothesis clocked roundTrips
      exact ⟨dto :: dtos, notice :: heard, {
        decoded := .cons decoded later.decoded
        same := .cons same later.same
        told := .cons told later.told
        notices := congrArg₂ List.cons named later.notices }⟩

/-- A listener at the client is where one at the gateway is. -/
theorem exists_listener {heard : List (Notice CsString)} {listener : Listener PyStr}
    (followed : Listener.protocol.hear .initial (heard.map (Notice.map codePoints)) =
      some listener) :
    ∃ client, Listener.protocol.hear .initial heard = some client ∧
      client.map codePoints = listener := by
  have renamed := Machine.Monitor.hear_map (Listener.protocol_map codePoints_injective)
    Listener.initial heard
  exact Option.map_eq_some_iff.mp (renamed.symm.trans followed)

/-- Whatever arrives at the bridge, in whatever order: if the ids that are decoded are short,
the client decodes the whole topic, and what it is told is what the session protocol allows
and leads a listener to the state of the gateway and the session that is active. -/
theorem client_of_run (short : M.ShortRepr) (controller : NeckController M)
    (config : GatewayConfig) (record : Record) (bridge : VrGatewayBridge M (List (List Char)))
    (run : Machine.Run (VrGatewayBridge.step publishEvent) ⟨⟨.new controller config⟩, []⟩ record
      bridge)
    (clocked : ∀ entry ∈ record, InRange 0 entry.input.nowNs)
    (ids : ∀ entry ∈ record, entry.input.Admitted M ShortId)
    (roundTrips : ∀ event ∈ (behind (.new controller config) record).flatMap returned,
      FloatsRoundTrip M event.toObject) :
    ∃ dtos heard listener,
      Understands M ((behind (.new controller config) record).flatMap returned) bridge.topic dtos
        heard ∧
      Listener.protocol.hear .initial heard = some listener ∧
      VrGateway.Tracks (listener.map codePoints) bridge.adapter.gateway := by
  obtain ⟨_, history, shown, explains⟩ := explains_of_run appends_publishEvent run clocked
  have isBehind : behind (.new controller config) record = history := by
    have executed := explains.run.eq_execute
    rw [explains.inputs] at executed
    exact congrArg Prod.fst executed
  rw [isBehind] at roundTrips ⊢
  have texts := explains.texts
  rw [explains.complete fun _ _ => rfl, ← List.flatMap_def] at texts
  have arrived : ∀ entry ∈ history, InRange 0 entry.input.nowNs ∧
      ∀ object, entry.input.call = .handle object → Received M ClientId object := by
    intro entry membership
    obtain ⟨arrival, inRecord, called⟩ := explains.arrival membership
    obtain ⟨_, sameTime⟩ := fed_of_stimulus called
    refine ⟨sameTime ▸ clocked arrival inRecord, fun object handed => ?_⟩
    exact received_of_stimulus (admitted_clientId (ids arrival inRecord)) called handed
  obtain ⟨_, encodable⟩ := encodable_of_run explains.run fun entry membership =>
    (arrived entry membership).2
  obtain ⟨dtos, heard, understands⟩ := exists_understands short (fun event membership => by
    obtain ⟨entry, inHistory, inside⟩ := List.mem_flatMap.mp membership
    exact ⟨_, (arrived entry inHistory).1, encodable entry inHistory event inside⟩)
    roundTrips texts
  obtain ⟨listener, followed, tracks⟩ :=
    VrGateway.listener_follows.run explains.run (.initially controller config)
  have notices : history.flatMap notices = heard.map (Notice.map codePoints) := by
    rw [understands.notices, List.map_flatMap]
    rfl
  rw [notices] at followed
  obtain ⟨client, heardIt, rfl⟩ := exists_listener followed
  exact ⟨dtos, heard, client, understands, heardIt, tracks⟩

theorem stimulus?_of_decoded {raw : PyStr} {command : CommandEnvelope M}
    (decoded : Wire.decodeCommand M raw = .ok command) {nowNs : ℤ} :
    stimulus? M ⟨.command raw, nowNs⟩ = some ⟨.handle command.toObject, nowNs⟩ := by
  unfold stimulus? receive
  dsimp only
  rw [decoded]

/-- A rejection has no angles. -/
theorem floatsRoundTrip_reject (command : CommandEnvelope M) (code : RejectionCode) (nowNs : ℤ) :
    FloatsRoundTrip M (VrGateway.reject command code nowNs).toObject := by
  intro cls dict name value isObject found
  cases isObject
  cases name <;> cases found

end Run

set_option maxRecDepth 4000 in
theorem decodeCommand_short : ∃ command : CommandEnvelope FloatMath.axis,
    Wire.decodeCommand FloatMath.axis (ofChars (longStopText ['s'])) = .ok command ∧
      command.command = .sessionStop ∧ command.sessionId = ofChars ['s'] :=
  decodeCommand_longStopText (by decide) (List.cons_ne_nil 's' []) rfl ⟨by decide, by decide⟩

/-- The client of a new bridge that gets a `session.stop` under a short id. -/
theorem client_of_run_stop :
    let start : VrGatewayBridge FloatMath.axis (List (List Char)) :=
      ⟨⟨VrGateway.new Session.controller {}⟩, []⟩
    let ran := Machine.execute (VrGatewayBridge.step publishEvent) start
      [⟨.command (ofChars (longStopText ['s'])), 0⟩]
    ∃ dtos heard listener,
      Understands FloatMath.axis ((behind start.adapter.gateway ran.1).flatMap returned)
        ran.2.topic dtos heard ∧
      Listener.protocol.hear .initial heard = some listener ∧
      VrGateway.Tracks (listener.map codePoints) ran.2.adapter.gateway := by
  obtain ⟨command, decoded, named, isSession⟩ := decodeCommand_short
  -- What the text is does not matter any more.
  generalize ofChars (longStopText ['s']) = raw at decoded ⊢
  intro start ran
  have inputs : ran.1.map (·.input) = [⟨.command raw, 0⟩] := Machine.execute_inputs _ _ _
  have only {entry : Machine.Entry Arrival (Except PyException Unit)} (membership : entry ∈ ran.1) :
      entry.input = ⟨.command raw, 0⟩ := by
    have inside := List.mem_map_of_mem (f := (·.input)) membership
    rw [inputs] at inside
    exact List.mem_singleton.mp inside
  have history : behind start.adapter.gateway ran.1 = [⟨⟨.handle command.toObject, 0⟩,
      .ok [VrGateway.reject command .noActiveSession 0]⟩] := by
    have called := congrArg (List.filterMap (stimulus? FloatMath.axis)) inputs
    rw [List.filterMap_map, List.filterMap_cons, stimulus?_of_decoded decoded] at called
    unfold behind
    rw [← handle_stop named]
    exact congrArg (fun stimuli => (Machine.execute VrGateway.step start.adapter.gateway stimuli).1)
      called
  apply client_of_run FloatMath.shortRepr_axis Session.controller {} ran.1 ran.2
    (Machine.execute_run _ _ _)
  · intro entry membership
    rw [only membership]
    exact ⟨le_rfl, show (0 : ℤ) ≤ maxInt64 by decide⟩
  · intro entry membership
    rw [only membership]
    intro other decodes
    cases decoded.symm.trans decodes
    rw [isSession]
    exact show escapedLength (ofChars ['s']) ≤ 65292 by decide
  · intro event membership
    obtain ⟨entry, inHistory, inside⟩ := List.mem_flatMap.mp membership
    rw [show behind (VrGateway.new Session.controller {}) ran.1 = _ from history] at inHistory
    obtain rfl := List.mem_singleton.mp inHistory
    obtain rfl := List.mem_singleton.mp inside
    exact floatsRoundTrip_reject command _ 0

end ValeraControlTower

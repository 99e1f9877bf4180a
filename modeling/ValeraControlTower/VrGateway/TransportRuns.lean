import ValeraControlTower.VrGateway.Adapter
import ValeraControlTower.VrGateway.Rejections

/-!
# Runs behind the transport

The gateway is handed decoded commands and the sentinel only.  Then its three layers of
validation agree: a decoded command passes the trust boundary with the payload class its
name asks for, and whatever the gateway answers can be encoded.
-/

namespace ValeraControlTower

open Wire VrGatewayAdapter

variable {K : Type} [Field K] [LinearOrder K] {M : FloatMath K}

/-- What the transport makes the gateway do. -/
inductive Fed (M : FloatMath K) : Call K → Prop where
  | command {raw : PyStr} {command : CommandEnvelope M}
      (decoded : decodeCommand M raw = .ok command) : Fed M (.handle command.toObject)
  | sentinel : Fed M (.handle .other)
  | poll : Fed M .poll

/-- The payload classes the gateway expects for its commands. -/
inductive Expected {M : FloatMath K} : CommandName → Payload M → Prop where
  | sessionStart (payload : SessionStartPayload) : Expected .sessionStart (.sessionStart payload)
  | sessionStop : Expected .sessionStop .empty
  | modeSet (payload : ModeSetPayload) : Expected .modeSet (.modeSet payload)
  | headPose (payload : PosePayload M) : Expected .headPose (.pose payload)
  | headRecenter (payload : PosePayload M) : Expected .headRecenter (.pose payload)
  | emergencyStop : Expected .emergencyStop .empty

namespace Expected

variable {command : CommandName} {payload : Payload M}

theorem ofSessionStart (matching : Expected command payload) (named : command = .sessionStart) :
    ∃ start, payload = .sessionStart start := by
  subst named
  cases matching with
  | sessionStart start => exact ⟨start, rfl⟩

theorem ofEmergencyStop (matching : Expected command payload) (named : command = .emergencyStop) :
    payload = .empty := by
  subst named
  cases matching
  rfl

end Expected

/-! ## Decoded commands -/

theorem expected_of_decoded {command : CommandName} {value : PyJson K} {payload : Payload M}
    (decoded : decodePayload M command value = .ok payload) : Expected command payload := by
  unfold decodePayload at decoded
  split at decoded
  · cases command with
    | sessionStart =>
        obtain ⟨_, _, rfl⟩ := map_eq_ok_iff.mp decoded
        exact .sessionStart _
    | sessionStop =>
        obtain ⟨_, _, rfl⟩ := map_eq_ok_iff.mp decoded
        exact .sessionStop
    | modeSet =>
        obtain ⟨_, _, rfl⟩ := map_eq_ok_iff.mp decoded
        exact .modeSet _
    | headPose =>
        obtain ⟨_, _, rfl⟩ := map_eq_ok_iff.mp decoded
        exact .headPose _
    | headRecenter =>
        obtain ⟨_, _, rfl⟩ := map_eq_ok_iff.mp decoded
        exact .headRecenter _
    | emergencyStop =>
        obtain ⟨_, _, rfl⟩ := map_eq_ok_iff.mp decoded
        exact .emergencyStop
  · cases decoded

/-- What `decode_command` returns is fit for the trust boundary. -/
theorem decoded_fit {raw : PyStr} {command : CommandEnvelope M}
    (decoded : decodeCommand M raw = .ok command) :
    Expected command.command command.payload ∧ isspace command.sessionId = false ∧
      command.sequence ≤ maxInt64 := by
  obtain ⟨_, _, decoded⟩ := bind_eq_ok decoded
  obtain ⟨document, _, decoded⟩ := bind_eq_ok decoded
  refine ⟨?_, decodeDocument_visible decoded⟩
  cases document with
  | null | bool _ | num _ | str _ | arr _ => cases decoded
  | obj members =>
      obtain ⟨header, _, decoded⟩ := bind_eq_ok decoded
      obtain ⟨payload, payloadDecoded, decoded⟩ := bind_eq_ok decoded
      cases decoded
      exact expected_of_decoded payloadDecoded

/-! ## `INVALID_PAYLOAD` -/

/-- No event of the outcome is a rejection with `INVALID_PAYLOAD`. -/
def NotInvalid (outcome : Outcome K) : Prop :=
  ∀ events, outcome = .ok events → ∀ rejection, .commandRejected rejection ∈ events →
    rejection.code ≠ .invalidPayload

/-- A `session.start` with a wrong number or a used id. -/
def BadStart (gateway : VrGateway M) (command : CommandEnvelope M) : Prop :=
  command.command = .sessionStart ∧
    (command.sequence ≠ 1 ∨ command.sessionId ∈ gateway.usedSessionIds)

namespace VrGateway

variable {gateway : VrGateway M} {command : CommandEnvelope M} {nowNs : ℤ}

omit [Field K] [LinearOrder K] in
theorem notInvalid_of_isRejection {events : List (OutputEvent K)}
    (clean : ∀ event ∈ events, event.isRejection = false) : NotInvalid (.ok events) := by
  rintro _ ⟨⟩ rejection membership
  cases clean _ membership

theorem notInvalid_reject {code : RejectionCode} (other : code ≠ .invalidPayload) :
    NotInvalid (.ok [reject command code nowNs]) := by
  rintro _ ⟨⟩ rejection membership
  obtain rfl := OutputEvent.commandRejected.inj (List.mem_singleton.mp membership)
  exact other

omit [Field K] [LinearOrder K] in
theorem notInvalid_append {first second : List (OutputEvent K)}
    (clean : ∀ event ∈ first, event.isRejection = false) (last : NotInvalid (.ok second)) :
    NotInvalid (.ok (first ++ second)) := by
  rintro _ ⟨⟩ rejection membership
  rcases List.mem_append.mp membership with early | late
  · cases clean _ early
  · exact last _ rfl rejection late

theorem handleModeSet_notInvalid (payload : ModeSetPayload) :
    NotInvalid (gateway.handleModeSet command payload nowNs).2 := by
  unfold handleModeSet
  split
  · exact notInvalid_reject (by decide)
  · split
    · exact notInvalid_reject (by decide)
    · exact notInvalid_of_isRejection (by simp)

theorem handleRecenter_notInvalid (payload : PosePayload M) :
    NotInvalid (gateway.handleRecenter command payload nowNs).2 := by
  unfold handleRecenter
  split
  · exact notInvalid_reject (by decide)
  · dsimp only
    split
    · rintro _ ⟨⟩
    · simp only [transition_eq]
      exact notInvalid_of_isRejection (commandTransition_isRejection gateway command _ nowNs)

theorem handlePose_notInvalid (payload : PosePayload M) :
    NotInvalid (gateway.handlePose command payload nowNs).2 := by
  unfold handlePose
  split
  · exact notInvalid_reject (by decide)
  · split
    · rintro _ ⟨⟩
    · dsimp only
      split
      · rintro _ ⟨⟩
      · exact notInvalid_of_isRejection (by simp [OutputEvent.isRejection])

theorem handleSessionStop_notInvalid :
    NotInvalid (gateway.handleSessionStop command nowNs).2 := by
  unfold handleSessionStop
  simp only [transition_eq]
  apply notInvalid_append (commandTransition_isRejection gateway command _ nowNs)
  exact notInvalid_of_isRejection (by simp [OutputEvent.isRejection])

theorem handleEmergencyStop_notInvalid :
    NotInvalid (gateway.handleEmergencyStop command nowNs).2 := by
  unfold handleEmergencyStop
  simp only [transition_eq]
  apply notInvalid_append (commandTransition_isRejection gateway command _ nowNs)
  exact notInvalid_of_isRejection (by simp [OutputEvent.isRejection])

theorem handleSessionStart_notInvalid (named : command.command = .sessionStart)
    (matching : Expected command.command command.payload) (good : ¬BadStart gateway command) :
    NotInvalid (gateway.handleSessionStart command nowNs).2 := by
  unfold handleSessionStart
  simp only [transition_eq]
  split
  · exact notInvalid_reject (by decide)
  · split
    · split
      · next numbered => exact absurd ⟨named, .inl numbered⟩ good
      · split
        · next used => exact absurd ⟨named, .inr used⟩ good
        · split
          · exact notInvalid_reject (by decide)
          · split
            · exact notInvalid_reject (by decide)
            · exact notInvalid_of_isRejection
                (commandTransition_isRejection gateway command _ nowNs)
    · next other =>
        obtain ⟨payload, sent⟩ := matching.ofSessionStart named
        exact absurd sent (other payload)

theorem route_notInvalid (matching : Expected command.command command.payload)
    (ordinary : command.command ≠ .emergencyStop) (good : ¬BadStart gateway command) :
    NotInvalid (gateway.route command nowNs).2 := by
  unfold route
  split
  · next named => exact handleSessionStart_notInvalid named matching good
  · next notStart =>
      split
      · exact notInvalid_reject (by decide)
      · split
        · exact notInvalid_reject (by decide)
        · split
          · exact notInvalid_reject (by decide)
          · split
            · exact notInvalid_reject (by decide)
            · split
              · exact notInvalid_reject (by decide)
              · split
                · exact handleModeSet_notInvalid _
                · exact handleRecenter_notInvalid _
                · exact handlePose_notInvalid _
                · exact handleSessionStop_notInvalid
                · next noModeSet noRecenter noPose noStop =>
                    -- No other class matches.
                    generalize named : command.command = name at matching
                    generalize sent : command.payload = payload at matching
                    cases matching with
                    | sessionStart => exact absurd named notStart
                    | sessionStop => exact absurd sent (noStop named)
                    | modeSet payload => exact absurd sent (noModeSet payload named)
                    | headPose payload => exact absurd sent (noPose payload named)
                    | headRecenter payload => exact absurd sent (noRecenter payload named)
                    | emergencyStop => exact absurd named ordinary

/-- A command of the right class is told `INVALID_PAYLOAD` only for a bad start. -/
theorem handle_notInvalid (matching : Expected command.command command.payload)
    (good : ¬BadStart gateway command) :
    NotInvalid (gateway.handle command.toObject nowNs).2 := by
  unfold handle
  rw [validateCommandEnvelope_toObject]
  dsimp only
  split
  · exact handleEmergencyStop_notInvalid
  · next notEmergency =>
      have ordinary : command.command ≠ .emergencyStop := by
        intro named
        apply notEmergency
        unfold isEmergencyStop
        rw [named, matching.ofEmergencyStop named]
      rw [if_neg ordinary]
      split
      · apply notInvalid_append (evaluateDeadline_isRejection gateway nowNs)
        split
        · exact notInvalid_reject (by decide)
        · exact notInvalid_reject (by decide)
      · next noEvents =>
          rw [evaluateDeadline_of_notDue (notDue_of_no_events (not_not.mp noEvents))]
          exact route_notInvalid matching ordinary good

/-! ## Runs -/

/-- The session id of a decoded command is not restricted further here. -/
abbrev Anything : PyStr → Prop := fun _ => True

theorem received_of_fed {object : PyObject K} (fed : Fed M (.handle object)) :
    Received M Anything object := by
  cases fed with
  | command decoded =>
      obtain ⟨_, visible, bounded⟩ := decoded_fit decoded
      exact .command trivial visible bounded
  | sentinel => exact .sentinel

/-- Fed calls keep the session fields fit and return events that can be encoded. -/
theorem step_fed {gateway : VrGateway M} (fit : Fit Anything gateway) {stimulus : Stimulus K}
    (fed : Fed M stimulus.call) :
    Fit Anything (gateway.step stimulus).1 ∧
      ∀ events, (gateway.step stimulus).2 = .ok events →
        ∀ event ∈ events, Encodable Anything stimulus.nowNs event := by
  obtain ⟨call, nowNs⟩ := stimulus
  cases call with
  | poll =>
      obtain ⟨deadlineFit, encodable⟩ := evaluateDeadline_fit fit nowNs
      refine ⟨deadlineFit, ?_⟩
      rintro _ ⟨⟩
      exact encodable
  | handle object => exact handle_fit fit (received_of_fed fed) nowNs

/-- The calls of the history are fed by the transport, at readings that fit the wire. -/
def FedHistory (M : FloatMath K) (history : History K) : Prop :=
  ∀ entry ∈ history, Fed M entry.input.call ∧ InRange 0 entry.input.nowNs

theorem fit_of_fed {neckController : NeckController M} {config : GatewayConfig}
    {history : History K} {gateway : VrGateway M}
    (run : Machine.Run step (new neckController config) history gateway)
    (fed : FedHistory M history) : Fit Anything gateway := by
  induction run with
  | nil => exact fit_new neckController config
  | snoc input _ inductionHypothesis =>
      refine (step_fed (inductionHypothesis fun entry membership => ?_) ?_).1
      · exact fed entry (List.mem_append_left _ membership)
      · exact (fed _ (List.mem_append_right _ (List.mem_singleton_self _))).1

omit [Field K] [LinearOrder K] in
/-- The texts of encoded events, one for each and in their order. -/
theorem encodeEvents_forall₂ {events : List (OutputEvent K)} {nowNs : ℤ} (clock : InRange 0 nowNs)
    (encodable : ∀ event ∈ events, Encodable Anything nowNs event) :
    List.Forall₂ (fun event text => encodeEvent M event.toObject = .ok text) events
      (events.map (eventText M)) := by
  rw [List.forall₂_map_right_iff, List.forall₂_same]
  exact fun event membership => encodeEvent_ok clock (encodable event membership)

/-- In every run behind the transport, `encode_events` turns the events of each call into
as many texts in the same order; and in the state it ends in, a decoded command passes the
trust boundary unchanged, has the payload class of its name, and is told `INVALID_PAYLOAD`
only for a start with a wrong number or a used id. -/
theorem transportRun_encodable (neckController : NeckController M) (config : GatewayConfig)
    (history : History K) (gateway : VrGateway M)
    (run : Machine.Run step (new neckController config) history gateway)
    (fed : FedHistory M history) :
    (∀ raw command, decodeCommand M raw = .ok command →
      validateCommandEnvelope M command.toObject = .ok command ∧
      Expected command.command command.payload ∧
      ∀ nowNs, ¬BadStart gateway command →
        NotInvalid (gateway.handle command.toObject nowNs).2) ∧
    ∀ entry ∈ history, ∀ events, entry.output = .ok events →
      ∃ texts, encodeEvents M (events.map OutputEvent.toObject) = .ok texts ∧
        List.Forall₂ (fun event text => encodeEvent M event.toObject = .ok text) events texts := by
  constructor
  · intro raw command decoded
    obtain ⟨matching, _⟩ := decoded_fit decoded
    exact ⟨validateCommandEnvelope_toObject command, matching,
      fun nowNs good => handle_notInvalid matching good⟩
  · intro entry membership events output
    obtain ⟨before, after, rfl⟩ := List.append_of_mem membership
    obtain ⟨state, past, returned, _⟩ := run.entry
    obtain ⟨fedCall, clock⟩ := fed entry membership
    have fit := fit_of_fed past fun other inside => fed other (List.mem_append_left _ inside)
    rw [returned] at output
    have encodable := (step_fed fit fedCall).2 events output
    exact ⟨_, encodeEvents_ok clock encodable, encodeEvents_forall₂ clock encodable⟩

end VrGateway

namespace Session

/-- The text of a command of the example session. -/
def commandText (name sequence payload : String) : PyStr :=
  py "\x7b\"schema_version\":\"0.1\",\"command\":\"" ++ py name ++
    py "\",\"session_id\":\"s\",\"sequence\":" ++ py sequence ++ py ",\"timestamp_ms\":" ++
    py sequence ++ py ",\"payload\":" ++ py payload ++ py "\x7d"

def startText : PyStr :=
  commandText "session.start" "1" "\x7b\"requested_mode\":\"head\"\x7d"

def recenterText : PyStr :=
  commandText "head.recenter" "2"
    "\x7b\"frame\":\"quest_local\",\"orientation\":\x7b\"x\":0,\"y\":0,\"z\":0,\"w\":1\x7d\x7d"

def poseText : PyStr :=
  commandText "head.pose" "3"
    "\x7b\"frame\":\"quest_local\",\"orientation\":\x7b\"x\":0,\"y\":1,\"z\":0,\"w\":0\x7d\x7d"

def emergencyText : PyStr := commandText "emergency_stop" "4" "\x7b\x7d"

theorem decoded_start : Wire.decodeCommand FloatMath.axis startText = .ok start := by
  decide +kernel

theorem decoded_recenter : Wire.decodeCommand FloatMath.axis recenterText = .ok recenter := by
  decide +kernel

theorem decoded_pose : Wire.decodeCommand FloatMath.axis poseText = .ok pose := by
  decide +kernel

theorem decoded_stop : Wire.decodeCommand FloatMath.axis emergencyText = .ok stop := by
  decide +kernel

end Session

namespace VrGateway

/-- The example session, its pose and an emergency stop, all of them decoded. -/
theorem transportRun_encodable_session :
    let run := Machine.execute step Session.gateway [⟨.handle Session.start.toObject, 0⟩,
      ⟨.handle Session.recenter.toObject, 100000000⟩, ⟨.handle Session.pose.toObject, 200000000⟩,
      ⟨.poll, 250000000⟩, ⟨.handle Session.stop.toObject, 300000000⟩]
    ∀ entry ∈ run.1, ∀ events, entry.output = .ok events →
      ∃ texts, encodeEvents FloatMath.axis (events.map OutputEvent.toObject) = .ok texts ∧
        List.Forall₂ (fun event text => encodeEvent FloatMath.axis event.toObject = .ok text)
          events texts :=
  (transportRun_encodable Session.controller {} _ _ (Machine.execute_run _ _ _) (by
    intro entry membership
    rcases List.mem_cons.mp membership with rfl | membership
    · exact ⟨.command Session.decoded_start, le_rfl, by decide⟩
    rcases List.mem_cons.mp membership with rfl | membership
    · exact ⟨.command Session.decoded_recenter, by decide, by decide⟩
    rcases List.mem_cons.mp membership with rfl | membership
    · exact ⟨.command Session.decoded_pose, by decide, by decide⟩
    rcases List.mem_cons.mp membership with rfl | membership
    · exact ⟨.poll, by decide, by decide⟩
    · obtain rfl := List.mem_singleton.mp membership
      exact ⟨.command Session.decoded_stop, by decide, by decide⟩)).2

end VrGateway

end ValeraControlTower

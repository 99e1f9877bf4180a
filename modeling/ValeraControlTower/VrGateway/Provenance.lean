import ValeraControlTower.VrGateway.Bridge
import ValeraControlTower.VrGateway.Sessions

/-!
# Every event answers a command that was sent

The ids of an event are those of one valid command the gateway was handed, at the call that
returned the event or before it; a target answers the pose of its own call, in the session
that was active when the pose came.  Only the rejection of what is no command has ids of
another source, and on the topic it has none.
-/

namespace ValeraControlTower

variable {K : Type} [Field K] [LinearOrder K] {M : FloatMath K}

/-- The event has the ids of the command, and is no target. -/
def OutputEvent.Answers (command : CommandEnvelope M) : OutputEvent K → Prop
  | .gatewayState event =>
      event.sessionId = some command.sessionId ∧ event.sequence = some command.sequence
  | .neckTarget _ => False
  | .safetyStop event =>
      event.sessionId = some command.sessionId ∧ event.sequence = some command.sequence
  | .commandRejected event =>
      event.sessionId = some command.sessionId ∧ event.sequence = some command.sequence

namespace VrGateway

/-- The command was handed to the gateway. -/
def Handed (history : History K) (command : CommandEnvelope M) : Prop :=
  ∃ entry ∈ history, validCommand M entry.input = some command

/-- The command is a pose of the session that is active. -/
structure Poses (gateway : VrGateway M) (command : CommandEnvelope M) : Prop where
  named : command.command = .headPose
  active : gateway.state = .headActive
  inSession : gateway.activeSessionId = some command.sessionId

/-- Where the event of a call that the gateway gets comes from. -/
inductive Sourced (gateway : VrGateway M) (history : History K) (entry : CallEntry K) :
    OutputEvent K → Prop where
  | command {event : OutputEvent K} (command : CommandEnvelope M)
      (handed : Handed (history ++ [entry]) command) (answers : event.Answers command) :
      Sourced gateway history entry event
  | pose {event : NeckTargetEvent K} (command : CommandEnvelope M)
      (valid : validCommand M entry.input = some command) (poses : gateway.Poses command)
      (sessionId : event.sessionId = command.sessionId)
      (sequence : event.sequence = command.sequence) :
      Sourced gateway history entry (.neckTarget event)
  | salvaged (object : PyObject K) (code : RejectionCode)
      (call : entry.input.call = .handle object) (unread : validCommand M entry.input = none) :
      Sourced gateway history entry (rejectUntrusted object code entry.input.nowNs)

/-- The ids of the session are those of a command. -/
def LastHanded (history : History K) (gateway : VrGateway M) : Prop :=
  ∀ sessionId, gateway.activeSessionId = some sessionId →
    ∃ command : CommandEnvelope M, Handed history command ∧ sessionId = command.sessionId ∧
      gateway.lastSequence = some command.sequence

section OneCall

variable {history : History K} {gateway : VrGateway M} {entry : CallEntry K}
  {command : CommandEnvelope M}

theorem Handed.later (handed : Handed history command) (entry : CallEntry K) :
    Handed (history ++ [entry]) command := by
  obtain ⟨earlier, membership, valid⟩ := handed
  exact ⟨earlier, List.mem_append_left _ membership, valid⟩

theorem Handed.last (valid : validCommand M entry.input = some command) :
    Handed (history ++ [entry]) command :=
  ⟨entry, List.mem_append_right _ (List.mem_singleton_self _), valid⟩

theorem LastHanded.later (last : LastHanded history gateway) (entry : CallEntry K) :
    LastHanded (history ++ [entry]) gateway := by
  intro sessionId active
  obtain ⟨command, handed, same, numbered⟩ := last sessionId active
  exact ⟨command, handed.later entry, same, numbered⟩

/-- The events of an elapsed deadline have the ids of the session. -/
theorem deadline_sourced (last : LastHanded history gateway) (shape : SessionShape gateway)
    (entry : CallEntry K) :
    ∀ event ∈ (gateway.evaluateDeadline entry.input.nowNs).2,
      Sourced gateway history entry event := by
  generalize result : gateway.evaluateDeadline entry.input.nowNs = outcome
  have cases := gateway.evaluateDeadline_cases entry.input.nowNs
  rw [result] at cases
  have opened : gateway.Live → ∃ command : CommandEnvelope M, Handed history command ∧
      gateway.activeSessionId = some command.sessionId ∧
      gateway.lastSequence = some command.sequence := by
    intro live
    obtain ⟨sessionId, active⟩ := Option.ne_none_iff_exists'.mp (shape.fields.live.mp live)
    obtain ⟨command, handed, rfl, numbered⟩ := last sessionId active
    exact ⟨command, handed, active, numbered⟩
  cases cases with
  | quiet => simp
  | handshake awaiting =>
      obtain ⟨command, handed, active, numbered⟩ := opened (.inl awaiting)
      intro event membership
      obtain rfl := List.mem_singleton.mp membership
      exact .command command (handed.later entry) ⟨active, numbered⟩
  | watchdog isActive =>
      obtain ⟨command, handed, active, numbered⟩ := opened (.inr isActive)
      intro event membership
      rcases List.mem_cons.mp membership with rfl | membership
      · exact .command command (handed.later entry) ⟨active, numbered⟩
      · obtain rfl := List.mem_singleton.mp membership
        exact .command command (handed.later entry) ⟨active, numbered⟩

theorem transition_sourced (entry : CallEntry K) (valid : validCommand M entry.input = some command)
    (target : GatewayState) :
    ∀ event ∈ (gateway.commandTransition command target entry.input.nowNs : List (OutputEvent K)),
      Sourced gateway history entry event := by
  unfold commandTransition transitionEvents
  intro event membership
  split at membership
  · cases membership
  · obtain rfl := List.mem_singleton.mp membership
    exact .command command (.last valid) ⟨rfl, rfl⟩

/-- Events of one source, and one more of another. -/
theorem sourced_snoc {events : List (OutputEvent K)} {last : OutputEvent K}
    (early : ∀ event ∈ events, Sourced gateway history entry event)
    (isLast : Sourced gateway history entry last) :
    ∀ event ∈ events ++ [last], Sourced gateway history entry event := by
  intro event membership
  rcases List.mem_append.mp membership with inside | rest
  · exact early event inside
  · rwa [List.mem_singleton.mp rest]

/-- Whatever a call returns has a source. -/
theorem step_sourced (last : LastHanded history gateway) (shape : SessionShape gateway)
    (stimulus : Stimulus K) :
    ∀ event ∈ returned ⟨stimulus, (gateway.step stimulus).2⟩,
      Sourced gateway history ⟨stimulus, (gateway.step stimulus).2⟩ event := by
  generalize isOutput : (gateway.step stimulus).2 = output
  obtain ⟨call, nowNs⟩ := stimulus
  cases call with
  | poll =>
      cases isOutput
      exact deadline_sourced last shape ⟨⟨.poll, nowNs⟩, _⟩
  | handle object =>
      simp only [step] at isOutput
      have late : ∀ {outcome : Outcome K} {rejection : OutputEvent K},
          Sourced gateway history ⟨⟨.handle object, nowNs⟩, outcome⟩ rejection →
          ∀ event ∈ (gateway.evaluateDeadline nowNs).2 ++ [rejection],
            Sourced gateway history ⟨⟨.handle object, nowNs⟩, outcome⟩ event :=
        fun rejected => sourced_snoc
          (deadline_sourced last shape ⟨⟨.handle object, nowNs⟩, _⟩) rejected
      have isValid : ∀ {command : CommandEnvelope M},
          validateCommandEnvelope M object = .ok command →
          validCommand M ⟨.handle object, nowNs⟩ = some command := by
        intro command valid
        simp [validCommand, valid, Except.toOption]
      generalize result : gateway.handle object nowNs = outcome at isOutput
      have cases := gateway.handle_cases object nowNs
      rw [result] at cases
      cases cases with
      | raised | orientationRaised | updateRaised | modeSet =>
          cases isOutput
          simp [returned]
      | malformed exception invalid =>
          cases isOutput
          apply late
          apply Sourced.salvaged object _ rfl
          simp [validCommand, invalid, Except.toOption]
      | rejected command code valid =>
          cases isOutput
          exact late (.command command (.last (isValid valid)) ⟨rfl, rfl⟩)
      | emergencyStop command valid =>
          cases isOutput
          exact sourced_snoc (transition_sourced ⟨⟨.handle object, nowNs⟩, _⟩ (isValid valid) _)
            (.command command (.last (isValid valid)) ⟨rfl, rfl⟩)
      | sessionStart command valid =>
          cases isOutput
          exact transition_sourced ⟨⟨.handle object, nowNs⟩, _⟩ (isValid valid) _
      | headRecenter command orientation valid =>
          cases isOutput
          exact transition_sourced ⟨⟨.handle object, nowNs⟩, _⟩ (isValid valid) _
      | headPose command orientation target valid named _ inSession active =>
          cases isOutput
          intro event membership
          obtain rfl := List.mem_singleton.mp membership
          exact .pose command (isValid valid) ⟨named, active, inSession.active⟩ rfl rfl
      | sessionStop command valid =>
          cases isOutput
          exact sourced_snoc (transition_sourced ⟨⟨.handle object, nowNs⟩, _⟩ (isValid valid) _)
            (.command command (.last (isValid valid)) ⟨rfl, rfl⟩)

/-- The session goes on under the ids of a command. -/
theorem lastHanded_step {next : VrGateway M} (last : LastHanded history gateway)
    (outcome : StepCase gateway entry next) : LastHanded (history ++ [entry]) next := by
  have renewed : ∀ {command : CommandEnvelope M} {other : VrGateway M},
      accepted M entry = some command → gateway.InSession command →
      other.activeSessionId = gateway.activeSessionId →
      other.lastSequence = some command.sequence → LastHanded (history ++ [entry]) other := by
    intro command other taken inSession sameSession numbered sessionId active
    rw [sameSession, inSession.active] at active
    cases active
    exact ⟨command, .last (validCommand_of_accepted taken), rfl, numbered⟩
  cases outcome with
  | unchanged => exact last.later entry
  | updateRaised => exact last.later entry
  | expired | emergencyStop | sessionStop => rintro _ ⟨⟩
  | sessionStart taken =>
      rintro _ ⟨⟩
      exact ⟨_, .last (validCommand_of_accepted taken), rfl, rfl⟩
  | modeSet taken _ _ _ _ inSession => exact renewed taken inSession rfl rfl
  | headRecenter taken _ _ _ _ inSession => exact renewed taken inSession rfl rfl
  | headPose taken _ _ _ _ inSession => exact renewed taken inSession rfl rfl

end OneCall

/-- The session of every run goes on under the ids of a command. -/
theorem lastHanded_of_run {neckController : NeckController M} {config : GatewayConfig}
    {history : History K} {gateway : VrGateway M}
    (run : Machine.Run step (new neckController config) history gateway) :
    LastHanded history gateway := by
  induction run with
  | nil => rintro _ ⟨⟩
  | @snoc past state input _ inductionHypothesis =>
      exact lastHanded_step inductionHypothesis (step_cases state input)

end VrGateway

/-! ## On the topic -/

namespace VrGatewayBridge

open Wire VrGatewayAdapter VrGateway

/-- The text was delivered. -/
def Delivered (record : Record) (raw : PyStr) : Prop :=
  ∃ entry ∈ record, entry.input.delivery = .command raw

/-- What the event answers: a command that was delivered, with its ids; a pose that was
delivered while its session was active; or a delivered text that is no command, with a
rejection that has no ids. -/
inductive Answered (publish : Publish (List (List Char)))
    (start : VrGatewayBridge M (List (List Char))) (record : Record) : OutputEvent K → Prop where
  | command {event : OutputEvent K} (raw : PyStr) (command : CommandEnvelope M)
      (delivered : Delivered record raw) (decoded : decodeCommand M raw = .ok command)
      (answers : event.Answers command) : Answered publish start record event
  | pose {event : NeckTargetEvent K} (before after : Record)
      (entry : Machine.Entry Arrival (Except PyException Unit))
      (bridge : VrGatewayBridge M (List (List Char))) (raw : PyStr) (command : CommandEnvelope M)
      (split : record = before ++ entry :: after)
      (run : Machine.Run (step publish) start before bridge)
      (delivered : entry.input.delivery = .command raw)
      (decoded : decodeCommand M raw = .ok command) (poses : bridge.adapter.gateway.Poses command)
      (sessionId : event.sessionId = command.sessionId)
      (sequence : event.sequence = command.sequence) :
      Answered publish start record (.neckTarget event)
  | unread (raw : PyStr) (message : String) (code : RejectionCode) (nowNs : ℤ)
      (delivered : Delivered record raw)
      (undecoded : decodeCommand M raw = .error (.wireError message)) :
      Answered publish start record (rejectUntrusted .other code nowNs)

theorem Delivered.later {record : Record} {raw : PyStr} (delivered : Delivered record raw)
    (entry : Machine.Entry Arrival (Except PyException Unit)) :
    Delivered (record ++ [entry]) raw := by
  obtain ⟨earlier, membership, delivery⟩ := delivered
  exact ⟨earlier, List.mem_append_left _ membership, delivery⟩

theorem Answered.later {publish : Publish (List (List Char))}
    {start : VrGatewayBridge M (List (List Char))} {record : Record} {event : OutputEvent K}
    (answered : Answered publish start record event)
    (entry : Machine.Entry Arrival (Except PyException Unit)) :
    Answered publish start (record ++ [entry]) event := by
  cases answered with
  | command raw command delivered decoded answers =>
      exact .command raw command (delivered.later entry) decoded answers
  | pose before after last bridge raw command split run delivered decoded poses sessionId
      sequence =>
      refine .pose before (after ++ [entry]) last bridge raw command ?_ run delivered decoded poses
        sessionId sequence
      rw [split, List.append_assoc, List.cons_append]
  | unread raw message code nowNs delivered undecoded =>
      exact .unread raw message code nowNs (delivered.later entry) undecoded

/-- A call that is handed an object comes from a text. -/
theorem receive_of_stimulus {arrival : Arrival} {stimulus : Stimulus K}
    (called : stimulus? M arrival = some stimulus) {object : PyObject K}
    (call : stimulus.call = .handle object) :
    ∃ raw, arrival.delivery = .command raw ∧ receive M raw = .ok object := by
  obtain ⟨delivery, nowNs⟩ := arrival
  unfold stimulus? at called
  cases delivery with
  | poll =>
      cases called
      cases call
  | command raw =>
      refine ⟨raw, rfl, ?_⟩
      dsimp only at called
      cases received : receive M raw with
      | error exception =>
          rw [received] at called
          cases called
      | ok command =>
          rw [received] at called
          cases called
          cases call
          rfl

theorem receive_cases {raw : PyStr} {object : PyObject K} (received : receive M raw = .ok object) :
    (∃ command, decodeCommand M raw = .ok command ∧ object = command.toObject) ∨
      ∃ message, decodeCommand M raw = .error (.wireError message) ∧ object = .other := by
  unfold receive at received
  split at received
  · next command decoded =>
      cases received
      exact .inl ⟨command, decoded, rfl⟩
  · next message undecoded =>
      cases received
      exact .inr ⟨message, undecoded, rfl⟩
  · cases received

/-- A valid command of a call was decoded from the text that came in. -/
theorem decoded_of_valid {arrival : Arrival} {stimulus : Stimulus K}
    (called : stimulus? M arrival = some stimulus) {command : CommandEnvelope M}
    (valid : validCommand M stimulus = some command) :
    ∃ raw, arrival.delivery = .command raw ∧ decodeCommand M raw = .ok command := by
  unfold validCommand at valid
  cases call : stimulus.call with
  | poll =>
      rw [call] at valid
      cases valid
  | handle object =>
      rw [call] at valid
      obtain ⟨raw, delivered, received⟩ := receive_of_stimulus called call
      refine ⟨raw, delivered, ?_⟩
      dsimp only at valid
      rcases receive_cases received with ⟨sent, decoded, rfl⟩ | ⟨message, _, rfl⟩
      · rw [validateCommandEnvelope_toObject sent] at valid
        cases valid
        exact decoded
      · cases valid

section Run

variable {publish : Publish (List (List Char))} {start : VrGatewayBridge M (List (List Char))}
  {record : Record} {bridge : VrGatewayBridge M (List (List Char))} {arrival : Arrival}
  {stimulus : Stimulus K} {history : History K} {shown : List (List (OutputEvent K))}

/-- What the gateway takes for a command was decoded from a text. -/
theorem decoded_of_handed
    (explains : Explains publish start.adapter.gateway record bridge history shown)
    {command : CommandEnvelope M} (handed : Handed history command) :
    ∃ raw, Delivered record raw ∧ decodeCommand M raw = .ok command := by
  obtain ⟨entry, membership, valid⟩ := handed
  obtain ⟨arrived, inRecord, called⟩ := explains.arrival membership
  obtain ⟨raw, delivered, decoded⟩ := decoded_of_valid called valid
  exact ⟨raw, ⟨arrived, inRecord, delivered⟩, decoded⟩

/-- An event of the call behind an arrival. -/
theorem answered_of_sourced
    (run : Machine.Run (step publish) start record bridge)
    (explains : Explains publish start.adapter.gateway record bridge history shown)
    (called : stimulus? M arrival = some stimulus) {output : Outcome K}
    (outcome : Except PyException Unit) {event : OutputEvent K}
    (sourced : Sourced bridge.adapter.gateway history ⟨stimulus, output⟩ event) :
    Answered publish start (record ++ [⟨arrival, outcome⟩]) event := by
  have now {raw : PyStr} (delivery : arrival.delivery = .command raw) :
      Delivered (record ++ [⟨arrival, outcome⟩]) raw :=
    ⟨_, List.mem_append_right _ (List.mem_singleton_self _), delivery⟩
  cases sourced with
  | command command handed answers =>
      obtain ⟨entry, membership, valid⟩ := handed
      rcases List.mem_append.mp membership with earlier | last
      · obtain ⟨raw, delivered, decoded⟩ := decoded_of_handed explains ⟨entry, earlier, valid⟩
        exact .command raw command (delivered.later _) decoded answers
      · obtain rfl := List.mem_singleton.mp last
        obtain ⟨raw, delivery, decoded⟩ := decoded_of_valid called valid
        exact .command raw command (now delivery) decoded answers
  | pose command valid poses sessionId sequence =>
      obtain ⟨raw, delivery, decoded⟩ := decoded_of_valid called valid
      exact .pose record [] _ bridge raw command rfl run delivery decoded poses sessionId sequence
  | salvaged object code call unread =>
      obtain ⟨raw, delivery, received⟩ := receive_of_stimulus called call
      rcases receive_cases received with ⟨command, _, rfl⟩ | ⟨message, undecoded, rfl⟩
      · unfold validCommand at unread
        rw [call] at unread
        simp only [validateCommandEnvelope_toObject command] at unread
        cases unread
      · exact .unread raw message code _ (now delivery) undecoded

end Run

/-- Every text of the topic of every run answers a text that was delivered by then. -/
theorem answered_of_run (publish : Publish (List (List Char))) (appends : Appends publish)
    (controller : NeckController M) (config : GatewayConfig) (record : Record)
    (bridge : VrGatewayBridge M (List (List Char)))
    (run : Machine.Run (step publish) ⟨⟨VrGateway.new controller config⟩, []⟩ record bridge)
    (clocked : ∀ entry ∈ record, InRange 0 entry.input.nowNs) :
    ∀ text ∈ bridge.topic, ∃ event : OutputEvent K, encodeEvent M event.toObject = .ok text ∧
      Answered publish ⟨⟨VrGateway.new controller config⟩, []⟩ record event := by
  induction run with
  | nil => rintro _ ⟨⟩
  | @snoc past bridge arrival pastRun inductionHypothesis =>
      have clockedPast := fun entry membership => clocked entry (List.mem_append_left _ membership)
      have clock := clocked _ (List.mem_append_right _ (List.mem_singleton_self _))
      intro text membership
      have earlier (inside : text ∈ bridge.topic) : ∃ event : OutputEvent K,
          encodeEvent M event.toObject = .ok text ∧
            Answered publish ⟨⟨VrGateway.new controller config⟩, []⟩
              (past ++ [⟨arrival, (bridge.step publish arrival).2⟩]) event := by
        obtain ⟨event, encoded, answered⟩ := inductionHypothesis clockedPast text inside
        exact ⟨event, encoded, answered.later _⟩
      obtain ⟨fit, history, shown, explains⟩ := explains_of_run appends pastRun clockedPast
      cases called : stimulus? M arrival with
      | none =>
          obtain ⟨raw, exception, delivered, leaked⟩ := stimulus?_eq_none_iff.mp called
          rw [step_eq, adapter_step_of_leaked bridge.adapter delivered leaked] at membership
          exact earlier membership
      | some stimulus =>
          obtain ⟨events, initial, stepped, _⟩ := step_shows appends fit clock called
          rw [stepped, List.mem_append] at membership
          rcases membership with inside | latest
          · exact earlier inside
          · obtain ⟨event, inShown, rfl⟩ := List.mem_map.mp latest
            obtain ⟨fed, sameTime⟩ := fed_of_stimulus called
            have inReturned := initial.subset inShown
            obtain ⟨all, output, inside⟩ := mem_returned inReturned
            have encodable := (VrGateway.step_fed fit fed).2 all output event inside
            have sourced := step_sourced (lastHanded_of_run explains.run)
              (sessionShape_of_run explains.run) stimulus event inReturned
            exact ⟨event, encodeEvent_ok clock (sameTime ▸ encodable),
              answered_of_sourced pastRun explains called _ sourced⟩

/-- The topic of a bridge that gets the texts of the example session, its pose included, and one
that is no command. -/
theorem answered_of_run_session :
    let start : VrGatewayBridge FloatMath.axis (List (List Char)) := ⟨⟨Session.gateway⟩, []⟩
    let ran := Machine.execute (step publishEvent) start
      [⟨.command Session.startText, 0⟩, ⟨.command Session.recenterText, 100000000⟩,
        ⟨.command Session.poseText, 200000000⟩, ⟨.command (py "no command"), 200000001⟩]
    ∀ text ∈ ran.2.topic, ∃ event : OutputEvent ℚ,
      encodeEvent FloatMath.axis event.toObject = .ok text ∧
        Answered publishEvent start ran.1 event :=
  answered_of_run publishEvent appends_publishEvent Session.controller {} _ _
    (Machine.execute_run _ _ _) (clocked_of_arrivals (by simp [InRange, maxInt64]))

end VrGatewayBridge

end ValeraControlTower

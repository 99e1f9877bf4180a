import ValeraControlTower.VrGateway.Motion

/-!
# The session fields are set and cleared together

`SessionShape` says what the fields of a reachable gateway look like: all set in a live
state, all cleared otherwise.  `Stamped` places their clock readings in the history.
-/

namespace ValeraControlTower

variable {K : Type} [Field K] [LinearOrder K] {M : FloatMath K}

namespace VrGateway

/-- The states of a session. -/
def Live (gateway : VrGateway M) : Prop :=
  gateway.state = .awaitingRecenter ∨ gateway.state = .headActive

/-- A session with all its fields, or none of them. -/
inductive SessionShape (gateway : VrGateway M) : Prop where
  | closed (resting : ¬gateway.Live)
      (noSession : gateway.activeSessionId = none)
      (noSequence : gateway.lastSequence = none)
      (noTimestamp : gateway.lastTimestampMs = none)
      (notStarted : gateway.sessionStartedMonotonicNs = none)
      (notReceived : gateway.lastValidPacketReceivedMonotonicNs = none)
  | opened (live : gateway.Live) (sessionId : PyStr) (sequence timestampMs startedNs receivedNs : ℤ)
      (active : gateway.activeSessionId = some sessionId)
      (last : gateway.lastSequence = some sequence)
      (sampled : gateway.lastTimestampMs = some timestampMs)
      (started : gateway.sessionStartedMonotonicNs = some startedNs)
      (received : gateway.lastValidPacketReceivedMonotonicNs = some receivedNs)
      (used : sessionId ∈ gateway.usedSessionIds)
      (nonempty : sessionId ≠ [])
      (positive : 1 ≤ sequence)

namespace SessionShape

variable {gateway : VrGateway M} {command : CommandEnvelope M}

theorem initial (neckController : NeckController M) (config : GatewayConfig) :
    SessionShape (new neckController config) := by
  refine .closed ?_ rfl rfl rfl rfl rfl
  rintro (awaiting | active)
  · cases awaiting
  · cases active

theorem endSession (gateway : VrGateway M) {state : GatewayState}
    (notAwaiting : state ≠ .awaitingRecenter) (notActive : state ≠ .headActive) :
    SessionShape (gateway.endSession state) := by
  refine .closed ?_ rfl rfl rfl rfl rfl
  rintro (awaiting | active)
  · exact notAwaiting awaiting
  · exact notActive active

/-- The neck controller is no part of the shape. -/
theorem withController (shape : SessionShape gateway) (neckController : NeckController M) :
    SessionShape { gateway with neckController } := by
  cases shape with
  | closed resting noSession noSequence noTimestamp notStarted notReceived =>
      exact .closed resting noSession noSequence noTimestamp notStarted notReceived
  | opened live sessionId sequence timestampMs startedNs receivedNs active last sampled started
      received used nonempty positive =>
      exact .opened live sessionId sequence timestampMs startedNs receivedNs active last sampled
        started received used nonempty positive

/-- An accepted command of the session renews its fields. -/
theorem accept (shape : SessionShape gateway) (inSession : gateway.InSession command)
    (nowNs : ℤ) : SessionShape (gateway.accept command nowNs) := by
  cases shape with
  | closed _ noSession =>
      have active := inSession.active
      rw [noSession] at active
      cases active
  | opened live sessionId _ _ startedNs _ active _ _ started _ used nonempty _ =>
      exact .opened live sessionId command.sequence command.timestampMs startedNs nowNs active rfl
        rfl started rfl used nonempty command.sequencePositive

/-- What `endSession`, `accept` and the rest do to the shape, for a whole step. -/
theorem step {entry : CallEntry K} {next : VrGateway M} (shape : SessionShape gateway)
    (outcome : StepCase gateway entry next) : SessionShape next := by
  cases outcome with
  | unchanged => exact shape
  | expired stopped =>
      rcases stopped with rfl | rfl
      · exact endSession gateway (by decide) (by decide)
      · exact endSession gateway (by decide) (by decide)
  | updateRaised => exact shape.withController _
  | emergencyStop => exact endSession gateway (by decide) (by decide)
  | @sessionStart command =>
      exact .opened (.inl rfl) command.sessionId command.sequence command.timestampMs
        entry.input.nowNs entry.input.nowNs rfl rfl rfl rfl rfl (Finset.mem_insert_self _ _)
        command.sessionIdNonempty command.sequencePositive
  | modeSet _ _ _ _ _ inSession => exact shape.accept inSession _
  | @headRecenter command orientation _ _ _ _ _ inSession =>
      have accepted := (shape.accept inSession entry.input.nowNs).withController
        (gateway.neckController.recenter orientation entry.input.nowNs
          (decide (gateway.state = .headActive)))
      cases accepted with
      | closed _ noSession =>
          have active := inSession.active
          change gateway.activeSessionId = none at noSession
          rw [noSession] at active
          cases active
      | opened _ sessionId sequence timestampMs startedNs receivedNs active last sampled started
          received used nonempty positive =>
          exact .opened (.inr rfl) sessionId sequence timestampMs startedNs receivedNs active last
            sampled started received used nonempty positive
  | headPose _ _ _ _ _ inSession => exact (shape.accept inSession _).withController _
  | sessionStop => exact endSession gateway (by decide) (by decide)

end SessionShape

/-- In every state a run of a new gateway ends in. -/
theorem sessionShape_of_run {neckController : NeckController M} {config : GatewayConfig}
    {history : History K} {gateway : VrGateway M}
    (run : Machine.Run step (new neckController config) history gateway) :
    SessionShape gateway := by
  induction run with
  | nil => exact .initial neckController config
  | snoc input _ inductionHypothesis => exact inductionHypothesis.step (step_cases _ input)

/-! ## Clock readings -/

/-- The session started, and its last packet was received, at readings of the history in
this order. -/
def Stamped (history : History K) (gateway : VrGateway M) : Prop :=
  ∀ startedNs receivedNs, gateway.sessionStartedMonotonicNs = some startedNs →
    gateway.lastValidPacketReceivedMonotonicNs = some receivedNs →
    startedNs ≤ receivedNs ∧ ∃ entry ∈ history, receivedNs = entry.input.nowNs

namespace Stamped

variable {history : History K} {gateway next : VrGateway M} {entry : CallEntry K}

/-- A call that leaves both readings alone. -/
theorem keep (stamped : Stamped history gateway)
    (sameStart : next.sessionStartedMonotonicNs = gateway.sessionStartedMonotonicNs)
    (sameReceipt : next.lastValidPacketReceivedMonotonicNs =
      gateway.lastValidPacketReceivedMonotonicNs) :
    Stamped (history ++ [entry]) next := by
  intro startedNs receivedNs started received
  rw [sameStart] at started
  rw [sameReceipt] at received
  obtain ⟨ordered, earlier, membership, same⟩ := stamped startedNs receivedNs started received
  exact ⟨ordered, earlier, List.mem_append_left _ membership, same⟩

/-- A call that leaves no session. -/
theorem cleared (cleared : next.sessionStartedMonotonicNs = none) :
    Stamped (history ++ [entry]) next := by
  intro startedNs receivedNs started
  rw [cleared] at started
  cases started

/-- A packet received by a session that goes on. -/
theorem receive (stamped : Stamped history gateway) (shape : SessionShape gateway)
    (monotone : ClockMonotone (history ++ [entry]))
    (sameStart : next.sessionStartedMonotonicNs = gateway.sessionStartedMonotonicNs)
    (renewed : next.lastValidPacketReceivedMonotonicNs = some entry.input.nowNs) :
    Stamped (history ++ [entry]) next := by
  intro startedNs receivedNs started received
  rw [sameStart] at started
  rw [renewed] at received
  cases received
  refine ⟨?_, entry, by simp, rfl⟩
  cases shape with
  | closed _ _ _ _ notStarted =>
      rw [notStarted] at started
      cases started
  | opened _ _ _ _ _ previousNs _ _ _ _ previously =>
      obtain ⟨ordered, earlier, membership, same⟩ := stamped startedNs previousNs started previously
      have later := (List.pairwise_append.mp monotone).2.2 earlier membership entry (by simp)
      omega

theorem step (stamped : Stamped history gateway) (shape : SessionShape gateway)
    (monotone : ClockMonotone (history ++ [entry])) (outcome : StepCase gateway entry next) :
    Stamped (history ++ [entry]) next := by
  cases outcome with
  | unchanged => exact stamped.keep rfl rfl
  | updateRaised => exact stamped.keep rfl rfl
  | expired => exact cleared rfl
  | emergencyStop => exact cleared rfl
  | sessionStop => exact cleared rfl
  | sessionStart =>
      rintro _ _ ⟨⟩ ⟨⟩
      exact ⟨le_rfl, entry, by simp, rfl⟩
  | modeSet => exact stamped.receive shape monotone rfl rfl
  | headRecenter => exact stamped.receive shape monotone rfl rfl
  | headPose => exact stamped.receive shape monotone rfl rfl

end Stamped

omit [Field K] [LinearOrder K] in
theorem ClockMonotone.init {history : History K} {entry : CallEntry K}
    (monotone : ClockMonotone (history ++ [entry])) : ClockMonotone history :=
  (List.pairwise_append.mp monotone).1

theorem stamped_of_run {neckController : NeckController M} {config : GatewayConfig}
    {history : History K} {gateway : VrGateway M}
    (run : Machine.Run step (new neckController config) history gateway)
    (monotone : ClockMonotone history) : Stamped history gateway := by
  induction run with
  | nil => rintro _ _ ⟨⟩
  | snoc input before inductionHypothesis =>
      exact (inductionHypothesis (ClockMonotone.init monotone)).step (sessionShape_of_run before)
        monotone (step_cases _ input)

/-! ## The invariant as the fields show it -/

/-- The session fields of a gateway agree with its state. -/
structure SessionFields (gateway : VrGateway M) : Prop where
  live : gateway.Live ↔ gateway.activeSessionId ≠ none
  sequence : gateway.activeSessionId ≠ none ↔ gateway.lastSequence ≠ none
  timestamp : gateway.activeSessionId ≠ none ↔ gateway.lastTimestampMs ≠ none
  started : gateway.activeSessionId ≠ none ↔ gateway.sessionStartedMonotonicNs ≠ none
  received : gateway.activeSessionId ≠ none ↔ gateway.lastValidPacketReceivedMonotonicNs ≠ none
  used : ∀ sessionId, gateway.activeSessionId = some sessionId →
    sessionId ∈ gateway.usedSessionIds
  positive : ∀ sequence, gateway.lastSequence = some sequence → 1 ≤ sequence

/-- What the guards of the methods test for is never absent: a deadline that is due has a
transition to return, and the field a guard compares with is set where it is tested. -/
structure GuardsRedundant (gateway : VrGateway M) : Prop where
  handshakeSince : gateway.state = .awaitingRecenter → gateway.sessionStartedMonotonicNs ≠ none
  motionSince : gateway.state = .headActive → gateway.lastValidPacketReceivedMonotonicNs ≠ none
  handshakeTransition : gateway.state = .awaitingRecenter → ∀ nowNs,
    (gateway.transition .idle gateway.activeSessionId gateway.lastSequence nowNs).2 ≠ []
  motionTransition : gateway.state = .headActive → ∀ nowNs,
    (gateway.transition .safeStopped gateway.activeSessionId gateway.lastSequence nowNs).2 ≠ []
  ordering : gateway.activeSessionId ≠ none →
    gateway.lastSequence ≠ none ∧ gateway.lastTimestampMs ≠ none

theorem SessionShape.fields {gateway : VrGateway M} (shape : SessionShape gateway) :
    SessionFields gateway := by
  cases shape with
  | closed resting noSession noSequence noTimestamp notStarted notReceived =>
      constructor <;> simp [resting, noSession, noSequence, noTimestamp, notStarted, notReceived]
  | opened live sessionId sequence timestampMs startedNs receivedNs active last sampled started
      received used nonempty positive =>
      constructor <;> simp [live, active, last, sampled, started, received, used, positive]

theorem SessionShape.guards {gateway : VrGateway M} (shape : SessionShape gateway) :
    GuardsRedundant gateway where
  handshakeSince awaiting := shape.fields.started.mp (shape.fields.live.mp (.inl awaiting))
  motionSince active := shape.fields.received.mp (shape.fields.live.mp (.inr active))
  handshakeTransition awaiting nowNs := by
    rw [transition_eq, awaiting]
    simp [transitionEvents]
  motionTransition active nowNs := by
    rw [transition_eq, active]
    simp [transitionEvents]
  ordering active := ⟨shape.fields.sequence.mp active, shape.fields.timestamp.mp active⟩

/-- In every state a run reaches, the session fields agree with the state, no guard for an
absent field decides anything, and with a clock that never goes back the session's
readings are in order. -/
theorem sessionFields_of_run (neckController : NeckController M) (config : GatewayConfig)
    (history : History K) (gateway : VrGateway M)
    (run : Machine.Run step (new neckController config) history gateway) :
    SessionFields gateway ∧ GuardsRedundant gateway ∧
      (ClockMonotone history → ∀ startedNs, gateway.sessionStartedMonotonicNs = some startedNs →
        ∃ receivedNs latest, gateway.lastValidPacketReceivedMonotonicNs = some receivedNs ∧
          history.getLast? = some latest ∧
          startedNs ≤ receivedNs ∧ receivedNs ≤ latest.input.nowNs) := by
  have shape := sessionShape_of_run run
  refine ⟨shape.fields, shape.guards, ?_⟩
  intro monotone startedNs started
  cases shape with
  | closed _ _ _ _ notStarted =>
      rw [notStarted] at started
      cases started
  | opened _ _ _ _ _ receivedNs _ _ _ _ received =>
      obtain ⟨ordered, entry, membership, rfl⟩ :=
        stamped_of_run run monotone startedNs receivedNs started received
      rcases List.eq_nil_or_concat history with rfl | ⟨before, latest, rfl⟩
      · cases membership
      · rw [List.concat_eq_append] at *
        refine ⟨_, latest, received, by simp, ordered, ?_⟩
        rcases List.mem_append.mp membership with earlier | last
        · exact (List.pairwise_append.mp monotone).2.2 entry earlier latest (by simp)
        · rw [List.mem_singleton.mp last]

/-- The invariant in the example session after its recenter. -/
theorem sessionFields_of_run_opened : SessionFields Session.opened.2 ∧
    GuardsRedundant Session.opened.2 ∧
      (ClockMonotone Session.opened.1 → ∀ startedNs,
        Session.opened.2.sessionStartedMonotonicNs = some startedNs →
        ∃ receivedNs latest, Session.opened.2.lastValidPacketReceivedMonotonicNs = some receivedNs ∧
          Session.opened.1.getLast? = some latest ∧
          startedNs ≤ receivedNs ∧ receivedNs ≤ latest.input.nowNs) :=
  sessionFields_of_run Session.controller {} _ _ Session.opened_run

end VrGateway

end ValeraControlTower

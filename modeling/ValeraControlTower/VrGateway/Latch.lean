import ValeraControlTower.VrGateway.Runs

/-!
# The emergency stop latches

A valid `emergency_stop` is answered in every state and leaves the gateway latched.
`Latched` is kept by every later call, and a latched gateway has one answer to each
kind of call.
-/

namespace ValeraControlTower

variable {K : Type} [Field K] [LinearOrder K] {M : FloatMath K}

/-- Latched, with no session left to resume. -/
structure Latched (gateway : VrGateway M) : Prop where
  state : gateway.state = .estopLatched
  sessionless : gateway.activeSessionId = none

/-- How a latched gateway answers: polls are silent, a valid `emergency_stop` repeats its
stop event, everything else is rejected once.  An exception `handle` does not catch
escapes here as elsewhere. -/
def LatchedAnswer (M : FloatMath K) (entry : CallEntry K) : Prop :=
  match entry.input.call with
  | .poll => entry.output = .ok []
  | .handle object =>
      match validateCommandEnvelope M object with
      | .ok command =>
          if VrGateway.isEmergencyStop command then
            entry.output =
              .ok [.safetyStop (VrGateway.stopEvent command .emergencyStop entry.input.nowNs)]
          else ∃ rejection, entry.output = .ok [.commandRejected rejection]
      | .error exception =>
          if handleCatches exception then
            ∃ rejection, entry.output = .ok [.commandRejected rejection]
          else entry.output = .error exception

namespace LatchedAnswer

variable {entry : CallEntry K}

theorem returned_cases (answer : LatchedAnswer M entry) :
    returned entry = [] ∨ (∃ stop, returned entry = [.safetyStop stop]) ∨
      ∃ rejection, returned entry = [.commandRejected rejection] := by
  unfold LatchedAnswer at answer
  unfold returned
  split at answer
  · rw [answer]
    exact .inl rfl
  · split at answer
    · split at answer
      · rw [answer]
        exact .inr (.inl ⟨_, rfl⟩)
      · obtain ⟨rejection, output⟩ := answer
        rw [output]
        exact .inr (.inr ⟨rejection, rfl⟩)
    · split at answer
      · obtain ⟨rejection, output⟩ := answer
        rw [output]
        exact .inr (.inr ⟨rejection, rfl⟩)
      · rw [answer]
        exact .inl rfl

/-- No answer of a latched gateway moves the neck. -/
theorem no_target (answer : LatchedAnswer M entry) (target : NeckTargetEvent K) :
    .neckTarget target ∉ returned entry := by
  rcases answer.returned_cases with shown | ⟨stop, shown⟩ | ⟨rejection, shown⟩ <;>
    simp [shown]

/-- No answer of a latched gateway reports a change of state. -/
theorem no_transition (answer : LatchedAnswer M entry) (event : GatewayStateEvent) :
    .gatewayState event ∉ returned entry := by
  rcases answer.returned_cases with shown | ⟨stop, shown⟩ | ⟨rejection, shown⟩ <;>
    simp [shown]

end LatchedAnswer

namespace Latched

variable {gateway : VrGateway M}

theorem notDue (latched : Latched gateway) (nowNs : ℤ) : ¬gateway.DeadlineDue nowNs := by
  rintro (⟨awaiting, _⟩ | ⟨active, _⟩)
  · simp [latched.state] at awaiting
  · simp [latched.state] at active

theorem not_live (latched : Latched gateway) :
    ¬(gateway.state = .awaitingRecenter ∨ gateway.state = .headActive) := by
  simp [latched.state]

theorem not_inSession (latched : Latched gateway) (command : CommandEnvelope M) :
    ¬gateway.InSession command := by
  intro inSession
  have active := inSession.active
  rw [latched.sessionless] at active
  cases active

theorem of_emergencyStop (gateway : VrGateway M) :
    Latched (gateway.endSession .estopLatched) :=
  ⟨rfl, rfl⟩

/-- One call to a latched gateway. -/
theorem step (latched : Latched gateway) (stimulus : Stimulus K) :
    Latched (gateway.step stimulus).1 ∧
    (gateway.step stimulus).1.neckController = gateway.neckController ∧
    LatchedAnswer M ⟨stimulus, (gateway.step stimulus).2⟩ := by
  obtain ⟨call, nowNs⟩ := stimulus
  have quiet := VrGateway.evaluateDeadline_of_notDue (latched.notDue nowNs)
  cases call with
  | poll =>
      simp only [VrGateway.step, VrGateway.poll, quiet]
      exact ⟨latched, trivial, rfl⟩
  | handle object =>
      simp only [VrGateway.step]
      generalize result : gateway.handle object nowNs = outcome
      have cases := gateway.handle_cases object nowNs
      rw [result] at cases
      cases cases with
      | raised exception invalid uncaught =>
          refine ⟨latched, rfl, ?_⟩
          simp [LatchedAnswer, invalid, uncaught]
      | malformed exception invalid caught =>
          rw [quiet]
          refine ⟨latched, rfl, ?_⟩
          simp [LatchedAnswer, invalid, caught, VrGateway.rejectUntrusted]
      | emergencyStop command valid emergency =>
          refine ⟨of_emergencyStop gateway, rfl, ?_⟩
          simp [LatchedAnswer, valid, emergency, VrGateway.commandTransition,
            VrGateway.transitionEvents, latched.state]
      | rejected command code valid ordinary =>
          rw [quiet]
          refine ⟨latched, rfl, ?_⟩
          simp [LatchedAnswer, valid, ordinary, VrGateway.reject]
      | sessionStart command valid named notDue unlatched first fresh =>
          exact absurd latched.state unlatched
      | modeSet command valid named notDue inSession =>
          exact absurd inSession (latched.not_inSession command)
      | headRecenter command orientation valid named notDue inSession live =>
          exact absurd inSession (latched.not_inSession command)
      | headPose command orientation target valid named notDue inSession active updated =>
          exact absurd inSession (latched.not_inSession command)
      | sessionStop command valid named notDue inSession =>
          exact absurd inSession (latched.not_inSession command)
      | orientationRaised command exception valid ordinary notDue live =>
          exact absurd live latched.not_live
      | updateRaised command orientation exception valid ordinary notDue active updated =>
          exact absurd (.inr active) latched.not_live

/-- Any number of calls to a latched gateway. -/
theorem run (latched : Latched gateway) {history : History K} {final : VrGateway M}
    (calls : Machine.Run VrGateway.step gateway history final) :
    Latched final ∧ final.neckController = gateway.neckController ∧
    ∀ entry ∈ history, LatchedAnswer M entry := by
  refine calls.invariant (motive := fun history state =>
    Latched state ∧ state.neckController = gateway.neckController ∧
      ∀ entry ∈ history, LatchedAnswer M entry) ⟨latched, rfl, by simp⟩ ?_
  rintro history state stimulus ⟨stillLatched, sameNeck, answers⟩
  obtain ⟨latchedNext, sameNext, answer⟩ := stillLatched.step stimulus
  refine ⟨latchedNext, sameNext.trans sameNeck, ?_⟩
  intro entry membership
  rcases List.mem_append.mp membership with earlier | last
  · exact answers entry earlier
  · rwa [List.mem_singleton.mp last]

end Latched

/-- A valid `emergency_stop` returns its stop event, after a `gateway.state` event if the
gateway was not yet latched, and from then on the gateway stays latched and never
moves. -/
theorem emergencyStop_latches (gateway : VrGateway M) {object : PyObject K} (nowNs : ℤ)
    {command : CommandEnvelope M} (valid : validateCommandEnvelope M object = .ok command)
    (emergency : VrGateway.isEmergencyStop command = true) :
    (gateway.handle object nowNs).2 = .ok
      ((if gateway.state = .estopLatched then []
        else [.gatewayState {
          gatewayMonotonicNs := nowNs
          state := .estopLatched
          sessionId := some command.sessionId
          sequence := some command.sequence }]) ++
        [.safetyStop (VrGateway.stopEvent command .emergencyStop nowNs)]) ∧
    (gateway.handle object nowNs).1.state = .estopLatched ∧
    ∀ history final,
      Machine.Run VrGateway.step (gateway.handle object nowNs).1 history final →
      final.state = .estopLatched ∧ final.activeSessionId = none ∧
      final.neckController = gateway.neckController ∧
      ∀ entry ∈ history, LatchedAnswer M entry ∧
        (∀ target, .neckTarget target ∉ returned entry) ∧
        ∀ event, .gatewayState event ∉ returned entry := by
  have handled : gateway.handle object nowNs = (gateway.endSession .estopLatched,
      .ok (gateway.commandTransition command .estopLatched nowNs ++
        [.safetyStop (VrGateway.stopEvent command .emergencyStop nowNs)])) := by
    unfold VrGateway.handle VrGateway.handleEmergencyStop
    simp only [valid, emergency, VrGateway.transition_eq]
    rfl
  rw [handled]
  refine ⟨rfl, rfl, ?_⟩
  intro history final run
  obtain ⟨latched, sameNeck, answers⟩ := (Latched.of_emergencyStop gateway).run run
  refine ⟨latched.state, latched.sessionless, sameNeck, ?_⟩
  intro entry membership
  have answer := answers entry membership
  exact ⟨answer, answer.no_target, answer.no_transition⟩

/-- A stop long after the handshake timeout latches, and the neck never moves again. -/
theorem emergencyStop_latches_late :
    let opened := (Session.gateway.handle Session.start.toObject 0).1
    let stopped := opened.handle Session.stop.toObject 20000000000
    stopped.1.state = .estopLatched ∧
    ∀ history final, Machine.Run VrGateway.step stopped.1 history final →
      final.neckController = Session.controller :=
  have shown := emergencyStop_latches (Session.gateway.handle Session.start.toObject 0).1
    20000000000 (validateCommandEnvelope_toObject Session.stop) rfl
  ⟨shown.2.1, fun history final run => (shown.2.2 history final run).2.2.1⟩

end ValeraControlTower

import ValeraControlTower.VrGateway.Gateway

/-!
# What one call can do

`evaluateDeadline_cases` and `handle_cases` list every way a call can end, with the
guards it passed, the state it leaves and the events it returns.  Invariants are
proved by cases on them and never unfold the methods.
-/

namespace ValeraControlTower

variable {K : Type} [Field K] [LinearOrder K] {M : FloatMath K}

namespace VrGateway

/-- The event of a transition from `source` to `target`, absent when they agree. -/
def transitionEvents (source target : GatewayState) (sessionId : Option PyStr)
    (sequence : Option ℤ) (nowNs : ℤ) : List (OutputEvent K) :=
  if source = target then []
  else [.gatewayState { gatewayMonotonicNs := nowNs, state := target, sessionId, sequence }]

theorem transition_eq (gateway : VrGateway M) (state : GatewayState)
    (sessionId : Option PyStr) (sequence : Option ℤ) (nowNs : ℤ) :
    gateway.transition state sessionId sequence nowNs =
      ({ gateway with state },
        transitionEvents gateway.state state sessionId sequence nowNs) := by
  unfold transition transitionEvents
  split
  · next same => subst same; rfl
  · rfl

/-! ## Deadlines -/

/-- The handshake or motion deadline that applies in the current state has passed. -/
def DeadlineDue (gateway : VrGateway M) (nowNs : ℤ) : Prop :=
  (gateway.state = .awaitingRecenter ∧
    elapsed gateway.sessionStartedMonotonicNs gateway.config.handshakeTimeoutNs nowNs) ∨
  (gateway.state = .headActive ∧
    elapsed gateway.lastValidPacketReceivedMonotonicNs
      gateway.config.motionWatchdogTimeoutNs nowNs)

instance (gateway : VrGateway M) (nowNs : ℤ) : Decidable (gateway.DeadlineDue nowNs) :=
  inferInstanceAs (Decidable (_ ∨ _))

theorem early_of_awaiting {gateway : VrGateway M} {started nowNs : ℤ}
    (awaiting : gateway.state = .awaitingRecenter)
    (since : gateway.sessionStartedMonotonicNs = some started)
    (notDue : ¬gateway.DeadlineDue nowNs) :
    nowNs - started < gateway.config.handshakeTimeoutNs := by
  by_contra late
  exact notDue (.inl ⟨awaiting, by simpa [since, elapsed] using late⟩)

theorem early_of_active {gateway : VrGateway M} {last nowNs : ℤ}
    (active : gateway.state = .headActive)
    (received : gateway.lastValidPacketReceivedMonotonicNs = some last)
    (notDue : ¬gateway.DeadlineDue nowNs) :
    nowNs - last < gateway.config.motionWatchdogTimeoutNs := by
  by_contra late
  exact notDue (.inr ⟨active, by simpa [received, elapsed] using late⟩)

/-- No session, and the given state. -/
def endSession (gateway : VrGateway M) (state : GatewayState) : VrGateway M :=
  { gateway.invalidateActiveSession with state }

/-- The gateway state and stop events of an elapsed motion watchdog. -/
def watchdogEvents (gateway : VrGateway M) (nowNs : ℤ) : List (OutputEvent K) :=
  [.gatewayState {
      gatewayMonotonicNs := nowNs
      state := .safeStopped
      sessionId := gateway.activeSessionId
      sequence := gateway.lastSequence },
    .safetyStop {
      gatewayMonotonicNs := nowNs
      reason := .watchdog
      sessionId := gateway.activeSessionId
      sequence := gateway.lastSequence }]

/-- The gateway state event of an elapsed handshake. -/
def handshakeEvents (gateway : VrGateway M) (nowNs : ℤ) : List (OutputEvent K) :=
  [.gatewayState {
    gatewayMonotonicNs := nowNs
    state := .idle
    sessionId := gateway.activeSessionId
    sequence := gateway.lastSequence }]

inductive DeadlineCase (gateway : VrGateway M) (nowNs : ℤ) :
    VrGateway M × List (OutputEvent K) → Prop where
  | quiet (notDue : ¬gateway.DeadlineDue nowNs) : DeadlineCase gateway nowNs (gateway, [])
  | handshake (awaiting : gateway.state = .awaitingRecenter)
      (due : elapsed gateway.sessionStartedMonotonicNs
        gateway.config.handshakeTimeoutNs nowNs) :
      DeadlineCase gateway nowNs (gateway.endSession .idle, gateway.handshakeEvents nowNs)
  | watchdog (active : gateway.state = .headActive)
      (due : elapsed gateway.lastValidPacketReceivedMonotonicNs
        gateway.config.motionWatchdogTimeoutNs nowNs) :
      DeadlineCase gateway nowNs
        (gateway.endSession .safeStopped, gateway.watchdogEvents nowNs)

theorem evaluateDeadline_cases (gateway : VrGateway M) (nowNs : ℤ) :
    DeadlineCase gateway nowNs (gateway.evaluateDeadline nowNs) := by
  unfold evaluateDeadline
  simp only [transition_eq]
  split
  · next due =>
      simp only [transitionEvents, due.1, reduceCtorEq, if_false]
      exact .handshake due.1 due.2
  · next notHandshake =>
      split
      · next due =>
          simp only [transitionEvents, due.1, reduceCtorEq, if_false]
          exact .watchdog due.1 due.2
      · next notWatchdog => exact .quiet (by rintro (due | due) <;> contradiction)

theorem evaluateDeadline_of_notDue {gateway : VrGateway M} {nowNs : ℤ}
    (notDue : ¬gateway.DeadlineDue nowNs) : gateway.evaluateDeadline nowNs = (gateway, []) := by
  generalize result : gateway.evaluateDeadline nowNs = outcome
  have cases := gateway.evaluateDeadline_cases nowNs
  rw [result] at cases
  cases cases with
  | quiet _ => rfl
  | handshake awaiting due => exact absurd (.inl ⟨awaiting, due⟩) notDue
  | watchdog active due => exact absurd (.inr ⟨active, due⟩) notDue

/-- A deadline that is due returns an event. -/
theorem notDue_of_no_events {gateway : VrGateway M} {nowNs : ℤ}
    (silent : (gateway.evaluateDeadline nowNs).2 = []) : ¬gateway.DeadlineDue nowNs := by
  generalize result : gateway.evaluateDeadline nowNs = outcome at silent
  have cases := gateway.evaluateDeadline_cases nowNs
  rw [result] at cases
  cases cases with
  | quiet notDue => exact notDue
  | handshake _ _ => cases silent
  | watchdog _ _ => cases silent

@[simp]
theorem evaluateDeadline_neckController (gateway : VrGateway M) (nowNs : ℤ) :
    (gateway.evaluateDeadline nowNs).1.neckController = gateway.neckController := by
  generalize result : gateway.evaluateDeadline nowNs = outcome
  have cases := gateway.evaluateDeadline_cases nowNs
  rw [result] at cases
  cases cases <;> rfl

/-! ## Commands -/

/-- The ordinary gates of `handle`, all passed. -/
structure InSession (gateway : VrGateway M) (command : CommandEnvelope M) : Prop where
  moving : gateway.state ≠ .safeStopped
  active : gateway.activeSessionId = some command.sessionId
  newer : ∀ last, gateway.lastSequence = some last → last < command.sequence
  notEarlier : ∀ last, gateway.lastTimestampMs = some last → last ≤ command.timestampMs

/-- The state after an accepted `session.start`. -/
def startSession (gateway : VrGateway M) (command : CommandEnvelope M) (nowNs : ℤ) :
    VrGateway M :=
  { gateway with
    state := .awaitingRecenter
    usedSessionIds := insert command.sessionId gateway.usedSessionIds
    activeSessionId := some command.sessionId
    lastSequence := some command.sequence
    lastTimestampMs := some command.timestampMs
    sessionStartedMonotonicNs := some nowNs
    lastValidPacketReceivedMonotonicNs := some nowNs }

/-- The state after an accepted `head.recenter`. -/
def recenterHead (gateway : VrGateway M) (command : CommandEnvelope M)
    (orientation : Quaternion M) (nowNs : ℤ) : VrGateway M :=
  { gateway.accept command nowNs with
    state := .headActive
    neckController := gateway.neckController.recenter orientation nowNs
      (decide (gateway.state = .headActive)) }

/-- Recentering an active head keeps the state. -/
theorem recenterHead_of_active {gateway : VrGateway M} {command : CommandEnvelope M}
    {orientation : Quaternion M} {nowNs : ℤ} (active : gateway.state = .headActive) :
    gateway.recenterHead command orientation nowNs =
      { gateway.accept command nowNs with
        neckController := (gateway.recenterHead command orientation nowNs).neckController } := by
  cases gateway
  simp only at active
  subst active
  rfl

/-- The state after an accepted `head.pose`. -/
def moveHead (gateway : VrGateway M) (command : CommandEnvelope M)
    (orientation : Quaternion M) (nowNs : ℤ) : VrGateway M :=
  { gateway.accept command nowNs with
    neckController := (gateway.neckController.update orientation nowNs).1 }

/-- The one event of an accepted `head.pose`. -/
def targetEvent (command : CommandEnvelope M) (target : NeckTarget K) (nowNs : ℤ) :
    NeckTargetEvent K where
  gatewayMonotonicNs := nowNs
  sessionId := command.sessionId
  sequence := command.sequence
  panDegrees := target.panDegrees
  tiltDegrees := target.tiltDegrees

/-- The `safety.stop` that answers a command. -/
def stopEvent (command : CommandEnvelope M) (reason : StopReason) (nowNs : ℤ) :
    SafetyStopEvent where
  gatewayMonotonicNs := nowNs
  reason
  sessionId := some command.sessionId
  sequence := some command.sequence

/-- The transition events of an accepted command. -/
def commandTransition (gateway : VrGateway M) (command : CommandEnvelope M)
    (target : GatewayState) (nowNs : ℤ) : List (OutputEvent K) :=
  transitionEvents gateway.state target (some command.sessionId) (some command.sequence) nowNs

/-- The command carries a pose, and normalizing its orientation ends so. -/
def Normalizes (command : CommandEnvelope M)
    (outcome : Except PyException (Quaternion M)) : Prop :=
  ∃ payload, command.payload = .pose payload ∧ payload.orientation.normalized = outcome

/-- Every way `handle` can end. -/
inductive HandleCase (gateway : VrGateway M) (object : PyObject K) (nowNs : ℤ) :
    VrGateway M × Outcome K → Prop where
  | raised (exception : PyException)
      (invalid : validateCommandEnvelope M object = .error exception)
      (uncaught : handleCatches exception = false) :
      HandleCase gateway object nowNs (gateway, .error exception)
  | malformed (exception : PyException)
      (invalid : validateCommandEnvelope M object = .error exception)
      (caught : handleCatches exception = true) :
      HandleCase gateway object nowNs ((gateway.evaluateDeadline nowNs).1,
        .ok ((gateway.evaluateDeadline nowNs).2 ++
          [rejectUntrusted object .invalidPayload nowNs]))
  | emergencyStop (command : CommandEnvelope M)
      (valid : validateCommandEnvelope M object = .ok command)
      (emergency : isEmergencyStop command = true) :
      HandleCase gateway object nowNs (gateway.endSession .estopLatched,
        .ok (gateway.commandTransition command .estopLatched nowNs ++
          [.safetyStop (stopEvent command .emergencyStop nowNs)]))
  | rejected (command : CommandEnvelope M) (code : RejectionCode)
      (valid : validateCommandEnvelope M object = .ok command)
      (ordinary : isEmergencyStop command = false) :
      HandleCase gateway object nowNs ((gateway.evaluateDeadline nowNs).1,
        .ok ((gateway.evaluateDeadline nowNs).2 ++ [reject command code nowNs]))
  | sessionStart (command : CommandEnvelope M)
      (valid : validateCommandEnvelope M object = .ok command)
      (named : command.command = .sessionStart)
      (notDue : ¬gateway.DeadlineDue nowNs)
      (unlatched : gateway.state ≠ .estopLatched)
      (first : command.sequence = 1)
      (fresh : command.sessionId ∉ gateway.usedSessionIds) :
      HandleCase gateway object nowNs (gateway.startSession command nowNs,
        .ok (gateway.commandTransition command .awaitingRecenter nowNs))
  | modeSet (command : CommandEnvelope M)
      (valid : validateCommandEnvelope M object = .ok command)
      (named : command.command = .modeSet)
      (notDue : ¬gateway.DeadlineDue nowNs)
      (inSession : gateway.InSession command) :
      HandleCase gateway object nowNs (gateway.accept command nowNs, .ok [])
  | headRecenter (command : CommandEnvelope M) (orientation : Quaternion M)
      (valid : validateCommandEnvelope M object = .ok command)
      (named : command.command = .headRecenter)
      (notDue : ¬gateway.DeadlineDue nowNs)
      (inSession : gateway.InSession command)
      (live : gateway.state = .awaitingRecenter ∨ gateway.state = .headActive)
      (normalizes : Normalizes command (.ok orientation)) :
      HandleCase gateway object nowNs (gateway.recenterHead command orientation nowNs,
        .ok (gateway.commandTransition command .headActive nowNs))
  | headPose (command : CommandEnvelope M) (orientation : Quaternion M)
      (target : NeckTarget K)
      (valid : validateCommandEnvelope M object = .ok command)
      (named : command.command = .headPose)
      (notDue : ¬gateway.DeadlineDue nowNs)
      (inSession : gateway.InSession command)
      (active : gateway.state = .headActive)
      (updated : (gateway.neckController.update orientation nowNs).2 = .ok target)
      (normalizes : Normalizes command (.ok orientation)) :
      HandleCase gateway object nowNs (gateway.moveHead command orientation nowNs,
        .ok [.neckTarget (targetEvent command target nowNs)])
  | sessionStop (command : CommandEnvelope M)
      (valid : validateCommandEnvelope M object = .ok command)
      (named : command.command = .sessionStop)
      (notDue : ¬gateway.DeadlineDue nowNs)
      (inSession : gateway.InSession command) :
      HandleCase gateway object nowNs (gateway.endSession .idle,
        .ok (gateway.commandTransition command .idle nowNs ++
          [.safetyStop (stopEvent command .sessionStopped nowNs)]))
  | orientationRaised (command : CommandEnvelope M) (exception : PyException)
      (valid : validateCommandEnvelope M object = .ok command)
      (ordinary : isEmergencyStop command = false)
      (notDue : ¬gateway.DeadlineDue nowNs)
      (live : gateway.state = .awaitingRecenter ∨ gateway.state = .headActive)
      (normalizes : Normalizes command (.error exception)) :
      HandleCase gateway object nowNs (gateway, .error exception)
  | updateRaised (command : CommandEnvelope M) (orientation : Quaternion M)
      (exception : PyException)
      (valid : validateCommandEnvelope M object = .ok command)
      (ordinary : isEmergencyStop command = false)
      (notDue : ¬gateway.DeadlineDue nowNs)
      (active : gateway.state = .headActive)
      (updated : (gateway.neckController.update orientation nowNs).2 = .error exception)
      (normalizes : Normalizes command (.ok orientation)) :
      HandleCase gateway object nowNs
        ({ gateway with neckController := (gateway.neckController.update orientation nowNs).1 },
          .error exception)

section Route

variable {gateway : VrGateway M} {object : PyObject K} {command : CommandEnvelope M} {nowNs : ℤ}

/-- A rejection when no deadline is due leaves the state alone. -/
theorem HandleCase.rejected_of_notDue
    (valid : validateCommandEnvelope M object = .ok command)
    (ordinary : isEmergencyStop command = false)
    (notDue : ¬gateway.DeadlineDue nowNs) (code : RejectionCode) :
    HandleCase gateway object nowNs (gateway, .ok [reject command code nowNs]) := by
  have shown : HandleCase gateway object nowNs _ :=
    .rejected command code valid ordinary
  rwa [evaluateDeadline_of_notDue notDue] at shown

theorem handleSessionStart_cases
    (valid : validateCommandEnvelope M object = .ok command)
    (ordinary : isEmergencyStop command = false)
    (notDue : ¬gateway.DeadlineDue nowNs)
    (named : command.command = .sessionStart) :
    HandleCase gateway object nowNs (gateway.handleSessionStart command nowNs) := by
  have rejected := HandleCase.rejected_of_notDue valid ordinary notDue
  unfold handleSessionStart
  simp only [transition_eq]
  split
  · exact rejected _
  · next unlatched =>
      split
      · next payload _ =>
          split
          · exact rejected _
          · next first =>
              split
              · exact rejected _
              · next fresh =>
                  split
                  · exact rejected _
                  · split
                    · exact rejected _
                    · exact .sessionStart command valid named notDue unlatched
                        (not_not.mp first) fresh
      · exact rejected _

theorem handleModeSet_cases (payload : ModeSetPayload)
    (valid : validateCommandEnvelope M object = .ok command)
    (ordinary : isEmergencyStop command = false)
    (notDue : ¬gateway.DeadlineDue nowNs)
    (inSession : gateway.InSession command)
    (named : command.command = .modeSet) :
    HandleCase gateway object nowNs (gateway.handleModeSet command payload nowNs) := by
  have rejected := HandleCase.rejected_of_notDue valid ordinary notDue
  unfold handleModeSet
  split
  · exact rejected _
  · split
    · exact rejected _
    · exact .modeSet command valid named notDue inSession

theorem handleRecenter_cases {payload : PosePayload M} (sent : command.payload = .pose payload)
    (valid : validateCommandEnvelope M object = .ok command)
    (ordinary : isEmergencyStop command = false)
    (notDue : ¬gateway.DeadlineDue nowNs)
    (inSession : gateway.InSession command)
    (named : command.command = .headRecenter) :
    HandleCase gateway object nowNs (gateway.handleRecenter command payload nowNs) := by
  unfold handleRecenter
  split
  · exact HandleCase.rejected_of_notDue valid ordinary notDue _
  · next blocked =>
      have live : gateway.state = .awaitingRecenter ∨ gateway.state = .headActive := by
        by_cases awaiting : gateway.state = .awaitingRecenter
        · exact .inl awaiting
        · exact .inr (not_not.mp fun other => blocked ⟨awaiting, other⟩)
      cases normalized : payload.orientation.normalized with
      | error exception =>
          exact .orientationRaised command exception valid ordinary notDue live
            ⟨payload, sent, normalized⟩
      | ok orientation =>
          simp only [transition_eq]
          exact .headRecenter command orientation valid named notDue inSession live
            ⟨payload, sent, normalized⟩

theorem handlePose_cases {payload : PosePayload M} (sent : command.payload = .pose payload)
    (valid : validateCommandEnvelope M object = .ok command)
    (ordinary : isEmergencyStop command = false)
    (notDue : ¬gateway.DeadlineDue nowNs)
    (inSession : gateway.InSession command)
    (named : command.command = .headPose) :
    HandleCase gateway object nowNs (gateway.handlePose command payload nowNs) := by
  unfold handlePose
  split
  · exact HandleCase.rejected_of_notDue valid ordinary notDue _
  · next blocked =>
      have active := not_not.mp blocked
      cases normalized : payload.orientation.normalized with
      | error exception =>
          exact .orientationRaised command exception valid ordinary notDue (.inr active)
            ⟨payload, sent, normalized⟩
      | ok orientation =>
          dsimp only
          cases updated : (gateway.neckController.update orientation nowNs).2 with
          | error exception =>
              exact .updateRaised command orientation exception valid ordinary notDue
                active updated ⟨payload, sent, normalized⟩
          | ok target =>
              exact .headPose command orientation target valid named notDue inSession
                active updated ⟨payload, sent, normalized⟩

theorem route_cases
    (valid : validateCommandEnvelope M object = .ok command)
    (ordinary : isEmergencyStop command = false)
    (notDue : ¬gateway.DeadlineDue nowNs) :
    HandleCase gateway object nowNs (gateway.route command nowNs) := by
  have rejected := HandleCase.rejected_of_notDue valid ordinary notDue
  unfold route
  split
  · next named => exact handleSessionStart_cases valid ordinary notDue named
  · split
    · exact rejected _
    · next moving =>
        split
        · exact rejected _
        · next activeSessionId active =>
            split
            · exact rejected _
            · next same =>
                split
                · exact rejected _
                · next newer =>
                    split
                    · exact rejected _
                    · next notEarlier =>
                        have inSession : gateway.InSession command := by
                          refine ⟨moving, ?_, ?_, ?_⟩
                          · rw [active, not_not.mp same]
                          · intro last isLast
                            simpa [isLast] using newer
                          · intro last isLast
                            simpa [isLast] using notEarlier
                        split
                        · next payload named _ =>
                            exact handleModeSet_cases payload valid ordinary notDue
                              inSession named
                        · next payload named sent =>
                            exact handleRecenter_cases sent valid ordinary notDue
                              inSession named
                        · next payload named sent =>
                            exact handlePose_cases sent valid ordinary notDue
                              inSession named
                        · next named _ =>
                            unfold handleSessionStop
                            simp only [transition_eq]
                            exact .sessionStop command valid named notDue inSession
                        · exact rejected _

end Route

theorem handle_cases (gateway : VrGateway M) (object : PyObject K) (nowNs : ℤ) :
    HandleCase gateway object nowNs (gateway.handle object nowNs) := by
  unfold handle
  split
  · next exception invalid =>
      split
      · next caught => exact .malformed exception invalid caught
      · next uncaught => exact .raised exception invalid (by simpa using uncaught)
  · next command valid =>
      split
      · next emergency =>
          unfold handleEmergencyStop
          simp only [transition_eq]
          exact .emergencyStop command valid emergency
      · next notEmergency =>
          have ordinary : isEmergencyStop command = false := by simpa using notEmergency
          dsimp only
          split
          · exact .rejected command .invalidPayload valid ordinary
          · split
            · exact .rejected command _ valid ordinary
            · next noEvents =>
                have notDue := notDue_of_no_events (not_not.mp noEvents)
                rw [evaluateDeadline_of_notDue notDue]
                exact route_cases valid ordinary notDue

end VrGateway

end ValeraControlTower

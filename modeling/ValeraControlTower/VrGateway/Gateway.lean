import ValeraControlTower.VrGateway.Neck

/-!
# `robot/vr_gateway/gateway.py`

The session state machine.  Each method takes the state it reads and returns the
state it leaves together with the events; the clock reading is an argument.  An
exception that escapes a method is returned next to the state it leaves behind.
-/

namespace ValeraControlTower

open Unicode

variable {K : Type} [Field K] [LinearOrder K]

structure GatewayConfig where
  handshakeTimeoutNs : ℤ := 10000000000
  motionWatchdogTimeoutNs : ℤ := 250000000

/-- `_REJECTION_MESSAGES`. -/
def rejectionMessage : RejectionCode → PyStr
  | .staleSequence => py "Sequence must increase within the session."
  | .staleTimestamp => py "Timestamp must not decrease within the session."
  | .sessionMismatch => py "Command does not match the active session."
  | .noActiveSession => py "No active session is available."
  | .modeBlocked => py "Requested operation is blocked in this mode."
  | .unknownMode => py "Requested mode is not recognized."
  | .watchdogActive => py "The motion watchdog is active."
  | .invalidPayload => py "Command payload is invalid."
  | .estopLatched => py "Emergency stop is latched."

structure VrGateway (M : FloatMath K) where
  neckController : NeckController M
  config : GatewayConfig
  state : GatewayState
  usedSessionIds : Finset PyStr
  activeSessionId : Option PyStr
  lastSequence : Option ℤ
  lastTimestampMs : Option ℤ
  sessionStartedMonotonicNs : Option ℤ
  lastValidPacketReceivedMonotonicNs : Option ℤ

/-- What a call returns or raises. -/
abbrev Outcome (K : Type) := Except PyException (List (OutputEvent K))

/-- Does `except (MessageValidationError, AttributeError, TypeError, ValueError)`
catch the exception? -/
def handleCatches (exception : PyException) : Bool :=
  match exception with
  | .attributeError | .typeError => true
  | exception => exception.isValueError

variable {M : FloatMath K}

namespace VrGateway

/-- `__init__`. -/
def new (neckController : NeckController M) (config : GatewayConfig) : VrGateway M where
  neckController
  config
  state := .idle
  usedSessionIds := ∅
  activeSessionId := none
  lastSequence := none
  lastTimestampMs := none
  sessionStartedMonotonicNs := none
  lastValidPacketReceivedMonotonicNs := none

/-- `_accept`. -/
def accept (gateway : VrGateway M) (command : CommandEnvelope M) (nowNs : ℤ) : VrGateway M :=
  { gateway with
    lastSequence := some command.sequence
    lastTimestampMs := some command.timestampMs
    lastValidPacketReceivedMonotonicNs := some nowNs }

/-- `_invalidate_active_session`. -/
def invalidateActiveSession (gateway : VrGateway M) : VrGateway M :=
  { gateway with
    activeSessionId := none
    lastSequence := none
    lastTimestampMs := none
    sessionStartedMonotonicNs := none
    lastValidPacketReceivedMonotonicNs := none }

/-- `_transition`, with its optional event as a list of at most one. -/
def transition (gateway : VrGateway M) (state : GatewayState) (sessionId : Option PyStr)
    (sequence : Option ℤ) (nowNs : ℤ) : VrGateway M × List (OutputEvent K) :=
  if gateway.state = state then (gateway, [])
  else
    ({ gateway with state },
      [.gatewayState { gatewayMonotonicNs := nowNs, state, sessionId, sequence }])

/-- `_reject`. -/
def reject (command : CommandEnvelope M) (code : RejectionCode) (nowNs : ℤ) :
    OutputEvent K :=
  .commandRejected {
    gatewayMonotonicNs := nowNs
    code
    message := rejectionMessage code
    sessionId := some command.sessionId
    sequence := some command.sequence }

/-- `session_id` as `_reject_untrusted` salvages it. -/
def salvageSessionId : Option (PyObject K) → Option PyStr
  | some (.str text) => if text = [] then none else some text
  | _ => none

/-- `sequence` as `_reject_untrusted` salvages it. -/
def salvageSequence : Option (PyObject K) → Option ℤ
  | some (.int number) => if number < 1 then none else some number
  | _ => none

/-- `_reject_untrusted`. -/
def rejectUntrusted (command : PyObject K) (code : RejectionCode) (nowNs : ℤ) :
    OutputEvent K :=
  let attributes := match command with
    | .instanceOf .commandEnvelope dict => dict
    | _ => []
  .commandRejected {
    gatewayMonotonicNs := nowNs
    code
    message := rejectionMessage code
    sessionId := salvageSessionId (PyDict.get? attributes .sessionId)
    sequence := salvageSequence (PyDict.get? attributes .sequence) }

/-- Has the time stamp been set, and is it at least `timeout` old? -/
def elapsed (since : Option ℤ) (timeout nowNs : ℤ) : Bool :=
  match since with
  | some since => decide (timeout ≤ nowNs - since)
  | none => false

/-- `_evaluate_deadline`. -/
def evaluateDeadline (gateway : VrGateway M) (nowNs : ℤ) :
    VrGateway M × List (OutputEvent K) :=
  if gateway.state = .awaitingRecenter ∧
      elapsed gateway.sessionStartedMonotonicNs gateway.config.handshakeTimeoutNs nowNs then
    let (next, transition) :=
      gateway.transition .idle gateway.activeSessionId gateway.lastSequence nowNs
    (next.invalidateActiveSession, transition)
  else if gateway.state = .headActive ∧
      elapsed gateway.lastValidPacketReceivedMonotonicNs
        gateway.config.motionWatchdogTimeoutNs nowNs then
    let (next, transition) :=
      gateway.transition .safeStopped gateway.activeSessionId gateway.lastSequence nowNs
    (next.invalidateActiveSession, transition ++ [.safetyStop {
      gatewayMonotonicNs := nowNs
      reason := .watchdog
      sessionId := gateway.activeSessionId
      sequence := gateway.lastSequence }])
  else (gateway, [])

/-- `poll`. -/
def poll (gateway : VrGateway M) (nowNs : ℤ) : VrGateway M × Outcome K :=
  let (next, events) := gateway.evaluateDeadline nowNs
  (next, .ok events)

/-- `_handle_session_start`. -/
def handleSessionStart (gateway : VrGateway M) (command : CommandEnvelope M) (nowNs : ℤ) :
    VrGateway M × Outcome K :=
  let rejected := fun code => (gateway, .ok [reject command code nowNs])
  if gateway.state = .estopLatched then rejected .estopLatched
  else match command.payload with
    | .sessionStart payload =>
        if command.sequence ≠ 1 then rejected .invalidPayload
        else if command.sessionId ∈ gateway.usedSessionIds then rejected .invalidPayload
        else if payload.requestedMode = py "drive" ∨ payload.requestedMode = py "arm" then
          rejected .modeBlocked
        else if payload.requestedMode ≠ py "head" then rejected .unknownMode
        else
          let started := { gateway with
            usedSessionIds := insert command.sessionId gateway.usedSessionIds
            activeSessionId := some command.sessionId
            lastSequence := some command.sequence
            lastTimestampMs := some command.timestampMs
            sessionStartedMonotonicNs := some nowNs
            lastValidPacketReceivedMonotonicNs := some nowNs }
          let (next, transition) := started.transition .awaitingRecenter
            (some command.sessionId) (some command.sequence) nowNs
          (next, .ok transition)
    | _ => rejected .invalidPayload

/-- `_handle_mode_set`. -/
def handleModeSet (gateway : VrGateway M) (command : CommandEnvelope M)
    (payload : ModeSetPayload) (nowNs : ℤ) : VrGateway M × Outcome K :=
  if payload.mode = py "drive" ∨ payload.mode = py "arm" then
    (gateway, .ok [reject command .modeBlocked nowNs])
  else if payload.mode ≠ py "head" then (gateway, .ok [reject command .unknownMode nowNs])
  else (gateway.accept command nowNs, .ok [])

/-- `_handle_recenter`. -/
def handleRecenter (gateway : VrGateway M) (command : CommandEnvelope M)
    (payload : PosePayload M) (nowNs : ℤ) : VrGateway M × Outcome K :=
  if gateway.state ≠ .awaitingRecenter ∧ gateway.state ≠ .headActive then
    (gateway, .ok [reject command .modeBlocked nowNs])
  else
    let wasActive := decide (gateway.state = .headActive)
    match payload.orientation.normalized with
    | .error exception => (gateway, .error exception)
    | .ok orientation =>
        let recentered := { gateway with
          neckController := gateway.neckController.recenter orientation nowNs wasActive }
        let (next, transition) := (recentered.accept command nowNs).transition .headActive
          (some command.sessionId) (some command.sequence) nowNs
        (next, .ok transition)

/-- `_handle_pose`. -/
def handlePose (gateway : VrGateway M) (command : CommandEnvelope M)
    (payload : PosePayload M) (nowNs : ℤ) : VrGateway M × Outcome K :=
  if gateway.state ≠ .headActive then (gateway, .ok [reject command .modeBlocked nowNs])
  else
    match payload.orientation.normalized with
    | .error exception => (gateway, .error exception)
    | .ok orientation =>
        let (neckController, target) := gateway.neckController.update orientation nowNs
        let updated := { gateway with neckController }
        match target with
        | .error exception => (updated, .error exception)
        | .ok target =>
            (updated.accept command nowNs, .ok [.neckTarget {
              gatewayMonotonicNs := nowNs
              sessionId := command.sessionId
              sequence := command.sequence
              panDegrees := target.panDegrees
              tiltDegrees := target.tiltDegrees }])

/-- `_handle_session_stop`. -/
def handleSessionStop (gateway : VrGateway M) (command : CommandEnvelope M) (nowNs : ℤ) :
    VrGateway M × Outcome K :=
  let (next, transition) := (gateway.accept command nowNs).transition .idle
    (some command.sessionId) (some command.sequence) nowNs
  (next.invalidateActiveSession, .ok (transition ++ [.safetyStop {
    gatewayMonotonicNs := nowNs
    reason := .sessionStopped
    sessionId := some command.sessionId
    sequence := some command.sequence }]))

/-- `_handle_emergency_stop`. -/
def handleEmergencyStop (gateway : VrGateway M) (command : CommandEnvelope M) (nowNs : ℤ) :
    VrGateway M × Outcome K :=
  let (next, transition) := gateway.transition .estopLatched
    (some command.sessionId) (some command.sequence) nowNs
  (next.invalidateActiveSession, .ok (transition ++ [.safetyStop {
    gatewayMonotonicNs := nowNs
    reason := .emergencyStop
    sessionId := some command.sessionId
    sequence := some command.sequence }]))

/-- `handle` from the session gates on, for a command other than `emergency_stop`
when no deadline event is pending. -/
def route (gateway : VrGateway M) (command : CommandEnvelope M) (nowNs : ℤ) :
    VrGateway M × Outcome K :=
  let rejected := fun code => (gateway, .ok [reject command code nowNs])
  if command.command = .sessionStart then gateway.handleSessionStart command nowNs
  else if gateway.state = .safeStopped then rejected .watchdogActive
  else match gateway.activeSessionId with
    | none => rejected .noActiveSession
    | some activeSessionId =>
        if command.sessionId ≠ activeSessionId then rejected .sessionMismatch
        else if gateway.lastSequence.any (command.sequence ≤ ·) then rejected .staleSequence
        else if gateway.lastTimestampMs.any (command.timestampMs < ·) then
          rejected .staleTimestamp
        else match command.command, command.payload with
          | .modeSet, .modeSet payload => gateway.handleModeSet command payload nowNs
          | .headRecenter, .pose payload => gateway.handleRecenter command payload nowNs
          | .headPose, .pose payload => gateway.handlePose command payload nowNs
          | .sessionStop, .empty => gateway.handleSessionStop command nowNs
          | _, _ => rejected .invalidPayload

/-- Is the envelope an `emergency_stop` with an `EmptyPayload`? -/
def isEmergencyStop (command : CommandEnvelope M) : Bool :=
  match command.command, command.payload with
  | .emergencyStop, .empty => true
  | _, _ => false

/-- `handle`. -/
def handle (gateway : VrGateway M) (command : PyObject K) (nowNs : ℤ) :
    VrGateway M × Outcome K :=
  match validateCommandEnvelope M command with
  | .error exception =>
      if handleCatches exception then
        let (next, deadlineEvents) := gateway.evaluateDeadline nowNs
        (next, .ok (deadlineEvents ++ [rejectUntrusted command .invalidPayload nowNs]))
      else (gateway, .error exception)
  | .ok command =>
      if isEmergencyStop command then gateway.handleEmergencyStop command nowNs
      else
        let (next, deadlineEvents) := gateway.evaluateDeadline nowNs
        if command.command = .emergencyStop then
          (next, .ok (deadlineEvents ++ [reject command .invalidPayload nowNs]))
        else if deadlineEvents ≠ [] then
          let code := if next.state = .safeStopped then .watchdogActive else .noActiveSession
          (next, .ok (deadlineEvents ++ [reject command code nowNs]))
        else next.route command nowNs

end VrGateway

end ValeraControlTower

import ValeraControlTower.VrGateway.Runs

/-!
# Does it matter who notices a deadline?

A deadline is noticed by `poll` or by the next command.  The inline path of `handle`
rejects that command with a code of its own; `pollTransparent_iff` says for which
inputs the result is the one of polling first.
-/

namespace ValeraControlTower

variable {K : Type} [Field K] [LinearOrder K] {M : FloatMath K}

/-- The events of two calls in a row, if neither raises. -/
def Outcome.append : Outcome K → Outcome K → Outcome K
  | .ok first, .ok second => .ok (first ++ second)
  | .ok _, .error exception => .error exception
  | .error exception, _ => .error exception

namespace VrGateway

/-- `poll` and then `handle` at one reading, their events concatenated. -/
def pollThenHandle (gateway : VrGateway M) (object : PyObject K) (nowNs : ℤ) :
    VrGateway M × Outcome K :=
  let (polled, timerOutcome) := gateway.poll nowNs
  let (handled, outcome) := polled.handle object nowNs
  (handled, timerOutcome.append outcome)

/-- `handle` leaves the state and returns the events of polling first. -/
def PollTransparent (gateway : VrGateway M) (object : PyObject K) (nowNs : ℤ) : Prop :=
  gateway.handle object nowNs = gateway.pollThenHandle object nowNs

/-- Inputs that a due deadline keeps from being handled as they are after a poll: a valid
`session.start`, and an object whose validation raises past `handle`. -/
inductive BypassesDeadline (M : FloatMath K) (object : PyObject K) : Prop where
  | sessionStart (command : CommandEnvelope M)
      (valid : validateCommandEnvelope M object = .ok command)
      (named : command.command = .sessionStart)
  | raises (exception : PyException)
      (invalid : validateCommandEnvelope M object = .error exception)
      (uncaught : handleCatches exception = false)

variable {gateway polled : VrGateway M} {object : PyObject K} {command : CommandEnvelope M}
  {nowNs : ℤ} {timerEvents : List (OutputEvent K)}

/-- A deadline has been noticed: `gateway` before, `polled` and `timerEvents` after. -/
structure Expired (gateway : VrGateway M) (nowNs : ℤ) (polled : VrGateway M)
    (timerEvents : List (OutputEvent K)) : Prop where
  evaluated : gateway.evaluateDeadline nowNs = (polled, timerEvents)
  noticed : timerEvents ≠ []
  moved : gateway.state ≠ polled.state
  stopped : polled.state = .idle ∨ polled.state = .safeStopped
  sessionless : polled.activeSessionId = none

theorem expired_of_due (due : gateway.DeadlineDue nowNs) :
    ∃ polled timerEvents, Expired gateway nowNs polled timerEvents := by
  generalize result : gateway.evaluateDeadline nowNs = outcome
  have cases := gateway.evaluateDeadline_cases nowNs
  rw [result] at cases
  cases cases with
  | quiet notDue => exact absurd due notDue
  | handshake awaiting _ =>
      exact ⟨_, _, result, by simp [handshakeEvents], by simp [awaiting, endSession], .inl rfl,
        rfl⟩
  | watchdog active _ =>
      exact ⟨_, _, result, by simp [watchdogEvents], by simp [active, endSession], .inr rfl, rfl⟩

namespace Expired

theorem quiet (expired : Expired gateway nowNs polled timerEvents) :
    polled.evaluateDeadline nowNs = (polled, []) := by
  apply evaluateDeadline_of_notDue
  rintro (⟨awaiting, _⟩ | ⟨active, _⟩)
  · rcases expired.stopped with idle | safeStopped
    · simp [awaiting] at idle
    · simp [awaiting] at safeStopped
  · rcases expired.stopped with idle | safeStopped
    · simp [active] at idle
    · simp [active] at safeStopped

theorem pollThenHandle_eq (expired : Expired gateway nowNs polled timerEvents) :
    gateway.pollThenHandle object nowNs = ((polled.handle object nowNs).1,
      Outcome.append (.ok timerEvents) (polled.handle object nowNs).2) := by
  unfold pollThenHandle poll
  rw [expired.evaluated]

/-- The rejection code of the inline path. -/
def lateCode (polled : VrGateway M) : RejectionCode :=
  if polled.state = .safeStopped then .watchdogActive else .noActiveSession

/-- The inline path: every ordinary command is rejected with the late code. -/
theorem handle_late (expired : Expired gateway nowNs polled timerEvents)
    (valid : validateCommandEnvelope M object = .ok command)
    (ordinary : command.command ≠ .emergencyStop) :
    gateway.handle object nowNs =
      (polled, .ok (timerEvents ++ [reject command (lateCode polled) nowNs])) := by
  unfold handle
  simp only [valid, isEmergencyStop_eq_false ordinary, expired.evaluated, if_neg ordinary,
    if_pos expired.noticed]
  rfl

theorem handle_polled (expired : Expired gateway nowNs polled timerEvents)
    (valid : validateCommandEnvelope M object = .ok command)
    (ordinary : command.command ≠ .emergencyStop) :
    polled.handle object nowNs = polled.route command nowNs := by
  unfold handle
  simp only [valid, isEmergencyStop_eq_false ordinary, expired.quiet, if_neg ordinary]
  rfl

/-- After a poll there is no session, so other commands are rejected with the same code. -/
theorem route_polled (expired : Expired gateway nowNs polled timerEvents)
    (notStart : command.command ≠ .sessionStart) :
    polled.route command nowNs = (polled, .ok [reject command (lateCode polled) nowNs]) := by
  unfold route lateCode
  rw [if_neg notStart]
  rcases expired.stopped with idle | safeStopped
  · simp [idle, expired.sessionless]
  · simp [safeStopped]

theorem reject_inj {first second : RejectionCode}
    (same : reject (K := K) command first nowNs = reject command second nowNs) :
    first = second := by
  simp only [reject, OutputEvent.commandRejected.injEq, CommandRejectedEvent.mk.injEq] at same
  exact same.2.1

/-- `session.start` is answered on its own merits, never with the late code. -/
theorem handleSessionStart_ne (polled : VrGateway M) (command : CommandEnvelope M)
    (nowNs : ℤ) : (polled.handleSessionStart command nowNs).2 ≠
      .ok [reject command (lateCode polled) nowNs] := by
  have otherCode : ∀ code, code ≠ .watchdogActive → code ≠ .noActiveSession →
      (.ok [reject command code nowNs] : Outcome K) ≠
        .ok [reject command (lateCode polled) nowNs] := by
    intro code notWatchdog notSession same
    have codes := reject_inj (List.singleton_inj.mp (Except.ok.inj same))
    unfold lateCode at codes
    split at codes
    · exact notWatchdog codes
    · exact notSession codes
  unfold handleSessionStart
  simp only [transition_eq]
  split
  · exact otherCode _ (by simp) (by simp)
  · split
    · split
      · exact otherCode _ (by simp) (by simp)
      · split
        · exact otherCode _ (by simp) (by simp)
        · split
          · exact otherCode _ (by simp) (by simp)
          · split
            · exact otherCode _ (by simp) (by simp)
            · unfold transitionEvents
              split <;> simp [reject]
    · exact otherCode _ (by simp) (by simp)

end Expired

theorem pollTransparent_of_notDue (notDue : ¬gateway.DeadlineDue nowNs) :
    gateway.PollTransparent object nowNs := by
  unfold PollTransparent pollThenHandle poll
  rw [evaluateDeadline_of_notDue notDue]
  dsimp only
  generalize gateway.handle object nowNs = handled
  obtain ⟨next, outcome⟩ := handled
  cases outcome <;> rfl

/-- Once a deadline is due, the inputs of `BypassesDeadline` tell the two orders apart. -/
theorem Expired.not_pollTransparent (expired : Expired gateway nowNs polled timerEvents)
    (bypasses : BypassesDeadline M object) : ¬gateway.PollTransparent object nowNs := by
  unfold PollTransparent
  rw [expired.pollThenHandle_eq]
  cases bypasses with
  | sessionStart command valid named =>
      rw [expired.handle_late valid (by simp [named]),
        expired.handle_polled valid (by simp [named])]
      unfold route
      rw [if_pos named]
      intro same
      have answered := handleSessionStart_ne polled command nowNs
      have outcomes := congrArg Prod.snd same
      cases started : (polled.handleSessionStart command nowNs).2 with
      | error exception =>
          rw [started] at outcomes
          cases outcomes
      | ok events =>
          rw [started] at outcomes answered
          have suffixes := List.append_cancel_left (Except.ok.inj outcomes)
          exact answered (by rw [suffixes])
  | raises exception invalid uncaught =>
      have stays : gateway.handle object nowNs = (gateway, .error exception) := by
        unfold handle
        simp [invalid, uncaught]
      have leaves : polled.handle object nowNs = (polled, .error exception) := by
        unfold handle
        simp [invalid, uncaught]
      rw [stays, leaves]
      intro same
      exact expired.moved (congrArg (fun result => result.1.state) same)

/-- For any other input the inline path is polling first. -/
theorem Expired.pollTransparent (expired : Expired gateway nowNs polled timerEvents)
    (ordinary : ¬IsEmergencyStop M ⟨.handle object, nowNs⟩)
    (waits : ¬BypassesDeadline M object) : gateway.PollTransparent object nowNs := by
  unfold PollTransparent
  rw [expired.pollThenHandle_eq]
  cases valid : validateCommandEnvelope M object with
  | error exception =>
      have caught : handleCatches exception = true := by
        by_contra uncaught
        exact waits (.raises exception valid (by simpa using uncaught))
      unfold handle
      simp only [valid, caught, expired.evaluated, expired.quiet]
      rfl
  | ok command =>
      have notStart : command.command ≠ .sessionStart :=
        fun named => waits (.sessionStart command valid named)
      by_cases emergency : command.command = .emergencyStop
      · have payload : isEmergencyStop command = false := by
          by_contra isStop
          refine ordinary ⟨command, ?_, by simpa using isStop⟩
          simp [validCommand, valid, Except.toOption]
        unfold handle
        simp only [valid, payload, emergency, expired.evaluated, expired.quiet]
        rfl
      · rw [expired.handle_late valid emergency, expired.handle_polled valid emergency,
          expired.route_polled notStart]
        rfl

/-- For any input but a valid `emergency_stop`, it makes no difference whether a timer
polled first, unless a deadline is due and the input bypasses it. -/
theorem pollTransparent_iff (gateway : VrGateway M) (object : PyObject K) (nowNs : ℤ)
    (ordinary : ¬IsEmergencyStop M ⟨.handle object, nowNs⟩) :
    gateway.PollTransparent object nowNs ↔
      ¬(gateway.DeadlineDue nowNs ∧ BypassesDeadline M object) := by
  by_cases due : gateway.DeadlineDue nowNs
  · obtain ⟨polled, timerEvents, expired⟩ := expired_of_due due
    by_cases bypasses : BypassesDeadline M object
    · exact iff_of_false (expired.not_pollTransparent bypasses)
        (not_not.mpr ⟨due, bypasses⟩)
    · exact iff_of_true (expired.pollTransparent ordinary bypasses)
        (fun both => bypasses both.2)
  · exact iff_of_true (pollTransparent_of_notDue due) (fun both => due both.1)

end VrGateway

namespace Session

/-- A `session.start` under an id of its own. -/
def restart : CommandEnvelope FloatMath.axis :=
  { start with sessionId := py "t", sessionIdNonempty := by decide }

end Session

namespace VrGateway

/-- A recenter of the example session that comes too late is rejected either way. -/
theorem pollTransparent_iff_recenter :
    (Machine.execute step Session.gateway
      [⟨.handle Session.start.toObject, 0⟩]).2.PollTransparent
      Session.recenter.toObject 10000000000 :=
  (pollTransparent_iff _ Session.recenter.toObject 10000000000
    (not_isEmergencyStop_of_named (validateCommandEnvelope_toObject _) (by decide))).mpr
    fun both => by
      have valid := validateCommandEnvelope_toObject Session.recenter
      cases both.2 with
      | sessionStart command isCommand named =>
          rw [valid] at isCommand
          cases isCommand
          cases named
      | raises exception invalid uncaught =>
          rw [valid] at invalid
          cases invalid

/-- A fresh `session.start` that finds the handshake expired is rejected, where it would
be accepted after a poll. -/
theorem not_always_pollTransparent :
    ¬∀ gateway : VrGateway FloatMath.axis,
      Machine.Reachable step Session.gateway gateway →
      ∀ object nowNs, ¬IsEmergencyStop FloatMath.axis ⟨.handle object, nowNs⟩ →
      gateway.PollTransparent object nowNs := by
  intro always
  have shown := always _ ⟨_, Machine.execute_run step Session.gateway
    [⟨.handle Session.start.toObject, 0⟩]⟩ Session.restart.toObject 10000000000
    (not_isEmergencyStop_of_named (validateCommandEnvelope_toObject _) (by decide))
  have events := congrArg (fun result => result.1.activeSessionId) shown
  revert events
  decide +kernel

end VrGateway

end ValeraControlTower

import ValeraControlTower.VrGateway.Runs

/-!
# A rejection changes nothing

A call of `handle` that answers with a `command.rejected` leaves what evaluating the
deadlines alone would have left, and a malformed object is never more than that.
-/

namespace ValeraControlTower

variable {K : Type} [Field K] [LinearOrder K] {M : FloatMath K}

namespace VrGateway

/-- `handle` returned these events, a rejection among them. -/
def Rejects (outcome : Outcome K) (events : List (OutputEvent K)) : Prop :=
  outcome = .ok events ∧ ∃ event ∈ events, event.isRejection = true

/-- No id is used up, the neck is not moved or referenced anew, and no field of the
session is renewed: the session goes on as it was or is over. -/
structure Untouched (gateway next : VrGateway M) : Prop where
  config : next.config = gateway.config
  usedSessionIds : next.usedSessionIds = gateway.usedSessionIds
  neckController : next.neckController = gateway.neckController
  session : next = gateway ∨ ∃ state, next = gateway.endSession state

theorem untouched_evaluateDeadline (gateway : VrGateway M) (nowNs : ℤ) :
    Untouched gateway (gateway.evaluateDeadline nowNs).1 := by
  generalize result : gateway.evaluateDeadline nowNs = outcome
  have cases := gateway.evaluateDeadline_cases nowNs
  rw [result] at cases
  cases cases with
  | quiet _ => exact ⟨rfl, rfl, rfl, .inl rfl⟩
  | handshake _ _ => exact ⟨rfl, rfl, rfl, .inr ⟨_, rfl⟩⟩
  | watchdog _ _ => exact ⟨rfl, rfl, rfl, .inr ⟨_, rfl⟩⟩

/-- A deadline rejects nothing. -/
theorem evaluateDeadline_isRejection (gateway : VrGateway M) (nowNs : ℤ) :
    ∀ event ∈ (gateway.evaluateDeadline nowNs).2, event.isRejection = false := by
  generalize result : gateway.evaluateDeadline nowNs = outcome
  have cases := gateway.evaluateDeadline_cases nowNs
  rw [result] at cases
  cases cases with
  | quiet _ => simp
  | handshake _ _ => simp [handshakeEvents, OutputEvent.isRejection]
  | watchdog _ _ => simp [watchdogEvents, OutputEvent.isRejection]

theorem commandTransition_isRejection (gateway : VrGateway M) (command : CommandEnvelope M)
    (target : GatewayState) (nowNs : ℤ) :
    ∀ event ∈ gateway.commandTransition command target nowNs, event.isRejection = false := by
  unfold commandTransition transitionEvents
  split
  · simp
  · simp [OutputEvent.isRejection]

/-- A rejecting call is one of the two cases that end in a rejection. -/
theorem rejects_cases {gateway : VrGateway M} {object : PyObject K} {nowNs : ℤ}
    {events : List (OutputEvent K)} (rejects : Rejects (gateway.handle object nowNs).2 events) :
    ∃ rejection, events = (gateway.evaluateDeadline nowNs).2 ++ [.commandRejected rejection] ∧
      (gateway.handle object nowNs).1 = (gateway.evaluateDeadline nowNs).1 := by
  obtain ⟨returned, event, membership, isRejection⟩ := rejects
  generalize result : gateway.handle object nowNs = outcome at *
  have cases := gateway.handle_cases object nowNs
  rw [result] at cases
  -- Everywhere else no event is a rejection.
  have accepted : (∀ other ∈ events, other.isRejection = false) →
      ∃ rejection, events = (gateway.evaluateDeadline nowNs).2 ++ [.commandRejected rejection] ∧
        outcome.1 = (gateway.evaluateDeadline nowNs).1 := by
    intro none
    rw [none event membership] at isRejection
    cases isRejection
  cases cases with
  | raised | orientationRaised | updateRaised => cases returned
  | malformed =>
      cases returned
      exact ⟨_, rfl, rfl⟩
  | rejected =>
      cases returned
      exact ⟨_, rfl, rfl⟩
  | emergencyStop command =>
      cases returned
      apply accepted
      intro other among
      rcases List.mem_append.mp among with early | last
      · exact commandTransition_isRejection _ _ _ _ other early
      · rw [List.mem_singleton.mp last]
        rfl
  | sessionStart command =>
      cases returned
      exact accepted (commandTransition_isRejection _ _ _ _)
  | modeSet =>
      cases returned
      cases membership
  | headRecenter command =>
      cases returned
      exact accepted (commandTransition_isRejection _ _ _ _)
  | headPose =>
      cases returned
      apply accepted
      intro other among
      rw [List.mem_singleton.mp among]
      rfl
  | sessionStop command =>
      cases returned
      apply accepted
      intro other among
      rcases List.mem_append.mp among with early | last
      · exact commandTransition_isRejection _ _ _ _ other early
      · rw [List.mem_singleton.mp last]
        rfl

/-- An object that validation refuses leaves the deadlines evaluated, or nothing done. -/
theorem untouched_of_invalid {gateway : VrGateway M} {object : PyObject K}
    {exception : PyException} (invalid : validateCommandEnvelope M object = .error exception)
    (nowNs : ℤ) : Untouched gateway (gateway.handle object nowNs).1 := by
  unfold handle
  rw [invalid]
  dsimp only
  split
  · exact untouched_evaluateDeadline gateway nowNs
  · exact ⟨rfl, rfl, rfl, .inl rfl⟩

/-- A rejection is one event, the last, behind those of the deadlines; the gateway is left
as evaluating the deadlines leaves it.  Neither a rejected command nor a malformed object
uses up an id, renews a field of the session or touches the neck. -/
theorem rejection_changes_nothing (gateway : VrGateway M) (object : PyObject K) (nowNs : ℤ) :
    (∀ events, Rejects (gateway.handle object nowNs).2 events →
      (∃ rejection,
        events = (gateway.evaluateDeadline nowNs).2 ++ [.commandRejected rejection]) ∧
      (∀ event ∈ (gateway.evaluateDeadline nowNs).2, event.isRejection = false) ∧
      (gateway.handle object nowNs).1 = (gateway.evaluateDeadline nowNs).1 ∧
      Untouched gateway (gateway.handle object nowNs).1) ∧
    (∀ exception, validateCommandEnvelope M object = .error exception →
      Untouched gateway (gateway.handle object nowNs).1) := by
  constructor
  · intro events rejects
    obtain ⟨rejection, returned, left⟩ := rejects_cases rejects
    refine ⟨⟨rejection, returned⟩, evaluateDeadline_isRejection gateway nowNs, left, ?_⟩
    rw [left]
    exact untouched_evaluateDeadline gateway nowNs
  · exact fun exception invalid => untouched_of_invalid invalid nowNs

/-- The object that is no envelope, handed to the example session. -/
theorem rejection_changes_nothing_other :
    (Session.opened.2.handle .other 0).1 = (Session.opened.2.evaluateDeadline 0).1 ∧
      Untouched Session.opened.2 (Session.opened.2.handle .other 0).1 :=
  have rejected := (rejection_changes_nothing Session.opened.2 .other 0).1 _
    ⟨rfl, _, List.mem_append_right _ (List.mem_singleton_self _), rfl⟩
  ⟨rejected.2.2.1, rejected.2.2.2⟩

end VrGateway

end ValeraControlTower

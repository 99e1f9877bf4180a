import ValeraControlTower.VrGateway.Sessions
import ValeraControlTower.VrGateway.TrustBoundary

/-!
# Correlation is whole or absent

Valid commands and live sessions have both a session id and a sequence number.  The
rejection of an object that fails validation takes over what it can of either, so it can
show one without the other.
-/

namespace ValeraControlTower

variable {K : Type} [Field K] [LinearOrder K] {M : FloatMath K}

/-- Both halves of a correlation, or neither. -/
inductive WholeCorrelation : Option PyStr → Option ℤ → Prop where
  | absent : WholeCorrelation none none
  | present {sessionId : PyStr} {sequence : ℤ} (nonempty : sessionId ≠ [])
      (positive : 1 ≤ sequence) :
      WholeCorrelation (some sessionId) (some sequence)

/-- The event shows both its session id and its sequence, or neither. -/
def OutputEvent.Whole : OutputEvent K → Prop
  | gatewayState event => WholeCorrelation event.sessionId event.sequence
  | neckTarget event => WholeCorrelation (some event.sessionId) (some event.sequence)
  | safetyStop event => WholeCorrelation event.sessionId event.sequence
  | commandRejected event => WholeCorrelation event.sessionId event.sequence

/-- An envelope that has a session id or a sequence number, but not both. -/
def HalfCorrelated (object : PyObject K) : Prop :=
  ∃ dict : PyDict K, object = .instanceOf .commandEnvelope dict ∧
    ¬(HasSessionId dict ↔ HasSequence dict)

namespace VrGateway

variable {gateway : VrGateway M} {object : PyObject K} {nowNs : ℤ}

/-! ## What is taken over from an object -/

omit [Field K] [LinearOrder K] in
theorem salvageSessionId_isSome (dict : PyDict K) :
    (∃ text, salvageSessionId (dict.get? .sessionId) = some text ∧ text ≠ []) ∧
        HasSessionId dict ∨
      salvageSessionId (dict.get? .sessionId) = none ∧ ¬HasSessionId dict := by
  unfold HasSessionId
  cases held : dict.get? .sessionId with
  | none => simp [salvageSessionId]
  | some value =>
      cases value with
      | str text =>
          by_cases empty : text = []
          · simp [salvageSessionId, empty]
          · simp [salvageSessionId, empty]
      | _ => simp [salvageSessionId]

omit [Field K] [LinearOrder K] in
theorem salvageSequence_isSome (dict : PyDict K) :
    (∃ number, salvageSequence (dict.get? .sequence) = some number ∧ 1 ≤ number) ∧
        HasSequence dict ∨
      salvageSequence (dict.get? .sequence) = none ∧ ¬HasSequence dict := by
  unfold HasSequence
  cases held : dict.get? .sequence with
  | none => simp [salvageSequence]
  | some value =>
      cases value with
      | int number =>
          by_cases small : number < 1
          · simp [salvageSequence, small]
          · simp [salvageSequence, small, not_lt.mp small]
      | _ => simp [salvageSequence]

omit [Field K] [LinearOrder K] in
/-- The rejection of an object is whole unless the object is half correlated. -/
theorem rejectUntrusted_whole_iff (object : PyObject K) (code : RejectionCode) (nowNs : ℤ) :
    (rejectUntrusted object code nowNs).Whole ↔ ¬HalfCorrelated object := by
  unfold HalfCorrelated rejectUntrusted
  split
  · next dict =>
      simp only [PyObject.instanceOf.injEq, true_and, exists_eq_left', not_not, OutputEvent.Whole]
      rcases salvageSessionId_isSome dict with
        ⟨⟨text, isText, nonempty⟩, identified⟩ | ⟨noText, anonymous⟩
      · rcases salvageSequence_isSome dict with
          ⟨⟨number, isNumber, positive⟩, numbered⟩ | ⟨noNumber, unnumbered⟩
        · rw [isText, isNumber]
          exact iff_of_true (.present nonempty positive) (iff_of_true identified numbered)
        · rw [isText, noNumber]
          exact iff_of_false (by rintro ⟨⟩) fun both => unnumbered (both.mp identified)
      · rcases salvageSequence_isSome dict with
          ⟨⟨number, isNumber, positive⟩, numbered⟩ | ⟨noNumber, unnumbered⟩
        · rw [noText, isNumber]
          exact iff_of_false (by rintro ⟨⟩) fun both => anonymous (both.mpr numbered)
        · rw [noText, noNumber]
          exact iff_of_true .absent (iff_of_false anonymous unnumbered)
  · next notEnvelope =>
      apply iff_of_true .absent
      rintro ⟨dict, rfl, _⟩
      exact notEnvelope dict rfl

/-- What validation lets pass has both halves. -/
theorem not_halfCorrelated_of_valid {command : CommandEnvelope M}
    (valid : validateCommandEnvelope M object = .ok command) : ¬HalfCorrelated object := by
  rintro ⟨dict, rfl, half⟩
  change CommandEnvelope.postInit M dict = _ at valid
  obtain ⟨_, _, valid⟩ := bind_eq_ok valid
  obtain ⟨_, _, valid⟩ := bind_eq_ok valid
  obtain ⟨name, _, valid⟩ := bind_eq_ok valid
  split at valid
  · obtain ⟨_, _, valid⟩ := bind_eq_ok valid
    obtain ⟨_, isSessionId, valid⟩ := bind_eq_ok valid
    obtain ⟨text, identified, valid⟩ := bind_eq_ok valid
    obtain ⟨_, isSequence, valid⟩ := bind_eq_ok valid
    obtain ⟨number, numbered, valid⟩ := bind_eq_ok valid
    rw [requireNonemptyString_ok identified] at isSessionId
    rw [requireInteger_ok numbered] at isSequence
    exact half (iff_of_true ⟨text.1, PyDict.getattr_eq_ok.mp isSessionId, text.2⟩
      ⟨number.1, PyDict.getattr_eq_ok.mp isSequence, number.2⟩)
  · obtain ⟨_, raised, _⟩ := bind_eq_ok valid
    cases raised

/-- A half correlated object is answered with a rejection. -/
theorem malformed_of_halfCorrelated (half : HalfCorrelated object) :
    ∃ exception, validateCommandEnvelope M object = .error exception ∧
      handleCatches exception = true := by
  cases validated : validateCommandEnvelope M object with
  | ok command => exact absurd half (not_halfCorrelated_of_valid validated)
  | error exception =>
      refine ⟨exception, rfl, (validateCommandEnvelope_caught_iff object).mpr ?_ _ validated⟩
      rintro ⟨dict, payload, rfl, header, _⟩
      obtain ⟨other, same, notBoth⟩ := half
      cases same
      exact notBoth (iff_of_true header.sessionId header.sequence)

/-! ## The events of a call -/

theorem whole_of_command (command : CommandEnvelope M) :
    WholeCorrelation (some command.sessionId) (some command.sequence) :=
  .present command.sessionIdNonempty command.sequencePositive

theorem commandTransition_whole (gateway : VrGateway M) (command : CommandEnvelope M)
    (target : GatewayState) (nowNs : ℤ) :
    ∀ event ∈ gateway.commandTransition command target nowNs, event.Whole := by
  unfold commandTransition transitionEvents
  split
  · simp
  · simpa [OutputEvent.Whole] using whole_of_command command

/-- The session's own correlation is whole. -/
theorem SessionShape.whole (shape : SessionShape gateway) :
    WholeCorrelation gateway.activeSessionId gateway.lastSequence := by
  cases shape with
  | closed _ noSession noSequence =>
      rw [noSession, noSequence]
      exact .absent
  | opened _ _ _ _ _ _ active last _ _ _ _ nonempty positive =>
      rw [active, last]
      exact .present nonempty positive

theorem evaluateDeadline_whole (shape : SessionShape gateway) (nowNs : ℤ) :
    ∀ event ∈ (gateway.evaluateDeadline nowNs).2, event.Whole := by
  generalize result : gateway.evaluateDeadline nowNs = outcome
  have cases := gateway.evaluateDeadline_cases nowNs
  rw [result] at cases
  cases cases with
  | quiet _ => simp
  | handshake _ _ => simpa [handshakeEvents, OutputEvent.Whole] using shape.whole
  | watchdog _ _ => simpa [watchdogEvents, OutputEvent.Whole] using shape.whole

/-- All events of the outcome are whole. -/
def AllWhole (outcome : Outcome K) : Prop :=
  ∀ events, outcome = .ok events → ∀ event ∈ events, event.Whole

omit [Field K] [LinearOrder K] in
theorem AllWhole.snoc {events : List (OutputEvent K)} {event : OutputEvent K}
    (early : ∀ other ∈ events, other.Whole) (last : event.Whole) :
    AllWhole (.ok (events ++ [event])) := by
  rintro _ ⟨⟩ other membership
  rcases List.mem_append.mp membership with inside | isLast
  · exact early other inside
  · rwa [List.mem_singleton.mp isLast]

theorem handle_whole (shape : SessionShape gateway) (notHalf : ¬HalfCorrelated object) :
    AllWhole (gateway.handle object nowNs).2 := by
  generalize result : gateway.handle object nowNs = outcome
  have cases := gateway.handle_cases object nowNs
  rw [result] at cases
  cases cases with
  | raised | orientationRaised | updateRaised => rintro _ ⟨⟩
  | malformed =>
      exact .snoc (evaluateDeadline_whole shape nowNs)
        ((rejectUntrusted_whole_iff object _ nowNs).mpr notHalf)
  | rejected command =>
      exact .snoc (evaluateDeadline_whole shape nowNs) (whole_of_command command)
  | emergencyStop command =>
      exact .snoc (commandTransition_whole gateway command _ nowNs) (whole_of_command command)
  | sessionStart command =>
      rintro _ ⟨⟩
      exact commandTransition_whole gateway command _ nowNs
  | modeSet =>
      rintro _ ⟨⟩
      simp
  | headRecenter command =>
      rintro _ ⟨⟩
      exact commandTransition_whole gateway command _ nowNs
  | headPose command =>
      rintro _ ⟨⟩
      simpa [OutputEvent.Whole, targetEvent] using whole_of_command command
  | sessionStop command =>
      exact .snoc (commandTransition_whole gateway command _ nowNs) (whole_of_command command)

/-- In every state a run reaches, polls return whole events, and so does `handle` unless
it is handed an envelope that has one half of a correlation. -/
theorem allWhole_iff (neckController : NeckController M) (config : GatewayConfig)
    (history : History K) (gateway : VrGateway M)
    (run : Machine.Run step (new neckController config) history gateway)
    (object : PyObject K) (nowNs : ℤ) :
    AllWhole (gateway.poll nowNs).2 ∧
      (AllWhole (gateway.handle object nowNs).2 ↔ ¬HalfCorrelated object) := by
  have shape := sessionShape_of_run run
  constructor
  · rintro _ ⟨⟩
    exact evaluateDeadline_whole shape nowNs
  · refine ⟨fun whole half => ?_, handle_whole shape⟩
    obtain ⟨exception, invalid, caught⟩ := malformed_of_halfCorrelated (M := M) half
    have answered : (gateway.handle object nowNs).2 =
        .ok ((gateway.evaluateDeadline nowNs).2 ++
          [rejectUntrusted object .invalidPayload nowNs]) := by
      unfold handle
      simp [invalid, caught]
    have isWhole := whole _ answered _ (List.mem_append_right _ (List.mem_singleton_self _))
    exact (rejectUntrusted_whole_iff object _ nowNs).mp isWhole half

/-- An envelope with a session id and the sequence number 0. -/
def unnumberedStop : PyDict ℚ :=
  [(.schemaVersion, .str schemaVersion), (.command, .commandName .sessionStop),
    (.sessionId, .str (py "s")), (.sequence, .int 0), (.timestampMs, .int 0),
    (.payload, .instanceOf .emptyPayload [])]

/-- The example session behind its recenter, and an envelope whose number has been written
over. -/
theorem allWhole_iff_unnumbered :
    let object : PyObject ℚ := .instanceOf .commandEnvelope unnumberedStop
    AllWhole (Session.opened.2.poll 200000000).2 ∧
      (AllWhole (Session.opened.2.handle object 200000000).2 ↔ ¬HalfCorrelated object) :=
  allWhole_iff Session.controller {} _ _ Session.opened_run _ _

/-- Not every event of a new gateway is whole: the rejection of an envelope with the
sequence number 0 shows its session id and no sequence. -/
theorem not_always_allWhole :
    ¬∀ (neckController : NeckController FloatMath.axis) (config : GatewayConfig)
      (gateway : VrGateway FloatMath.axis) (object : PyObject ℚ) (nowNs : ℤ),
      Machine.Reachable step (new neckController config) gateway →
      AllWhole (gateway.handle object nowNs).2 := by
  intro always
  have whole := always Session.controller {} _ (.instanceOf .commandEnvelope unnumberedStop) 0
    ⟨[], .nil⟩ _ rfl _ (List.mem_singleton_self _)
  cases whole

end VrGateway

end ValeraControlTower

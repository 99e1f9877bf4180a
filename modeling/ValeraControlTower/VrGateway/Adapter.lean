import ValeraControlTower.VrGateway.EventEncoding

/-!
# `robot/vr_gateway/adapter.py`

`handle_command` is written over any `handle`, so that what it hands on can be
observed.  A run feeds raw strings and polls to an adapter, each at a clock reading;
the session fields stay fit for the wire throughout.
-/

namespace ValeraControlTower

open Wire

variable {K : Type} [Field K] [LinearOrder K] {M : FloatMath K}

structure VrGatewayAdapter (M : FloatMath K) where
  gateway : VrGateway M

namespace VrGatewayAdapter

/-- The object handed to the gateway: the decoded command, or the opaque sentinel when
the decoder raises a `WireError`. -/
def receive (M : FloatMath K) (raw : PyStr) : Except PyException (PyObject K) :=
  match decodeCommand M raw with
  | .ok command => .ok command.toObject
  | .error (.wireError _) => .ok .other
  | .error exception => .error exception

/-- `encode_events` on what the gateway returned. -/
def publish (M : FloatMath K) (outcome : Outcome K) : Except PyException (List (List Char)) := do
  let events ← outcome
  encodeEvents M (events.map OutputEvent.toObject)

/-- `handle_command` with the `handle` of any gateway. -/
def handleCommandVia {Gateway : Type} (M : FloatMath K)
    (handle : Gateway → PyObject K → Gateway × Outcome K) (gateway : Gateway) (raw : PyStr) :
    Gateway × Except PyException (List (List Char)) :=
  match receive M raw with
  | .error exception => (gateway, .error exception)
  | .ok command =>
      let (gateway, outcome) := handle gateway command
      (gateway, publish M outcome)

/-- `handle_command`. -/
def handleCommand (adapter : VrGatewayAdapter M) (raw : PyStr) (nowNs : ℤ) :
    VrGatewayAdapter M × Except PyException (List (List Char)) :=
  let (gateway, texts) := handleCommandVia M
    (fun gateway command => gateway.handle command nowNs) adapter.gateway raw
  (⟨gateway⟩, texts)

/-- `poll`. -/
def poll (adapter : VrGatewayAdapter M) (nowNs : ℤ) :
    VrGatewayAdapter M × Except PyException (List (List Char)) :=
  let (gateway, outcome) := adapter.gateway.poll nowNs
  (⟨gateway⟩, publish M outcome)

/-- The objects `handle_command` hands to the gateway, in order. -/
def handed (M : FloatMath K) (raw : PyStr) : List (PyObject K) :=
  (handleCommandVia M (fun calls command => (calls ++ [command], .ok [])) [] raw).1

/-! ## Runs -/

inductive Delivery where
  | command (raw : PyStr)
  | poll

/-- A call and the clock reading it takes. -/
structure Arrival where
  delivery : Delivery
  nowNs : ℤ

abbrev Published := Except PyException (List (List Char))

abbrev Transcript := List (Machine.Entry Arrival Published)

def step (adapter : VrGatewayAdapter M) (arrival : Arrival) : VrGatewayAdapter M × Published :=
  match arrival.delivery with
  | .command raw => adapter.handleCommand raw arrival.nowNs
  | .poll => adapter.poll arrival.nowNs

/-- Every clock reading of the run fits the wire. -/
def Clocked (transcript : Transcript) : Prop :=
  ∀ entry ∈ transcript, InRange 0 entry.input.nowNs

/-- A run of a newly made adapter. -/
def IsRun (controller : NeckController M) (config : GatewayConfig) (transcript : Transcript)
    (adapter : VrGatewayAdapter M) : Prop :=
  Machine.Run step ⟨VrGateway.new controller config⟩ transcript adapter

/-! ## What the gateway is handed -/

variable {admits : PyStr → Prop}

/-- The objects that `receive` returns, the session ids of commands being admitted. -/
inductive Received (M : FloatMath K) (admits : PyStr → Prop) : PyObject K → Prop where
  | command {command : CommandEnvelope M} (admitted : admits command.sessionId)
      (visible : isspace command.sessionId = false) (bounded : command.sequence ≤ maxInt64) :
      Received M admits command.toObject
  | sentinel : Received M admits .other

/-- A string that is decoded to a command has an admitted session id. -/
def Admits (M : FloatMath K) (admits : PyStr → Prop) (raw : PyStr) : Prop :=
  ∀ command, decodeCommand M raw = .ok command → admits command.sessionId

/-- The raw string of the call, if it is one, is admitted. -/
def Arrival.Admitted (M : FloatMath K) (admits : PyStr → Prop) (arrival : Arrival) : Prop :=
  match arrival.delivery with
  | .command raw => Admits M admits raw
  | .poll => True

theorem decodeDocument_visible {document : PyJson K} {command : CommandEnvelope M}
    (decoded : decodeDocument M document = .ok command) :
    isspace command.sessionId = false ∧ command.sequence ≤ maxInt64 := by
  cases document with
  | null | bool _ | num _ | str _ | arr _ => cases decoded
  | obj members =>
      obtain ⟨header, _, decoded⟩ := bind_eq_ok decoded
      obtain ⟨payload, _, decoded⟩ := bind_eq_ok decoded
      cases decoded
      exact ⟨header.sessionIdVisible, header.sequenceBounded⟩

theorem receive_received {raw : PyStr} (admitted : Admits M admits raw) {object : PyObject K}
    (received : receive M raw = .ok object) : Received M admits object := by
  unfold receive at received
  split at received
  · next command decoded =>
      cases received
      have isAdmitted := admitted command decoded
      obtain ⟨_, _, decoded⟩ := bind_eq_ok decoded
      obtain ⟨_, _, decoded⟩ := bind_eq_ok decoded
      obtain ⟨visible, bounded⟩ := decodeDocument_visible decoded
      exact .command isAdmitted visible bounded
  · cases received
    exact .sentinel
  · cases received

/-- The command that validation returns is the one that was decoded. -/
theorem Received.valid {object : PyObject K} {command : CommandEnvelope M}
    (received : Received M admits object) (valid : validateCommandEnvelope M object = .ok command) :
    Correlated admits (some command.sessionId) (some command.sequence) := by
  cases received with
  | sentinel => cases valid
  | command admitted visible bounded =>
      rw [validateCommandEnvelope_toObject] at valid
      cases valid
      exact .present admitted command.sessionIdNonempty visible
        ⟨command.sequencePositive, bounded⟩

/-- Validating what is handed over raises nothing `handle` does not catch. -/
theorem Received.caught {object : PyObject K} {exception : PyException}
    (received : Received M admits object)
    (invalid : validateCommandEnvelope M object = .error exception) :
    handleCatches exception = true := by
  cases received with
  | sentinel =>
      cases invalid
      rfl
  | command =>
      rw [validateCommandEnvelope_toObject] at invalid
      cases invalid

/-! ## The session fields stay fit for the wire -/

/-- The gateway's own correlation. -/
def Fit (admits : PyStr → Prop) (gateway : VrGateway M) : Prop :=
  Correlated admits gateway.activeSessionId gateway.lastSequence

theorem fit_new (controller : NeckController M) (config : GatewayConfig) :
    Fit admits (VrGateway.new controller config) :=
  .absent

/-- A deadline leaves the session fields fit, and so are its events. -/
theorem evaluateDeadline_fit {gateway : VrGateway M} (fit : Fit admits gateway) (nowNs : ℤ) :
    Fit admits (gateway.evaluateDeadline nowNs).1 ∧
      ∀ event ∈ (gateway.evaluateDeadline nowNs).2, Encodable admits nowNs event := by
  generalize result : gateway.evaluateDeadline nowNs = outcome
  have cases := gateway.evaluateDeadline_cases nowNs
  rw [result] at cases
  cases cases with
  | quiet _ => exact ⟨fit, by simp⟩
  | handshake _ _ =>
      refine ⟨.absent, ?_⟩
      simp only [VrGateway.handshakeEvents, List.forall_mem_singleton]
      exact .gatewayState fit
  | watchdog _ _ =>
      refine ⟨.absent, ?_⟩
      simp only [VrGateway.watchdogEvents, List.forall_mem_cons]
      exact ⟨.gatewayState fit, .safetyStop fit, by simp⟩

theorem commandTransition_encodable {gateway : VrGateway M} {command : CommandEnvelope M}
    (correlated : Correlated admits (some command.sessionId) (some command.sequence))
    (target : GatewayState) (nowNs : ℤ) :
    ∀ event ∈ gateway.commandTransition command target nowNs, Encodable admits nowNs event := by
  unfold VrGateway.commandTransition VrGateway.transitionEvents
  split
  · simp
  · simp only [List.forall_mem_singleton]
    exact .gatewayState correlated

/-- Whatever the gateway is handed, its session fields stay fit and every event it
returns can be encoded. -/
theorem handle_fit {gateway : VrGateway M} (fit : Fit admits gateway) {object : PyObject K}
    (received : Received M admits object) (nowNs : ℤ) :
    Fit admits (gateway.handle object nowNs).1 ∧
      ∀ events, (gateway.handle object nowNs).2 = .ok events →
        ∀ event ∈ events, Encodable admits nowNs event := by
  obtain ⟨deadlineFit, deadlineEncodable⟩ := evaluateDeadline_fit fit nowNs
  generalize result : gateway.handle object nowNs = outcome
  have cases := gateway.handle_cases object nowNs
  rw [result] at cases
  cases cases with
  | raised exception invalid uncaught =>
      refine ⟨fit, ?_⟩
      rintro _ ⟨⟩
  | malformed exception invalid caught =>
      refine ⟨deadlineFit, ?_⟩
      rintro _ ⟨⟩ event membership
      rcases List.mem_append.mp membership with early | last
      · exact deadlineEncodable event early
      · rw [List.mem_singleton.mp last]
        cases received with
        | sentinel => exact .commandRejected .absent
        | command =>
            rw [validateCommandEnvelope_toObject] at invalid
            cases invalid
  | emergencyStop command valid _ =>
      have correlated := received.valid valid
      refine ⟨.absent, ?_⟩
      rintro _ ⟨⟩ event membership
      rcases List.mem_append.mp membership with early | last
      · exact commandTransition_encodable correlated _ _ event early
      · rw [List.mem_singleton.mp last]
        exact .safetyStop correlated
  | rejected command code valid _ =>
      refine ⟨deadlineFit, ?_⟩
      rintro _ ⟨⟩ event membership
      rcases List.mem_append.mp membership with early | last
      · exact deadlineEncodable event early
      · rw [List.mem_singleton.mp last]
        exact .commandRejected (received.valid valid)
  | sessionStart command valid _ _ _ _ _ =>
      have correlated := received.valid valid
      refine ⟨correlated, ?_⟩
      rintro _ ⟨⟩
      exact commandTransition_encodable correlated _ _
  | modeSet command valid _ _ inSession =>
      refine ⟨?_, ?_⟩
      · have correlated := received.valid valid
        rwa [← inSession.active] at correlated
      · rintro _ ⟨⟩
        simp
  | headRecenter command orientation valid _ _ inSession _ _ =>
      have correlated := received.valid valid
      refine ⟨?_, ?_⟩
      · rwa [← inSession.active] at correlated
      · rintro _ ⟨⟩
        exact commandTransition_encodable correlated _ _
  | headPose command orientation target valid _ _ inSession _ _ _ =>
      have correlated := received.valid valid
      refine ⟨?_, ?_⟩
      · rwa [← inSession.active] at correlated
      · rintro _ ⟨⟩
        simp only [List.forall_mem_singleton]
        exact .neckTarget _ _ correlated
  | sessionStop command valid _ _ _ =>
      have correlated := received.valid valid
      refine ⟨.absent, ?_⟩
      rintro _ ⟨⟩ event membership
      rcases List.mem_append.mp membership with early | last
      · exact commandTransition_encodable correlated _ _ event early
      · rw [List.mem_singleton.mp last]
        exact .safetyStop correlated
  | orientationRaised =>
      refine ⟨fit, ?_⟩
      rintro _ ⟨⟩
  | updateRaised =>
      refine ⟨fit, ?_⟩
      rintro _ ⟨⟩

theorem step_fit {adapter : VrGatewayAdapter M} (fit : Fit admits adapter.gateway)
    {arrival : Arrival} (admitted : arrival.Admitted M admits) :
    Fit admits (adapter.step arrival).1.gateway := by
  obtain ⟨delivery, nowNs⟩ := arrival
  cases delivery with
  | poll => exact (evaluateDeadline_fit fit nowNs).1
  | command raw =>
      simp only [step, handleCommand, handleCommandVia]
      cases received : receive M raw with
      | error exception => exact fit
      | ok object => exact (handle_fit fit (receive_received admitted received) nowNs).1

/-- The session fields of every adapter that a run ends in. -/
theorem fit_of_run {controller : NeckController M} {config : GatewayConfig}
    {transcript : Transcript} {adapter : VrGatewayAdapter M}
    (run : IsRun controller config transcript adapter)
    (admitted : ∀ entry ∈ transcript, entry.input.Admitted M admits) :
    Fit admits adapter.gateway := by
  induction run with
  | nil => exact fit_new controller config
  | @snoc history adapter arrival _ inductionHypothesis =>
      refine step_fit (inductionHypothesis fun entry membership => ?_) ?_
      · exact admitted entry (by simp [membership])
      · exact admitted ⟨arrival, (adapter.step arrival).2⟩ (by simp)

end VrGatewayAdapter

end ValeraControlTower

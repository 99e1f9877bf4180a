import ValeraControlTower.Library.Machine
import ValeraControlTower.VrGateway.Transitions

/-!
# Runs of the gateway

A run feeds `handle` and `poll` calls to a gateway, each at an arbitrary clock
reading.  `step_cases` restates `handle_cases` in terms of the history entry the call
leaves: which command it accepted, which neck targets it returned, and what became of
the session.
-/

namespace ValeraControlTower

variable {K : Type} [Field K] [LinearOrder K] {M : FloatMath K}

inductive Call (K : Type) where
  | handle (command : PyObject K)
  | poll

/-- A call and the clock reading it takes. -/
structure Stimulus (K : Type) where
  call : Call K
  nowNs : ℤ

abbrev CallEntry (K : Type) := Machine.Entry (Stimulus K) (Outcome K)

abbrev History (K : Type) := List (CallEntry K)

def VrGateway.step (gateway : VrGateway M) (stimulus : Stimulus K) :
    VrGateway M × Outcome K :=
  match stimulus.call with
  | .handle command => gateway.handle command stimulus.nowNs
  | .poll => gateway.poll stimulus.nowNs

namespace OutputEvent

def isRejection : OutputEvent K → Bool
  | commandRejected _ => true
  | _ => false

def target? : OutputEvent K → Option (NeckTargetEvent K)
  | neckTarget event => some event
  | _ => none

end OutputEvent

/-- The events a call returned; none when it raised. -/
def returned (entry : CallEntry K) : List (OutputEvent K) :=
  match entry.output with
  | .ok events => events
  | .error _ => []

/-- The neck targets a call returned. -/
def targets (entry : CallEntry K) : List (NeckTargetEvent K) :=
  (returned entry).filterMap OutputEvent.target?

omit [Field K] [LinearOrder K] in
theorem mem_targets {entry : CallEntry K} {target : NeckTargetEvent K} :
    target ∈ targets entry ↔ .neckTarget target ∈ returned entry := by
  unfold targets
  rw [List.mem_filterMap]
  constructor
  · rintro ⟨event, membership, isTarget⟩
    cases event with
    | neckTarget event =>
        cases isTarget
        exact membership
    | gatewayState event => cases isTarget
    | safetyStop event => cases isTarget
    | commandRejected event => cases isTarget
  · exact fun membership => ⟨_, membership, rfl⟩

/-- The valid envelope handed to `handle`, if the call was one. -/
def validCommand (M : FloatMath K) (stimulus : Stimulus K) : Option (CommandEnvelope M) :=
  match stimulus.call with
  | .handle object => (validateCommandEnvelope M object).toOption
  | .poll => none

/-- The command a call accepted: `handle` returned without a rejection. -/
def accepted (M : FloatMath K) (entry : CallEntry K) : Option (CommandEnvelope M) :=
  match entry.output with
  | .ok events =>
      if events.any OutputEvent.isRejection then none else validCommand M entry.input
  | .error _ => none

/-- The call accepted a command of that name and session. -/
def Accepts (M : FloatMath K) (entry : CallEntry K) (name : CommandName)
    (sessionId : PyStr) : Prop :=
  ∃ command, accepted M entry = some command ∧
    command.command = name ∧ command.sessionId = sessionId

/-- The call was `handle` on a valid `emergency_stop`. -/
def IsEmergencyStop (M : FloatMath K) (stimulus : Stimulus K) : Prop :=
  ∃ command, validCommand M stimulus = some command ∧
    VrGateway.isEmergencyStop command = true

theorem validCommand_of_accepted {entry : CallEntry K} {command : CommandEnvelope M}
    (taken : accepted M entry = some command) :
    validCommand M entry.input = some command := by
  unfold accepted at taken
  split at taken
  · split at taken
    · cases taken
    · exact taken
  · cases taken

namespace VrGateway

theorem isEmergencyStop_command {command : CommandEnvelope M}
    (emergency : isEmergencyStop command = true) : command.command = .emergencyStop := by
  unfold isEmergencyStop at emergency
  split at emergency
  · assumption
  · cases emergency

theorem isEmergencyStop_eq_false {command : CommandEnvelope M}
    (ordinary : command.command ≠ .emergencyStop) : isEmergencyStop command = false := by
  by_contra emergency
  exact ordinary (isEmergencyStop_command (by simpa using emergency))

/-! ## Rejections and targets among the events of a call -/

omit [Field K] [LinearOrder K] in
@[simp]
theorem transitionEvents_any_isRejection (source target : GatewayState)
    (sessionId : Option PyStr) (sequence : Option ℤ) (nowNs : ℤ) :
    (transitionEvents (K := K) source target sessionId sequence nowNs).any
      OutputEvent.isRejection = false := by
  unfold transitionEvents
  split <;> rfl

omit [Field K] [LinearOrder K] in
@[simp]
theorem transitionEvents_target? (source target : GatewayState)
    (sessionId : Option PyStr) (sequence : Option ℤ) (nowNs : ℤ) :
    (transitionEvents (K := K) source target sessionId sequence nowNs).filterMap
      OutputEvent.target? = [] := by
  unfold transitionEvents
  split <;> rfl

@[simp]
theorem evaluateDeadline_target? (gateway : VrGateway M) (nowNs : ℤ) :
    (gateway.evaluateDeadline nowNs).2.filterMap OutputEvent.target? = [] := by
  generalize result : gateway.evaluateDeadline nowNs = outcome
  have cases := gateway.evaluateDeadline_cases nowNs
  rw [result] at cases
  cases cases <;> rfl

/-- What one step does to the gateway, told by the entry it leaves. -/
inductive StepCase (gateway : VrGateway M) (entry : CallEntry K) : VrGateway M → Prop where
  | unchanged (refused : accepted M entry = none) (still : targets entry = [])
      (ordinary : ¬IsEmergencyStop M entry.input) :
      StepCase gateway entry gateway
  | expired {state : GatewayState}
      (stopped : state = .idle ∨ state = .safeStopped)
      (refused : accepted M entry = none) (still : targets entry = [])
      (ordinary : ¬IsEmergencyStop M entry.input)
      (live : gateway.state = .awaitingRecenter ∨ gateway.state = .headActive) :
      StepCase gateway entry (gateway.endSession state)
  | updateRaised {orientation : Quaternion M}
      (refused : accepted M entry = none) (still : targets entry = [])
      (ordinary : ¬IsEmergencyStop M entry.input)
      (active : gateway.state = .headActive)
      (raised : ∃ exception,
        (gateway.neckController.update orientation entry.input.nowNs).2 = .error exception) :
      StepCase gateway entry { gateway with
        neckController := (gateway.neckController.update orientation entry.input.nowNs).1 }
  | emergencyStop {command : CommandEnvelope M}
      (taken : accepted M entry = some command) (still : targets entry = [])
      (emergency : isEmergencyStop command = true) :
      StepCase gateway entry (gateway.endSession .estopLatched)
  | sessionStart {command : CommandEnvelope M}
      (taken : accepted M entry = some command) (still : targets entry = [])
      (ordinary : ¬IsEmergencyStop M entry.input)
      (named : command.command = .sessionStart)
      (notDue : ¬gateway.DeadlineDue entry.input.nowNs)
      (unlatched : gateway.state ≠ .estopLatched)
      (first : command.sequence = 1)
      (fresh : command.sessionId ∉ gateway.usedSessionIds) :
      StepCase gateway entry (gateway.startSession command entry.input.nowNs)
  | modeSet {command : CommandEnvelope M}
      (taken : accepted M entry = some command) (still : targets entry = [])
      (ordinary : ¬IsEmergencyStop M entry.input)
      (named : command.command = .modeSet)
      (notDue : ¬gateway.DeadlineDue entry.input.nowNs)
      (inSession : gateway.InSession command) :
      StepCase gateway entry (gateway.accept command entry.input.nowNs)
  | headRecenter {command : CommandEnvelope M}
      {orientation : Quaternion M}
      (taken : accepted M entry = some command) (still : targets entry = [])
      (ordinary : ¬IsEmergencyStop M entry.input)
      (named : command.command = .headRecenter)
      (notDue : ¬gateway.DeadlineDue entry.input.nowNs)
      (inSession : gateway.InSession command)
      (live : gateway.state = .awaitingRecenter ∨ gateway.state = .headActive) :
      StepCase gateway entry (gateway.recenterHead command orientation entry.input.nowNs)
  | headPose {command : CommandEnvelope M}
      {orientation : Quaternion M} {target : NeckTarget K}
      (taken : accepted M entry = some command)
      (moved : targets entry = [targetEvent command target entry.input.nowNs])
      (ordinary : ¬IsEmergencyStop M entry.input)
      (named : command.command = .headPose)
      (notDue : ¬gateway.DeadlineDue entry.input.nowNs)
      (inSession : gateway.InSession command)
      (active : gateway.state = .headActive)
      (updated : (gateway.neckController.update orientation entry.input.nowNs).2 =
        .ok target) :
      StepCase gateway entry (gateway.moveHead command orientation entry.input.nowNs)
  | sessionStop {command : CommandEnvelope M}
      (taken : accepted M entry = some command) (still : targets entry = [])
      (ordinary : ¬IsEmergencyStop M entry.input)
      (named : command.command = .sessionStop)
      (notDue : ¬gateway.DeadlineDue entry.input.nowNs)
      (inSession : gateway.InSession command) :
      StepCase gateway entry (gateway.endSession .idle)

/-- A call that accepts nothing and returns no target ends at most the session, and
only by a deadline. -/
theorem StepCase.of_evaluateDeadline (gateway : VrGateway M) {entry : CallEntry K}
    (refused : accepted M entry = none) (still : targets entry = [])
    (ordinary : ¬IsEmergencyStop M entry.input) :
    StepCase gateway entry (gateway.evaluateDeadline entry.input.nowNs).1 := by
  generalize result : gateway.evaluateDeadline entry.input.nowNs = outcome
  have cases := gateway.evaluateDeadline_cases entry.input.nowNs
  rw [result] at cases
  cases cases with
  | quiet _ => exact .unchanged refused still ordinary
  | handshake awaiting _ =>
      exact .expired (.inl rfl) refused still ordinary (.inl awaiting)
  | watchdog active _ => exact .expired (.inr rfl) refused still ordinary (.inr active)

section HandleEntry

variable {object : PyObject K} {nowNs : ℤ} {command : CommandEnvelope M}

theorem not_isEmergencyStop_of_invalid {exception : PyException}
    (invalid : validateCommandEnvelope M object = .error exception) :
    ¬IsEmergencyStop M ⟨.handle object, nowNs⟩ := by
  simp [IsEmergencyStop, validCommand, invalid, Except.toOption]

theorem not_isEmergencyStop_of_valid
    (valid : validateCommandEnvelope M object = .ok command)
    (ordinary : isEmergencyStop command = false) :
    ¬IsEmergencyStop M ⟨.handle object, nowNs⟩ := by
  simp [IsEmergencyStop, validCommand, valid, Except.toOption, ordinary]

theorem not_isEmergencyStop_of_named
    (valid : validateCommandEnvelope M object = .ok command)
    (named : command.command ≠ .emergencyStop) :
    ¬IsEmergencyStop M ⟨.handle object, nowNs⟩ :=
  not_isEmergencyStop_of_valid valid (isEmergencyStop_eq_false named)

theorem accepted_of_valid (valid : validateCommandEnvelope M object = .ok command)
    {events : List (OutputEvent K)} (clean : events.any OutputEvent.isRejection = false) :
    accepted M ⟨⟨.handle object, nowNs⟩, .ok events⟩ = some command := by
  simp [accepted, validCommand, valid, Except.toOption, clean]

theorem accepted_of_rejection (stimulus : Stimulus K) {events : List (OutputEvent K)}
    {event : OutputEvent K} (rejection : event.isRejection = true) :
    accepted M ⟨stimulus, .ok (events ++ [event])⟩ = none := by
  simp [accepted, rejection]

end HandleEntry

theorem step_cases (gateway : VrGateway M) (stimulus : Stimulus K) :
    StepCase gateway ⟨stimulus, (gateway.step stimulus).2⟩ (gateway.step stimulus).1 := by
  obtain ⟨call, nowNs⟩ := stimulus
  cases call with
  | poll =>
      refine StepCase.of_evaluateDeadline gateway ?_ ?_ ?_
      · simp [accepted, validCommand, step, poll]
      · simp [targets, returned, step, poll]
      · simp [IsEmergencyStop, validCommand]
  | handle object =>
      simp only [step]
      generalize result : gateway.handle object nowNs = outcome
      have cases := gateway.handle_cases object nowNs
      rw [result] at cases
      cases cases with
      | raised exception invalid uncaught =>
          exact .unchanged rfl rfl (not_isEmergencyStop_of_invalid invalid)
      | malformed exception invalid caught =>
          refine StepCase.of_evaluateDeadline gateway
            (accepted_of_rejection _ rfl) ?_
            (not_isEmergencyStop_of_invalid invalid)
          simp [targets, returned, rejectUntrusted, OutputEvent.target?]
      | emergencyStop command valid emergency =>
          refine .emergencyStop (accepted_of_valid valid ?_) ?_ emergency
          · simp [commandTransition, OutputEvent.isRejection]
          · simp [targets, returned, commandTransition, OutputEvent.target?]
      | rejected command code valid ordinary =>
          refine StepCase.of_evaluateDeadline gateway
            (accepted_of_rejection _ rfl) ?_
            (not_isEmergencyStop_of_valid valid ordinary)
          simp [targets, returned, reject, OutputEvent.target?]
      | sessionStart command valid named notDue unlatched first fresh =>
          refine .sessionStart
            (accepted_of_valid valid ?_) ?_
            (not_isEmergencyStop_of_named valid (by simp [named]))
            named notDue unlatched first fresh
          · simp [commandTransition]
          · simp [targets, returned, commandTransition]
      | modeSet command valid named notDue inSession =>
          exact .modeSet
            (accepted_of_valid valid rfl) rfl
            (not_isEmergencyStop_of_named valid (by simp [named])) named notDue inSession
      | headRecenter command orientation valid named notDue inSession live =>
          refine .headRecenter
            (accepted_of_valid valid ?_) ?_
            (not_isEmergencyStop_of_named valid (by simp [named])) named notDue inSession live
          · simp [commandTransition]
          · simp [targets, returned, commandTransition]
      | headPose command orientation target valid named notDue inSession active updated =>
          exact .headPose
            (accepted_of_valid valid rfl) rfl
            (not_isEmergencyStop_of_named valid (by simp [named]))
            named notDue inSession active updated
      | sessionStop command valid named notDue inSession =>
          refine .sessionStop
            (accepted_of_valid valid ?_) ?_
            (not_isEmergencyStop_of_named valid (by simp [named])) named notDue inSession
          · simp [commandTransition, OutputEvent.isRejection]
          · simp [targets, returned, commandTransition, OutputEvent.target?]
      | orientationRaised command exception valid ordinary notDue live =>
          exact .unchanged rfl rfl (not_isEmergencyStop_of_valid valid ordinary)
      | updateRaised command orientation exception valid ordinary notDue active updated =>
          exact .updateRaised rfl rfl
            (not_isEmergencyStop_of_valid valid ordinary) active ⟨exception, updated⟩

theorem StepCase.config_eq {gateway next : VrGateway M} {entry : CallEntry K}
    (outcome : StepCase gateway entry next) : next.config = gateway.config := by
  cases outcome <;> rfl

/-- Only an accepted `head.pose` returns a target, and it returns one. -/
theorem StepCase.targets_cases {gateway next : VrGateway M} {entry : CallEntry K}
    (outcome : StepCase gateway entry next) :
    targets entry = [] ∨ ∃ command orientation target,
      targets entry = [targetEvent command target entry.input.nowNs] ∧
      accepted M entry = some command ∧ command.command = .headPose ∧
      ¬gateway.DeadlineDue entry.input.nowNs ∧ gateway.InSession command ∧
      gateway.state = .headActive ∧
      (gateway.neckController.update orientation entry.input.nowNs).2 = .ok target := by
  cases outcome with
  | headPose taken moved _ named notDue inSession active updated =>
      exact .inr ⟨_, _, _, moved, taken, named, notDue, inSession, active, updated⟩
  | unchanged _ still => exact .inl still
  | expired _ _ still => exact .inl still
  | updateRaised _ still => exact .inl still
  | emergencyStop _ still => exact .inl still
  | sessionStart _ still => exact .inl still
  | modeSet _ still => exact .inl still
  | headRecenter _ still => exact .inl still
  | sessionStop _ still => exact .inl still

theorem StepCase.pose_of_emitted {gateway next : VrGateway M} {entry : CallEntry K}
    (outcome : StepCase gateway entry next) {event : NeckTargetEvent K}
    (emitted : event ∈ targets entry) :
    ∃ command orientation target, event = targetEvent command target entry.input.nowNs ∧
      accepted M entry = some command ∧ command.command = .headPose ∧
      ¬gateway.DeadlineDue entry.input.nowNs ∧ gateway.InSession command ∧
      gateway.state = .headActive ∧
      (gateway.neckController.update orientation entry.input.nowNs).2 = .ok target := by
  rcases outcome.targets_cases with still | ⟨command, orientation, target, moved, shown⟩
  · simp [still] at emitted
  · rw [moved, List.mem_singleton] at emitted
    exact ⟨command, orientation, target, emitted, shown⟩

/-- The timeouts are fixed for the life of a gateway. -/
theorem config_of_run {start final : VrGateway M} {history : History K}
    (run : Machine.Run step start history final) : final.config = start.config := by
  induction run with
  | nil => rfl
  | snoc input _ inductionHypothesis =>
      exact (step_cases _ input).config_eq.trans inductionHypothesis

theorem StepCase.neckConfig_eq {gateway next : VrGateway M} {entry : CallEntry K}
    (outcome : StepCase gateway entry next) :
    next.neckController.config = gateway.neckController.config := by
  cases outcome with
  | updateRaised => exact NeckController.update_config _ _ _
  | headRecenter => exact NeckController.recenter_config _ _ _ _
  | headPose => exact NeckController.update_config _ _ _
  | unchanged | expired | emergencyStop | sessionStart | modeSet | sessionStop => rfl

/-- So is the neck configuration. -/
theorem neckConfig_of_run {start final : VrGateway M} {history : History K}
    (run : Machine.Run step start history final) :
    final.neckController.config = start.neckController.config := by
  induction run with
  | nil => rfl
  | snoc input _ inductionHypothesis =>
      exact (step_cases _ input).neckConfig_eq.trans inductionHypothesis

end VrGateway

/-! ## An example session

One client starts a session, recenters and then looks straight back. -/

namespace Session

def neckConfig : ValidNeckControlConfig ℚ where
  centerPanDegrees := 0
  centerTiltDegrees := 0
  initialPanDegrees := 0
  initialTiltDegrees := 0
  panGain := 1
  tiltGain := 1
  filterTimeConstantSeconds := 0
  maxPanRateDegreesPerSecond := 30
  maxTiltRateDegreesPerSecond := 30
  minPanDegrees := -90
  maxPanDegrees := 90
  minTiltDegrees := -45
  maxTiltDegrees := 45
  constructed := by decide +kernel

def ahead : Quaternion FloatMath.axis :=
  ⟨0, 0, 0, 1, rfl, by decide +kernel⟩

def back : Quaternion FloatMath.axis :=
  ⟨0, 1, 0, 0, rfl, by decide +kernel⟩

def controller : NeckController FloatMath.axis where
  config := neckConfig
  reference := ahead
  basePanDegrees := 0
  baseTiltDegrees := 0
  filteredYawDegrees := 0
  filteredPitchDegrees := 0
  lastUpdateNs := 0
  lastTarget := ⟨0, 0⟩

def gateway : VrGateway FloatMath.axis := .new controller {}

theorem named_s : py "s" ≠ [] := by decide

theorem named_head : py "head" ≠ [] := by decide

/-- The command with that number, sent at as many milliseconds. -/
def command (name : CommandName) (sequence : ℤ) (payload : Payload FloatMath.axis)
    (positive : 1 ≤ sequence := by decide) : CommandEnvelope FloatMath.axis where
  schemaVersion := schemaVersion
  command := name
  sessionId := py "s"
  sequence := sequence
  timestampMs := sequence
  payload := payload
  schemaVersionExact := rfl
  sessionIdNonempty := named_s
  sequencePositive := positive
  timestampNonnegative := by omega

def start : CommandEnvelope FloatMath.axis :=
  command .sessionStart 1 (.sessionStart ⟨py "head", named_head⟩)

def recenter : CommandEnvelope FloatMath.axis :=
  command .headRecenter 2 (.pose ⟨questLocalFrame, ahead, none, rfl⟩)

def pose : CommandEnvelope FloatMath.axis :=
  command .headPose 3 (.pose ⟨questLocalFrame, back, none, rfl⟩)

def setting : CommandEnvelope FloatMath.axis :=
  command .modeSet 3 (.modeSet ⟨py "head", named_head⟩)

def latePose : CommandEnvelope FloatMath.axis :=
  command .headPose 4 (.pose ⟨questLocalFrame, back, none, rfl⟩)

def stop : CommandEnvelope FloatMath.axis :=
  command .emergencyStop 4 .empty

/-- The session up to its recenter, 100 ms after the start. -/
def opened : History ℚ × VrGateway FloatMath.axis :=
  Machine.execute VrGateway.step gateway
    [⟨.handle start.toObject, 0⟩, ⟨.handle recenter.toObject, 100000000⟩]

theorem opened_run : Machine.Run VrGateway.step gateway opened.1 opened.2 :=
  Machine.execute_run VrGateway.step gateway _

/-- The pose, 100 ms after the recenter. -/
def moved : CallEntry ℚ :=
  ⟨⟨.handle pose.toObject, 200000000⟩, (opened.2.step ⟨.handle pose.toObject, 200000000⟩).2⟩

end Session

/-! ## An example session in any arithmetic

The number of a command is one above that of the command before it. -/

namespace AnySession

/-- The command behind the one with that number. -/
def command (name : CommandName) (before : ℕ) (payload : Payload M) : CommandEnvelope M where
  schemaVersion := schemaVersion
  command := name
  sessionId := py "s"
  sequence := before + 1
  timestampMs := 0
  payload := payload
  schemaVersionExact := rfl
  sessionIdNonempty := Session.named_s
  sequencePositive := by omega
  timestampNonnegative := le_rfl

def start (M : FloatMath K) : CommandEnvelope M :=
  command .sessionStart 0 (.sessionStart ⟨py "head", Session.named_head⟩)

def look (name : CommandName) (before : ℕ) (orientation : Quaternion M) :
    CommandEnvelope M :=
  command name before (.pose ⟨questLocalFrame, orientation, none, rfl⟩)

/-- An active or awaiting session whose last command had that number, before a deadline. -/
structure Open (gateway : VrGateway M) (last : ℕ) (nowNs : ℤ) : Prop where
  live : gateway.state = .awaitingRecenter ∨ gateway.state = .headActive
  notDue : ¬gateway.DeadlineDue nowNs
  active : gateway.activeSessionId = some (py "s")
  sequence : gateway.lastSequence = some (last : ℤ)
  timestamp : gateway.lastTimestampMs = some 0

variable {gateway : VrGateway M} {orientation normalized : Quaternion M} {last : ℕ} {nowNs : ℤ}
  {target : NeckTarget K}

theorem step_start (controller : NeckController M) :
    ((VrGateway.new controller {}).step ⟨.handle (start M).toObject, 0⟩).1 =
      (VrGateway.new controller {}).startSession (start M) 0 := by
  simp only [VrGateway.step, VrGateway.handle, validateCommandEnvelope_toObject]
  rfl

theorem step_recenter (opened : Open gateway last nowNs)
    (isNormalized : orientation.normalized = .ok normalized) :
    gateway.step ⟨.handle (look .headRecenter last orientation).toObject, nowNs⟩ =
      (gateway.recenterHead (look .headRecenter last orientation) normalized nowNs,
        .ok (gateway.commandTransition
          (look .headRecenter last orientation) .headActive nowNs)) := by
  have moving : gateway.state ≠ .safeStopped := by
    rcases opened.live with awaiting | active
    · simp [awaiting]
    · simp [active]
  have unblocked : ¬(gateway.state ≠ .awaitingRecenter ∧ gateway.state ≠ .headActive) :=
    fun blocked => opened.live.elim blocked.1 blocked.2
  have routed : gateway.step ⟨.handle (look .headRecenter last orientation).toObject, nowNs⟩ =
      gateway.handleRecenter (look .headRecenter last orientation)
        ⟨questLocalFrame, orientation, none, rfl⟩ nowNs := by
    simp only [VrGateway.step, VrGateway.handle, validateCommandEnvelope_toObject,
      VrGateway.evaluateDeadline_of_notDue opened.notDue]
    simp [VrGateway.isEmergencyStop, look, command, VrGateway.route, moving, opened.active,
      opened.sequence, opened.timestamp]
  rw [routed, VrGateway.handleRecenter, if_neg unblocked, isNormalized]
  simp only [VrGateway.transition_eq]
  rfl

theorem step_pose (opened : Open gateway last nowNs) (active : gateway.state = .headActive)
    (isNormalized : orientation.normalized = .ok normalized)
    (updated : (gateway.neckController.update normalized nowNs).2 = .ok target) :
    gateway.step ⟨.handle (look .headPose last orientation).toObject, nowNs⟩ =
      (gateway.moveHead (look .headPose last orientation) normalized nowNs,
        .ok [.neckTarget
          (VrGateway.targetEvent (look .headPose last orientation) target nowNs)]) := by
  have routed : gateway.step ⟨.handle (look .headPose last orientation).toObject, nowNs⟩ =
      gateway.handlePose (look .headPose last orientation)
        ⟨questLocalFrame, orientation, none, rfl⟩ nowNs := by
    simp only [VrGateway.step, VrGateway.handle, validateCommandEnvelope_toObject,
      VrGateway.evaluateDeadline_of_notDue opened.notDue]
    simp [VrGateway.isEmergencyStop, look, command, VrGateway.route, active, opened.active,
      opened.sequence, opened.timestamp]
  rw [routed, VrGateway.handlePose, if_neg (not_not.mpr active), isNormalized]
  dsimp only
  rw [updated]
  rfl

theorem open_of_start (controller : NeckController M) :
    Open ((VrGateway.new controller {}).startSession (start M) 0) 1 0 where
  live := .inl rfl
  notDue := by
    rintro (⟨_, ⟨⟩⟩ | ⟨⟨⟩, _⟩)
  active := rfl
  sequence := rfl
  timestamp := rfl

/-- A recenter at time 0 leaves the session open until the watchdog elapses. -/
theorem open_of_recenterHead (orientation normalized : Quaternion M)
    (early : nowNs < 250000000) (active : gateway.activeSessionId = some (py "s"))
    (timeouts : gateway.config = {}) :
    Open (gateway.recenterHead (look .headRecenter last orientation) normalized 0) (last + 1)
      nowNs where
  live := .inr rfl
  notDue := by
    rintro (⟨⟨⟩, _⟩ | ⟨_, due⟩)
    have late : gateway.config.motionWatchdogTimeoutNs ≤ nowNs - 0 := of_decide_eq_true due
    rw [timeouts] at late
    change (250000000 : ℤ) ≤ nowNs - 0 at late
    omega
  active := active
  sequence := by simp [VrGateway.recenterHead, VrGateway.accept, look, command]
  timestamp := rfl

/-- The session up to its first recenter. -/
def opened (controller : NeckController M) (orientation : Quaternion M) :
    History K × VrGateway M :=
  Machine.execute VrGateway.step (VrGateway.new controller {})
    [⟨.handle (start M).toObject, 0⟩, ⟨.handle (look .headRecenter 1 orientation).toObject, 0⟩]

theorem opened_run (controller : NeckController M) (orientation : Quaternion M) :
    Machine.Run VrGateway.step (VrGateway.new controller {}) (opened controller orientation).1
      (opened controller orientation).2 :=
  Machine.execute_run VrGateway.step _ _

theorem opened_eq (controller : NeckController M)
    (isNormalized : orientation.normalized = .ok normalized) :
    (opened controller orientation).2 =
      ((VrGateway.new controller {}).startSession (start M) 0).recenterHead
        (look .headRecenter 1 orientation) normalized 0 := by
  simp only [opened, Machine.execute]
  rw [step_start, step_recenter (open_of_start controller) isNormalized]

end AnySession

end ValeraControlTower

import ValeraControlTower.VrGateway.FailClosed
import ValeraControlTower.VrGateway.MotionStep
import ValeraControlTower.VrGateway.NeckRotation

/-!
# Recentering never moves the neck

An active head holds the target its session returned last, within the mechanical limits,
whatever the clock does.  A recenter makes that target the base and clears the filters, and
a pose at the same rotation has no yaw and no pitch, so neither the rate limit nor the clamp
has anything to correct.
-/

open scoped Quaternion

namespace ValeraControlTower

open Rotation

/-! ## The target an active session holds -/

section Held

variable {K : Type} [Field K] [LinearOrder K] {M : FloatMath K} {history : History K}
  {entry : CallEntry K} {sessionId : PyStr} {gateway next : VrGateway M}

/-- The controller is where the session returned last, and within the limits. -/
structure Held (history : History K) (controller : NeckController M) (sessionId : PyStr) :
    Prop where
  limits : InLimits controller.config.toNeckControlConfig controller.lastTarget
  previous : controller.lastTarget =
    previousTarget controller.config.initialTarget history sessionId

/-- Every active session has it. -/
def Holding (history : History K) (gateway : VrGateway M) : Prop :=
  gateway.state = .headActive → ∀ sessionId, gateway.activeSessionId = some sessionId →
    Held history gateway.neckController sessionId

theorem NeckController.update_inLimits {controller : NeckController M} (orientation : Quaternion M)
    (nowNs : ℤ) (limits : InLimits controller.config.toNeckControlConfig controller.lastTarget) :
    InLimits controller.config.toNeckControlConfig
      (controller.update orientation nowNs).1.lastTarget := by
  unfold update
  dsimp only
  cases relativeAnglesDegrees controller.reference orientation with
  | error exception => exact limits
  | ok angles => exact advance_inLimits _ rfl _ _ _

/-- A target belongs to a session that has been recentered. -/
theorem recentered_of_target {neckController : NeckController M} {config : GatewayConfig}
    (run : Machine.Run VrGateway.step (VrGateway.new neckController config) history gateway)
    (membership : entry ∈ history) {event : NeckTargetEvent K} (emitted : event ∈ targets entry) :
    ∃ recenter ∈ history, Accepts M recenter .headRecenter event.sessionId := by
  obtain ⟨before, after, rfl⟩ := List.append_of_mem membership
  obtain ⟨state, past, output, _⟩ := run.entry
  have outcome := state.step_cases entry.input
  rw [← output] at outcome
  obtain ⟨command, orientation, _, rfl, _, _, _, inSession, active, _⟩ :=
    outcome.pose_of_emitted emitted
  obtain ⟨other, _, isActive, _, permit, _⟩ := (MotionInvariant.of_run past).active active
  obtain rfl := Option.some.inj (inSession.active.symm.trans isActive)
  have inside : permit.recenter ∈
      permit.before ++ permit.start :: (permit.middle ++ permit.recenter :: permit.after) := by
    simp
  rw [← permit.split] at inside
  exact ⟨permit.recenter, List.mem_append_left _ inside, permit.recentered⟩

/-- A session that awaits its first recenter has returned no target. -/
theorem unmoved_of_awaiting {neckController : NeckController M} {config : GatewayConfig}
    (run : Machine.Run VrGateway.step (VrGateway.new neckController config) history gateway)
    (awaiting : gateway.state = .awaitingRecenter)
    (isActive : gateway.activeSessionId = some sessionId) :
    ∀ other ∈ history, ∀ event ∈ targets other, event.sessionId ≠ sessionId := by
  rintro other membership event emitted rfl
  obtain ⟨session, active, _, never⟩ := (MotionInvariant.of_run run).awaiting awaiting
  obtain rfl := Option.some.inj (isActive.symm.trans active)
  obtain ⟨recenter, inside, recentered⟩ := recentered_of_target run membership emitted
  exact never recenter inside recentered

namespace Held

variable {controller : NeckController M}

theorem keep (held : Held history controller sessionId) (still : targets entry = []) :
    Held (history ++ [entry]) controller sessionId where
  limits := held.limits
  previous := by
    rw [previousTarget_still still]
    exact held.previous

/-- An update that raises leaves the target. -/
theorem raise (held : Held history controller sessionId) (still : targets entry = [])
    {orientation : Quaternion M} {nowNs : ℤ}
    (raised : ∃ exception, (controller.update orientation nowNs).2 = .error exception) :
    Held (history ++ [entry]) (controller.update orientation nowNs).1 sessionId where
  limits := by
    rw [NeckController.update_config, NeckController.update_raised raised]
    exact held.limits
  previous := by
    rw [NeckController.update_raised raised, NeckController.update_config,
      previousTarget_still still]
    exact held.previous

/-- The first recenter puts the controller at the initial target. -/
theorem first (controller : NeckController M) (orientation : Quaternion M) (nowNs : ℤ)
    (unmoved : ∀ other ∈ history, ∀ event ∈ targets other, event.sessionId ≠ sessionId)
    (still : targets entry = []) :
    Held (history ++ [entry]) (controller.recenter orientation nowNs false) sessionId where
  limits := controller.config.facts.1
  previous := by
    rw [previousTarget_still still, previousTarget_unmoved unmoved]
    rfl

/-- A later one keeps the target. -/
theorem recenter (held : Held history controller sessionId) (orientation : Quaternion M)
    (nowNs : ℤ) (still : targets entry = []) :
    Held (history ++ [entry]) (controller.recenter orientation nowNs true) sessionId :=
  ⟨held.limits, (held.keep still).previous⟩

theorem move (held : Held history controller sessionId) {event : NeckTargetEvent K}
    {orientation : Quaternion M} {nowNs : ℤ} (moved : targets entry = [event])
    (same : event.sessionId = sessionId)
    (updated : (controller.update orientation nowNs).2 = .ok event.target) :
    Held (history ++ [entry]) (controller.update orientation nowNs).1 sessionId where
  limits := by
    rw [NeckController.update_config]
    exact NeckController.update_inLimits orientation nowNs held.limits
  previous := by
    rw [previousTarget_moved moved same]
    exact NeckController.update_target updated

end Held

theorem Holding.step (holding : Holding history gateway)
    (unmoved : gateway.state = .awaitingRecenter → ∀ sessionId,
      gateway.activeSessionId = some sessionId →
      ∀ other ∈ history, ∀ event ∈ targets other, event.sessionId ≠ sessionId)
    (outcome : VrGateway.StepCase gateway entry next) : Holding (history ++ [entry]) next := by
  cases outcome with
  | unchanged _ still =>
      intro active sessionId isActive
      exact (holding active sessionId isActive).keep still
  | expired stopped =>
      intro active
      rcases stopped with rfl | rfl
      · cases active
      · cases active
  | updateRaised _ still _ active raised =>
      intro _ sessionId isActive
      exact (holding active sessionId isActive).raise still raised
  | emergencyStop => rintro ⟨⟩
  | sessionStart => rintro ⟨⟩
  | sessionStop => rintro ⟨⟩
  | modeSet _ still =>
      intro active sessionId isActive
      exact (holding active sessionId isActive).keep still
  | @headRecenter command orientation _ still _ _ _ _ live =>
      intro _ sessionId isActive
      change Held _ (gateway.neckController.recenter orientation entry.input.nowNs
        (decide (gateway.state = .headActive))) sessionId
      rcases live with awaiting | active
      · rw [decide_eq_false (by simp [awaiting])]
        exact .first _ _ _ (unmoved awaiting sessionId isActive) still
      · rw [decide_eq_true active]
        exact (holding active sessionId isActive).recenter _ _ still
  | headPose _ moved _ _ _ inSession active updated =>
      intro _ sessionId isActive
      have same := Option.some.inj (inSession.active.symm.trans isActive)
      exact (holding active sessionId isActive).move moved same updated

theorem holding_of_run {neckController : NeckController M} {config : GatewayConfig}
    (run : Machine.Run VrGateway.step (VrGateway.new neckController config) history gateway) :
    Holding history gateway := by
  induction run with
  | nil => rintro ⟨⟩
  | @snoc past state input before inductionHypothesis =>
      apply inductionHypothesis.step
      · exact fun awaiting sessionId isActive => unmoved_of_awaiting before awaiting isActive
      · exact state.step_cases input

end Held

/-! ## What an accepted recenter or pose does -/

section Posed

variable {K : Type} [Field K] [LinearOrder K] {M : FloatMath K} {gateway : VrGateway M}
  {stimulus : Stimulus K} {command : CommandEnvelope M}

/-- The orientation is the normalized one of the command's payload. -/
theorem VrGateway.posed_of_accepted
    (taken : accepted M ⟨stimulus, (gateway.step stimulus).2⟩ = some command)
    (moves : command.command = .headRecenter ∨ command.command = .headPose) :
    ∃ orientation, Normalizes command (.ok orientation) ∧ gateway.InSession command ∧
      (command.command = .headRecenter →
        (gateway.state = .awaitingRecenter ∨ gateway.state = .headActive) ∧
        (gateway.step stimulus).1 = gateway.recenterHead command orientation stimulus.nowNs) ∧
      (command.command = .headPose → gateway.state = .headActive ∧ ∃ target,
        (gateway.neckController.update orientation stimulus.nowNs).2 = .ok target ∧
        (gateway.step stimulus).1 = gateway.moveHead command orientation stimulus.nowNs ∧
        targets ⟨stimulus, (gateway.step stimulus).2⟩ =
          [targetEvent command target stimulus.nowNs]) := by
  obtain ⟨call, nowNs⟩ := stimulus
  have sent := validCommand_of_accepted taken
  cases call with
  | poll => cases sent
  | handle object =>
      simp only [step] at *
      generalize result : gateway.handle object nowNs = outcome at *
      have cases := gateway.handle_cases object nowNs
      rw [result] at cases
      -- The command is the one that was validated.
      have same : ∀ other, validateCommandEnvelope M object = .ok other → other = command := by
        intro other valid
        simpa [validCommand, valid, Except.toOption] using sent
      cases cases with
      | raised exception invalid => simp [validCommand, invalid, Except.toOption] at sent
      | malformed exception invalid => simp [validCommand, invalid, Except.toOption] at sent
      | rejected other code valid =>
          rw [accepted_of_rejection _ rfl] at taken
          cases taken
      | emergencyStop other valid emergency =>
          obtain rfl := same other valid
          simp [isEmergencyStop_command emergency] at moves
      | sessionStart other valid named =>
          obtain rfl := same other valid
          simp [named] at moves
      | modeSet other valid named =>
          obtain rfl := same other valid
          simp [named] at moves
      | sessionStop other valid named =>
          obtain rfl := same other valid
          simp [named] at moves
      | orientationRaised => cases taken
      | updateRaised => cases taken
      | headRecenter other orientation valid named notDue inSession live normalizes =>
          obtain rfl := same other valid
          refine ⟨orientation, normalizes, inSession, fun _ => ⟨live, rfl⟩, ?_⟩
          intro pose
          rw [named] at pose
          cases pose
      | headPose other orientation target valid named notDue inSession active updated
          normalizes =>
          obtain rfl := same other valid
          refine ⟨orientation, normalizes, inSession, ?_, fun _ =>
            ⟨active, target, updated, rfl, rfl⟩⟩
          intro recenter
          rw [named] at recenter
          cases recenter

end Posed

/-! ## A controller at rest -/

variable {ofRat : ℚ → Option ℝ} {repr : ℝ → List Char}

/-- The value is a quaternion of the same rotation: a multiple, of either sign. -/
def Represents (rotation : ℍ[ℝ]) (value : Quaternion (FloatMath.real ofRat repr)) : Prop :=
  ∃ scale : ℝ, scale ≠ 0 ∧ value.hamilton = scale • rotation

/-- A unit quaternion of the rotation. -/
structure IsAt (rotation : ℍ[ℝ]) (value : Quaternion (FloatMath.real ofRat repr)) : Prop where
  unit : value.IsUnit
  sign : value.hamilton = rotation ∨ value.hamilton = -rotation

theorem Quaternion.norm_eq (value : Quaternion (FloatMath.real ofRat repr)) :
    value.norm = √(Quaternion.normSq value.hamilton) := by
  rw [Quaternion.normSq_hamilton]
  exact Quaternion.hypot_eq _ _ _ _

/-- Normalizing leaves nothing of the length. -/
theorem IsAt.of_normalized {rotation : ℍ[ℝ]} (unit : Quaternion.normSq rotation = 1)
    {value normalized : Quaternion (FloatMath.real ofRat repr)}
    (represents : Represents rotation value) (isNormalized : value.normalized = .ok normalized) :
    IsAt rotation normalized := by
  obtain ⟨scale, nonzero, scaled⟩ := represents
  obtain ⟨other, same, isUnit⟩ := value.normalized_isUnit
  obtain rfl := Except.ok.inj (same.symm.trans isNormalized)
  refine ⟨isUnit, ?_⟩
  have norm : value.norm = |scale| := by
    rw [Quaternion.norm_eq, scaled, Quaternion.normSq_smul, unit, mul_one, Real.sqrt_sq_eq_abs]
  have components : other.hamilton = (|scale|)⁻¹ • scale • rotation := by
    unfold Quaternion.normalized at same
    rw [Quaternion.new_components same, ← scaled, Quaternion.hamilton, components_smul, norm]
    simp only [div_eq_inv_mul]
  rw [components, smul_smul]
  rcases abs_choice scale with positive | negative
  · left
    rw [positive, inv_mul_cancel₀ nonzero, one_smul]
  · right
    rw [negative, inv_neg, neg_mul, inv_mul_cancel₀ nonzero, neg_one_smul]

/-- Two quaternions of one rotation have no yaw and no pitch between them. -/
theorem IsAt.angles {rotation : ℍ[ℝ]}
    {reference orientation : Quaternion (FloatMath.real ofRat repr)}
    (first : IsAt rotation reference) (second : IsAt rotation orientation) :
    relativeAnglesDegrees reference orientation = .ok (0, 0) := by
  have either : orientation.hamilton = reference.hamilton ∨
      orientation.hamilton = (-reference).hamilton := by
    rw [Quaternion.hamilton_neg]
    rcases first.sign with plus | minus
    · rw [plus]
      exact second.sign
    · rw [minus, neg_neg]
      exact second.sign.symm
  have ahead : facing reference orientation = vector 0 0 (-1) := by
    rcases either with same | opposite
    · rw [Quaternion.hamilton_injective same]
      exact facing_self first.unit
    · rw [Quaternion.hamilton_injective opposite, facing_neg_orientation]
      exact facing_self first.unit
  rw [(faces first.unit second.unit).angles, ahead]
  exact congrArg Except.ok forwardAngles_ahead

/-- The reference is the rotation, the filters are clear, and base and last target are the
same point within the limits. -/
structure Resting (rotation : ℍ[ℝ]) (target : NeckTarget ℝ)
    (controller : NeckController (FloatMath.real ofRat repr)) : Prop where
  reference : IsAt rotation controller.reference
  yaw : controller.filteredYawDegrees = 0
  pitch : controller.filteredPitchDegrees = 0
  basePan : controller.basePanDegrees = target.panDegrees
  baseTilt : controller.baseTiltDegrees = target.tiltDegrees
  held : controller.lastTarget = target
  limits : InLimits controller.config.toNeckControlConfig target

namespace Resting

variable {rotation : ℍ[ℝ]} {target : NeckTarget ℝ}
  {controller : NeckController (FloatMath.real ofRat repr)}
  {orientation : Quaternion (FloatMath.real ofRat repr)}

theorem of_recenter (isAt : IsAt rotation orientation) (nowNs : ℤ)
    (held : controller.lastTarget = target)
    (limits : InLimits controller.config.toNeckControlConfig target) :
    Resting rotation target (controller.recenter orientation nowNs true) where
  reference := isAt
  yaw := rfl
  pitch := rfl
  basePan := congrArg NeckTarget.panDegrees held
  baseTilt := congrArg NeckTarget.tiltDegrees held
  held := held
  limits := limits

/-- Neither the rate limit nor the clamp moves what is asked to stay. -/
theorem clamp_rateLimit_self {value maximumDelta minimum maximum : ℝ}
    (nonnegative : 0 ≤ maximumDelta) (above : minimum ≤ value) (below : value ≤ maximum) :
    clamp (rateLimit value value maximumDelta) minimum maximum = value := by
  have still : rateLimit value value maximumDelta = value := by
    apply clamp_of_mem
    · exact sub_le_self _ nonnegative
    · exact le_add_of_nonneg_right nonnegative
  rw [still, clamp_of_mem above below]

theorem advance (rests : Resting rotation target controller) {dtSeconds : ℝ}
    (forward : 0 ≤ dtSeconds) : Resting rotation target (controller.advance dtSeconds 0 0) := by
  obtain ⟨_, panRate, tiltRate⟩ := controller.config.facts
  have yaw : (controller.advance dtSeconds 0 0).filteredYawDegrees = 0 := by
    simp [NeckController.advance, rests.yaw]
  have pitch : (controller.advance dtSeconds 0 0).filteredPitchDegrees = 0 := by
    simp [NeckController.advance, rests.pitch]
  refine ⟨rests.reference, yaw, pitch, rests.basePan, rests.baseTilt, ?_, rests.limits⟩
  apply NeckTarget.ext
  · simp only [NeckController.advance, rests.yaw, rests.basePan, rests.held, sub_zero, mul_zero,
      add_zero]
    exact clamp_rateLimit_self (mul_nonneg panRate.le forward) rests.limits.minPan
      rests.limits.maxPan
  · simp only [NeckController.advance, rests.pitch, rests.baseTilt, rests.held, sub_zero, mul_zero,
      add_zero]
    exact clamp_rateLimit_self (mul_nonneg tiltRate.le forward) rests.limits.minTilt
      rests.limits.maxTilt

/-- A pose at the reference returns the target and leaves the controller at rest. -/
theorem update (rests : Resting rotation target controller) (isAt : IsAt rotation orientation)
    (nowNs : ℤ) : Resting rotation target (controller.update orientation nowNs).1 ∧
      (controller.update orientation nowNs).2 = .ok target := by
  have forward : 0 ≤ controller.dtSeconds nowNs := le_max_left _ _
  have stamped : Resting rotation target { controller with lastUpdateNs := nowNs } :=
    ⟨rests.reference, rests.yaw, rests.pitch, rests.basePan, rests.baseTilt, rests.held,
      rests.limits⟩
  have advanced := stamped.advance forward
  unfold NeckController.update
  dsimp only
  rw [rests.reference.angles isAt]
  exact ⟨advanced, congrArg Except.ok advanced.held⟩

/-- An update that raises moves the time stamp alone. -/
theorem raise (rests : Resting rotation target controller) {nowNs : ℤ}
    (raised : ∃ exception, (controller.update orientation nowNs).2 = .error exception) :
    Resting rotation target (controller.update orientation nowNs).1 := by
  obtain ⟨exception, raised⟩ := raised
  rw [NeckController.update_error raised]
  exact ⟨rests.reference, rests.yaw, rests.pitch, rests.basePan, rests.baseTilt, rests.held,
    rests.limits⟩

end Resting

/-! ## The rest of the run -/

/-- What the call accepts is a `mode.set`, or a pose or recenter at the rotation. -/
def StaysAt (rotation : ℍ[ℝ]) (ofRat : ℚ → Option ℝ) (repr : ℝ → List Char)
    (entry : CallEntry ℝ) : Prop :=
  ∀ command, accepted (FloatMath.real ofRat repr) entry = some command →
    command.command = .modeSet ∨
      (command.command = .headRecenter ∨ command.command = .headPose) ∧
        ∃ payload, command.payload = .pose payload ∧ Represents rotation payload.orientation

/-- The head is active with its controller at rest, or no session is going to be active. -/
structure Settled (rotation : ℍ[ℝ]) (target : NeckTarget ℝ)
    (gateway : VrGateway (FloatMath.real ofRat repr)) : Prop where
  started : gateway.state ≠ .awaitingRecenter
  rests : gateway.state = .headActive → Resting rotation target gateway.neckController

section Settled

variable {rotation : ℍ[ℝ]} {target : NeckTarget ℝ}
  {gateway next : VrGateway (FloatMath.real ofRat repr)} {stimulus : Stimulus ℝ}
  {command : CommandEnvelope (FloatMath.real ofRat repr)}

theorem isAt_of_payload (unit : Quaternion.normSq rotation = 1)
    {orientation : Quaternion (FloatMath.real ofRat repr)}
    (normalizes : VrGateway.Normalizes command (.ok orientation))
    (represents : ∃ payload, command.payload = .pose payload ∧
      Represents rotation payload.orientation) : IsAt rotation orientation := by
  obtain ⟨payload, sent, normalized⟩ := normalizes
  obtain ⟨other, alsoSent, represents⟩ := represents
  obtain rfl := Payload.pose.inj (sent.symm.trans alsoSent)
  exact .of_normalized unit represents normalized

/-- A call that accepts at most a `mode.set`. -/
theorem Settled.still (settled : Settled rotation target gateway) {entry : CallEntry ℝ}
    (outcome : VrGateway.StepCase gateway entry next)
    (sets : ∀ command, accepted (FloatMath.real ofRat repr) entry = some command →
      command.command = .modeSet) : Settled rotation target next := by
  cases outcome with
  | unchanged => exact settled
  | expired stopped =>
      rcases stopped with rfl | rfl
      · exact ⟨nofun, nofun⟩
      · exact ⟨nofun, nofun⟩
  | updateRaised _ _ _ active raised =>
      exact ⟨settled.started, fun _ => (settled.rests active).raise raised⟩
  | modeSet => exact ⟨settled.started, settled.rests⟩
  | emergencyStop taken _ emergency =>
      cases (VrGateway.isEmergencyStop_command emergency).symm.trans (sets _ taken)
  | sessionStart taken _ _ named => cases named.symm.trans (sets _ taken)
  | headRecenter taken _ _ named => cases named.symm.trans (sets _ taken)
  | headPose taken _ _ named => cases named.symm.trans (sets _ taken)
  | sessionStop taken _ _ named => cases named.symm.trans (sets _ taken)

/-- An accepted pose at the rotation returns the target. -/
theorem Settled.targets_eq (settled : Settled rotation target gateway)
    (unit : Quaternion.normSq rotation = 1)
    (stays : StaysAt rotation ofRat repr ⟨stimulus, (gateway.step stimulus).2⟩)
    (taken : accepted (FloatMath.real ofRat repr) ⟨stimulus, (gateway.step stimulus).2⟩ =
      some command) (named : command.command = .headPose) :
    targets ⟨stimulus, (gateway.step stimulus).2⟩ =
        [VrGateway.targetEvent command target stimulus.nowNs] ∧
      Settled rotation target (gateway.step stimulus).1 := by
  obtain ⟨orientation, normalizes, _, _, posed⟩ :=
    VrGateway.posed_of_accepted taken (.inr named)
  obtain ⟨active, other, updated, moved, emitted⟩ := posed named
  rcases stays command taken with setting | ⟨_, represents⟩
  · cases named.symm.trans setting
  · have isAt := isAt_of_payload unit normalizes represents
    obtain ⟨rests, same⟩ := (settled.rests active).update isAt stimulus.nowNs
    obtain rfl := Except.ok.inj (same.symm.trans updated)
    refine ⟨emitted, ?_⟩
    rw [moved]
    exact ⟨settled.started, fun _ => rests⟩

/-- A recenter of an active head puts the controller at rest where it is. -/
theorem settled_of_recenter (unit : Quaternion.normSq rotation = 1)
    (active : gateway.state = .headActive) (held : gateway.neckController.lastTarget = target)
    (limits : InLimits gateway.neckController.config.toNeckControlConfig target)
    (taken : accepted (FloatMath.real ofRat repr) ⟨stimulus, (gateway.step stimulus).2⟩ =
      some command) (named : command.command = .headRecenter)
    (represents : ∃ payload, command.payload = .pose payload ∧
      Represents rotation payload.orientation) :
    Settled rotation target (gateway.step stimulus).1 := by
  obtain ⟨orientation, normalizes, _, recentered, _⟩ :=
    VrGateway.posed_of_accepted taken (.inl named)
  have isAt := isAt_of_payload unit normalizes represents
  rw [(recentered named).2]
  refine ⟨nofun, fun _ => ?_⟩
  change Resting rotation target (gateway.neckController.recenter orientation stimulus.nowNs
    (decide (gateway.state = .headActive)))
  rw [decide_eq_true active]
  exact .of_recenter isAt _ held limits

theorem Settled.step (settled : Settled rotation target gateway)
    (unit : Quaternion.normSq rotation = 1)
    (stays : StaysAt rotation ofRat repr ⟨stimulus, (gateway.step stimulus).2⟩) :
    Settled rotation target (gateway.step stimulus).1 := by
  by_cases sets : ∀ command, accepted (FloatMath.real ofRat repr)
      ⟨stimulus, (gateway.step stimulus).2⟩ = some command → command.command = .modeSet
  · exact settled.still (gateway.step_cases stimulus) sets
  · obtain ⟨command, refuted⟩ := not_forall.mp sets
    obtain ⟨taken, other⟩ := Classical.not_imp.mp refuted
    rcases stays command taken with setting | ⟨named | named, represents⟩
    · exact absurd setting other
    · obtain ⟨_, _, _, recentered, _⟩ := VrGateway.posed_of_accepted taken (.inl named)
      have active := (recentered named).1.resolve_left settled.started
      have rests := settled.rests active
      exact settled_of_recenter unit active rests.held rests.limits taken named represents
    · exact (settled.targets_eq unit stays taken named).2

theorem Settled.run (settled : Settled rotation target gateway)
    (unit : Quaternion.normSq rotation = 1) {history : History ℝ}
    (run : Machine.Run VrGateway.step gateway history next)
    (stays : ∀ entry ∈ history, StaysAt rotation ofRat repr entry) :
    Settled rotation target next := by
  induction run with
  | nil => exact settled
  | snoc input _ inductionHypothesis =>
      apply (inductionHypothesis ?_).step unit
      · exact stays _ (by simp)
      · intro entry membership
        exact stays entry (List.mem_append_left _ membership)

end Settled

/-- Recentering never moves the neck: when an active head is recentered at a rotation, every
later pose accepted at that rotation, under whatever multiple of either sign, returns the
target its session returned last before the recenter, as long as nothing but such poses,
such recenters and `mode.set` is accepted.  The clock may do what it likes. -/
theorem recenter_holds {neckController : NeckController (FloatMath.real ofRat repr)}
    {config : GatewayConfig} {before after : History ℝ}
    {gateway final : VrGateway (FloatMath.real ofRat repr)}
    (run : Machine.Run VrGateway.step (VrGateway.new neckController config) before gateway)
    (active : gateway.state = .headActive) {rotation : ℍ[ℝ]}
    (unit : Quaternion.normSq rotation = 1) {recenter : CallEntry ℝ}
    (onward : Machine.Run VrGateway.step gateway (recenter :: after) final)
    {command : CommandEnvelope (FloatMath.real ofRat repr)}
    (taken : accepted (FloatMath.real ofRat repr) recenter = some command)
    (named : command.command = .headRecenter)
    (represents : ∃ payload, command.payload = .pose payload ∧
      Represents rotation payload.orientation)
    (stays : ∀ entry ∈ after, StaysAt rotation ofRat repr entry) :
    ∀ entry ∈ after, ∀ pose, accepted (FloatMath.real ofRat repr) entry = some pose →
      pose.command = .headPose →
      targets entry =
        [VrGateway.targetEvent pose (previousTarget neckController.config.initialTarget
        before command.sessionId) entry.input.nowNs] := by
  intro entry membership pose accepts isPose
  have whole : Machine.Run VrGateway.step gateway ([] ++ recenter :: after) final := onward
  obtain ⟨start, isStart, output, rest⟩ := whole.entry
  obtain rfl : gateway = start := Machine.Run.nil.deterministic isStart
  obtain ⟨input, returned⟩ := recenter
  dsimp only at output rest
  subst output
  obtain ⟨_, _, inSession, _⟩ := VrGateway.posed_of_accepted taken (.inl named)
  have held := holding_of_run run active _ inSession.active
  have fixed : gateway.neckController.config = neckController.config :=
    VrGateway.neckConfig_of_run run
  rw [← fixed, ← held.previous]
  have settled := settled_of_recenter unit active rfl held.limits taken named represents
  obtain ⟨first, second, rfl⟩ := List.append_of_mem membership
  obtain ⟨state, past, output, _⟩ := rest.entry
  have sofar := settled.run unit past fun other inside =>
    stays other (List.mem_append_left _ inside)
  obtain ⟨input, returned⟩ := entry
  dsimp only at output
  subst output
  exact (sofar.targets_eq unit (stays _ membership) accepts isPose).1

/-! ## A session over the reals -/

noncomputable abbrev FloatMath.exactReal : FloatMath ℝ := .real (fun _ => none) fun _ => []

open AnySession in
/-- A head that looks ahead is recentered twice; the pose behind that returns what the
session returned last. -/
theorem recenter_holds_session : ∃ (controller : NeckController FloatMath.exactReal)
    (ahead : Quaternion FloatMath.exactReal),
    NeckController.new FloatMath.exactReal VrGateway.realNeckConfig = .ok controller ∧
    let opened := opened controller ahead
    let recentered := (opened.2.step ⟨.handle (look .headRecenter 2 ahead).toObject, 0⟩).1
    let posed : Stimulus ℝ := ⟨.handle (look .headPose 3 ahead).toObject, 200000000⟩
    targets ⟨posed, (recentered.step posed).2⟩ = [VrGateway.targetEvent (look .headPose 3 ahead)
      (previousTarget controller.config.initialTarget opened.1 (py "s")) 200000000] := by
  obtain ⟨controller, made, _⟩ :=
    NeckController.new_ok (fun _ => none) (fun _ => []) VrGateway.realNeckConfig
  obtain ⟨ahead, unit, _⟩ := exists_unit (fun _ => none) (fun _ => [])
    (show (0 : ℝ) ^ 2 + 0 ^ 2 + 0 ^ 2 + 1 ^ 2 = 1 by norm_num)
  obtain ⟨normalized, isNormalized, normalizedUnit⟩ := ahead.normalized_isUnit
  refine ⟨controller, ahead, made, ?_⟩
  intro opened recentered posed
  have isOpened := opened_eq controller isNormalized
  have stillOpen : Open opened.2 2 0 := by
    rw [isOpened]
    exact open_of_recenterHead ahead normalized (by norm_num) rfl rfl
  have again := step_recenter stillOpen isNormalized
  have isRecentered :
      recentered = opened.2.recenterHead (look .headRecenter 2 ahead) normalized 0 :=
    congrArg Prod.fst again
  have poseOpen : Open recentered 3 200000000 := by
    rw [isRecentered, isOpened]
    exact open_of_recenterHead ahead normalized (by norm_num) rfl rfl
  have reference : recentered.neckController.reference.IsUnit := by
    rw [isRecentered]
    change (opened.2.neckController.recenter normalized 0 _).reference.IsUnit
    rw [NeckController.recenter_reference]
    exact normalizedUnit
  obtain ⟨target, updated⟩ := NeckController.update_ok reference normalizedUnit 200000000
  have active : recentered.state = .headActive := by
    rw [isRecentered]
    rfl
  have moved := step_pose poseOpen active isNormalized updated
  have accepts : accepted FloatMath.exactReal ⟨posed, (recentered.step posed).2⟩ =
      some (look .headPose 3 ahead) := by
    rw [moved]
    exact VrGateway.accepted_of_valid (validateCommandEnvelope_toObject _) rfl
  have taken : accepted FloatMath.exactReal ⟨⟨.handle (look .headRecenter 2 ahead).toObject, 0⟩,
      (opened.2.step ⟨.handle (look .headRecenter 2 ahead).toObject, 0⟩).2⟩ =
      some (look .headRecenter 2 ahead) := by
    rw [again]
    apply VrGateway.accepted_of_valid (validateCommandEnvelope_toObject _)
    simp [VrGateway.commandTransition]
  have same : Represents ahead.hamilton ahead := ⟨1, one_ne_zero, (one_smul ℝ _).symm⟩
  have norm : Quaternion.normSq ahead.hamilton = 1 := (Quaternion.normSq_hamilton ahead).trans unit
  have onward := (@Machine.Run.single _ _ _ VrGateway.step opened.2
    ⟨.handle (look .headRecenter 2 ahead).toObject, 0⟩).snoc posed
  have opens : opened.2.state = .headActive := by
    rw [isOpened]
    rfl
  refine recenter_holds (opened_run controller ahead) opens norm onward taken rfl
    ⟨_, rfl, same⟩ ?_ _ (List.mem_singleton_self _) _ accepts rfl
  intro entry membership command sent
  rw [List.mem_singleton.mp membership, accepts] at sent
  obtain rfl := Option.some.inj sent
  exact .inr ⟨.inr rfl, _, rfl, same⟩

end ValeraControlTower

import ValeraControlTower.VrGateway.Sessions

/-!
# How far one command can move the neck

The rate limit is scaled by the time since the controller's last update, the watchdog by
the time since the last packet.  A `mode.set` is a packet without an update, so each one
accepted in between lets one more watchdog timeout pass.
-/

namespace ValeraControlTower

variable {K : Type} [Field K] [LinearOrder K] {M : FloatMath K}

/-- One more call, for the number of `mode.set` commands since the last recenter or pose. -/
def countSetting (M : FloatMath K) (count : ℕ) (entry : CallEntry K) : ℕ :=
  match (accepted M entry).map CommandEnvelope.command with
  | some .modeSet => count + 1
  | some .headRecenter | some .headPose => 0
  | _ => count

/-- The number of `mode.set` commands accepted since the last accepted recenter or pose. -/
def settings (M : FloatMath K) (history : History K) : ℕ :=
  history.foldl (countSetting M) 0

/-- The target the session returned last, or the initial one. -/
def previousTarget (initial : NeckTarget K) (history : History K) (sessionId : PyStr) :
    NeckTarget K :=
  (((history.flatMap targets).filter fun event => event.sessionId = sessionId).getLast?.map
    NeckTargetEvent.target).getD initial

section History

variable {history : History K} {entry : CallEntry K} {command : CommandEnvelope M}
  {sessionId : PyStr} {initial : NeckTarget K}

theorem settings_snoc (history : History K) (entry : CallEntry K) :
    settings M (history ++ [entry]) = countSetting M (settings M history) entry := by
  unfold settings
  rw [List.foldl_append]
  rfl

theorem settings_refused (refused : accepted M entry = none) :
    settings M (history ++ [entry]) = settings M history := by
  rw [settings_snoc, countSetting, refused]
  rfl

theorem settings_modeSet (taken : accepted M entry = some command)
    (named : command.command = .modeSet) :
    settings M (history ++ [entry]) = settings M history + 1 := by
  rw [settings_snoc, countSetting, taken, Option.map_some, named]

theorem settings_moved (taken : accepted M entry = some command)
    (named : command.command = .headRecenter ∨ command.command = .headPose) :
    settings M (history ++ [entry]) = 0 := by
  rw [settings_snoc, countSetting, taken, Option.map_some]
  rcases named with recenter | pose
  · rw [recenter]
  · rw [pose]

omit [Field K] [LinearOrder K] in
theorem previousTarget_still (still : targets entry = []) :
    previousTarget initial (history ++ [entry]) sessionId =
      previousTarget initial history sessionId := by
  unfold previousTarget
  rw [List.flatMap_append, List.flatMap_singleton, still, List.append_nil]

omit [Field K] [LinearOrder K] in
theorem previousTarget_moved {event : NeckTargetEvent K} (moved : targets entry = [event])
    (same : event.sessionId = sessionId) :
    previousTarget initial (history ++ [entry]) sessionId = event.target := by
  unfold previousTarget
  rw [List.flatMap_append, List.flatMap_singleton, moved, List.filter_append]
  simp [same]

omit [Field K] [LinearOrder K] in
/-- A session without targets is where it started. -/
theorem previousTarget_unmoved
    (unmoved : ∀ other ∈ history, ∀ event ∈ targets other, event.sessionId ≠ sessionId) :
    previousTarget initial history sessionId = initial := by
  have none : (history.flatMap targets).filter (fun event => event.sessionId = sessionId) = [] := by
    rw [List.filter_eq_nil_iff]
    intro event membership
    obtain ⟨other, inside, emitted⟩ := List.mem_flatMap.mp membership
    simpa using unmoved other inside event emitted
  unfold previousTarget
  rw [none]
  rfl

end History

namespace NeckController

/-- An update that raises leaves the target. -/
theorem update_raised {controller : NeckController M} {orientation : Quaternion M} {nowNs : ℤ}
    (raised : ∃ exception, (controller.update orientation nowNs).2 = .error exception) :
    (controller.update orientation nowNs).1.lastTarget = controller.lastTarget := by
  obtain ⟨exception, raised⟩ := raised
  rw [update_error raised]

theorem recenter_preserved (controller : NeckController M) (orientation : Quaternion M)
    (nowNs : ℤ) :
    (controller.recenter orientation nowNs true).lastTarget = controller.lastTarget := rfl

theorem recenter_initial (controller : NeckController M) (orientation : Quaternion M)
    (nowNs : ℤ) :
    (controller.recenter orientation nowNs false).lastTarget =
      controller.config.initialTarget := rfl

end NeckController

/-! ## The invariant -/

/-- What holds of the controller of an active session. -/
structure Pace (history : History K) (gateway : VrGateway M) (sessionId : PyStr)
    (receivedNs : ℤ) : Prop where
  received : gateway.lastValidPacketReceivedMonotonicNs = some receivedNs
  previous : gateway.neckController.lastTarget =
    previousTarget gateway.neckController.config.initialTarget history sessionId
  elapsed : receivedNs - gateway.neckController.lastUpdateNs ≤
    settings M history * gateway.config.motionWatchdogTimeoutNs
  nonnegative : 0 ≤ settings M history * gateway.config.motionWatchdogTimeoutNs

/-- Every active session has one. -/
def Paced (history : History K) (gateway : VrGateway M) : Prop :=
  gateway.state = .headActive → ∀ sessionId, gateway.activeSessionId = some sessionId →
    ∃ receivedNs, Pace history gateway sessionId receivedNs

namespace Pace

variable {history : History K} {gateway : VrGateway M} {sessionId : PyStr} {receivedNs : ℤ}
  {entry : CallEntry K} {command : CommandEnvelope M}

/-- A call that accepts nothing and returns no target. -/
theorem keep (pace : Pace history gateway sessionId receivedNs)
    (refused : accepted M entry = none) (still : targets entry = []) :
    Pace (history ++ [entry]) gateway sessionId receivedNs where
  received := pace.received
  previous := by rw [previousTarget_still still, pace.previous]
  elapsed := by
    rw [settings_refused refused]
    exact pace.elapsed
  nonnegative := by
    rw [settings_refused refused]
    exact pace.nonnegative

/-- An update that raises stamps the controller, no earlier than the last packet. -/
theorem raise (pace : Pace history gateway sessionId receivedNs)
    (refused : accepted M entry = none) (still : targets entry = [])
    (ordered : receivedNs ≤ entry.input.nowNs) {orientation : Quaternion M}
    (raised : ∃ exception, (gateway.neckController.update orientation entry.input.nowNs).2 =
      .error exception) :
    Pace (history ++ [entry]) { gateway with
      neckController := (gateway.neckController.update orientation entry.input.nowNs).1 }
      sessionId receivedNs where
  received := pace.received
  previous := by
    rw [previousTarget_still still, NeckController.update_raised raised,
      NeckController.update_config]
    exact pace.previous
  elapsed := by
    rw [settings_refused refused, NeckController.update_lastUpdateNs]
    exact (sub_nonpos.mpr ordered).trans pace.nonnegative
  nonnegative := by
    rw [settings_refused refused]
    exact pace.nonnegative

/-- A `mode.set` before the watchdog elapsed allows for one more timeout. -/
theorem set (pace : Pace history gateway sessionId receivedNs)
    (taken : accepted M entry = some command) (named : command.command = .modeSet)
    (still : targets entry = []) (ordered : receivedNs ≤ entry.input.nowNs)
    (early : entry.input.nowNs - receivedNs < gateway.config.motionWatchdogTimeoutNs) :
    Pace (history ++ [entry]) (gateway.accept command entry.input.nowNs) sessionId
      entry.input.nowNs where
  received := rfl
  previous := by
    rw [previousTarget_still still]
    exact pace.previous
  elapsed := by
    have sofar := pace.elapsed
    rw [settings_modeSet taken named]
    push_cast
    change entry.input.nowNs - gateway.neckController.lastUpdateNs ≤
      ((settings M history : ℤ) + 1) * gateway.config.motionWatchdogTimeoutNs
    rw [add_mul]
    omega
  nonnegative := by
    have sofar := pace.nonnegative
    rw [settings_modeSet taken named]
    push_cast
    change 0 ≤ ((settings M history : ℤ) + 1) * gateway.config.motionWatchdogTimeoutNs
    rw [add_mul]
    omega

end Pace

theorem Paced.step {history : History K} {gateway next : VrGateway M} {entry : CallEntry K}
    (paced : Paced history gateway) (neck : NeckInvariant history gateway)
    (stamped : VrGateway.Stamped history gateway) (shape : VrGateway.SessionShape gateway)
    (monotone : ClockMonotone (history ++ [entry]))
    (outcome : VrGateway.StepCase gateway entry next) : Paced (history ++ [entry]) next := by
  -- The last packet came no later than this call.
  have ordered : ∀ receivedNs, gateway.lastValidPacketReceivedMonotonicNs = some receivedNs →
      receivedNs ≤ entry.input.nowNs := by
    intro receivedNs received
    cases shape with
    | closed _ _ _ _ _ notReceived =>
        rw [notReceived] at received
        cases received
    | opened _ _ _ _ startedNs _ _ _ _ started =>
        obtain ⟨_, earlier, membership, rfl⟩ := stamped startedNs receivedNs started received
        exact (List.pairwise_append.mp monotone).2.2 earlier membership entry (by simp)
  cases outcome with
  | unchanged refused still =>
      intro active sessionId isActive
      obtain ⟨receivedNs, pace⟩ := paced active sessionId isActive
      exact ⟨receivedNs, pace.keep refused still⟩
  | expired stopped =>
      intro active
      rcases stopped with rfl | rfl
      · cases active
      · cases active
  | updateRaised refused still _ active raised =>
      intro _ sessionId isActive
      obtain ⟨receivedNs, pace⟩ := paced active sessionId isActive
      exact ⟨receivedNs, pace.raise refused still (ordered _ pace.received) raised⟩
  | emergencyStop => rintro ⟨⟩
  | sessionStart => rintro ⟨⟩
  | sessionStop => rintro ⟨⟩
  | @modeSet command taken still _ named notDue inSession =>
      intro active sessionId isActive
      obtain ⟨receivedNs, pace⟩ := paced active sessionId isActive
      exact ⟨_, pace.set taken named still (ordered _ pace.received)
        (VrGateway.early_of_active active pace.received notDue)⟩
  | @headRecenter command orientation taken still _ named notDue inSession live =>
      intro _ sessionId isActive
      have reset : settings M (history ++ [entry]) = 0 := settings_moved taken (.inl named)
      refine ⟨entry.input.nowNs, rfl, ?_, ?_, by rw [reset]; simp⟩
      · rw [previousTarget_still still]
        change (gateway.neckController.recenter orientation entry.input.nowNs
          (decide (gateway.state = .headActive))).lastTarget = previousTarget
            (gateway.neckController.recenter orientation entry.input.nowNs
              (decide (gateway.state = .headActive))).config.initialTarget history sessionId
        rw [NeckController.recenter_config]
        rcases live with awaiting | active
        · rw [decide_eq_false (by simp [awaiting]), NeckController.recenter_initial,
            previousTarget_unmoved (neck.awaiting awaiting sessionId isActive)]
        · rw [decide_eq_true active, NeckController.recenter_preserved]
          obtain ⟨_, pace⟩ := paced active sessionId isActive
          exact pace.previous
      · rw [reset]
        change entry.input.nowNs - (gateway.neckController.recenter orientation entry.input.nowNs
          (decide (gateway.state = .headActive))).lastUpdateNs ≤ _
        rw [NeckController.recenter_lastUpdateNs]
        simp
  | @headPose command orientation target taken moved _ named notDue inSession active updated =>
      intro _ sessionId isActive
      have reset : settings M (history ++ [entry]) = 0 := settings_moved taken (.inr named)
      have same := Option.some.inj (inSession.active.symm.trans isActive)
      refine ⟨entry.input.nowNs, rfl, ?_, ?_, by rw [reset]; simp⟩
      · rw [previousTarget_moved moved same]
        exact NeckController.update_target updated
      · rw [reset]
        change entry.input.nowNs -
          (gateway.neckController.update orientation entry.input.nowNs).1.lastUpdateNs ≤ _
        rw [NeckController.update_lastUpdateNs]
        simp

variable [IsStrictOrderedRing K]

theorem paced_of_run {neckController : NeckController M} {config : GatewayConfig}
    {history : History K} {gateway : VrGateway M}
    (run : Machine.Run VrGateway.step (VrGateway.new neckController config) history gateway)
    (monotone : ClockMonotone history) : Paced history gateway := by
  induction run with
  | nil => rintro ⟨⟩
  | snoc input past inductionHypothesis =>
      have sofar := VrGateway.ClockMonotone.init monotone
      exact (inductionHypothesis sofar).step (NeckInvariant.of_run past sofar)
        (VrGateway.stamped_of_run past sofar) (VrGateway.sessionShape_of_run past) monotone
        (VrGateway.step_cases _ input)

/-! ## The step -/

/-- From `value` to `next` in a time that is no longer than `limitNs`. -/
theorem Within.bounded {rate value next : K} {earlier later limitNs : ℤ} (positive : 0 < rate)
    (within : Within rate earlier value later next) (short : later - earlier ≤ limitNs) :
    |next - value| ≤ rate * ((limitNs : K) / 10 ^ 9) := by
  unfold Within at within
  have cast : ((later - earlier : ℤ) : K) ≤ limitNs := Int.cast_le.mpr short
  calc |next - value| ≤ rate * (((later - earlier : ℤ) : K) / 10 ^ 9) := within
    _ ≤ rate * ((limitNs : K) / 10 ^ 9) := by gcongr

/-- With clock readings that never go back, a target differs per axis from the one its
session returned before, or from the initial one, by at most the rate times the watchdog
timeout, taken once and once more for every `mode.set` accepted since the last accepted
recenter or pose. -/
theorem neckTarget_paced {neckController : NeckController M} {config : GatewayConfig}
    {history : History K} {final : VrGateway M}
    (run : Machine.Run VrGateway.step (VrGateway.new neckController config) history final)
    (monotone : ClockMonotone history) {before after : History K} {entry : CallEntry K}
    (cut : history = before ++ entry :: after) {event : NeckTargetEvent K}
    (emitted : .neckTarget event ∈ returned entry) :
    |event.panDegrees - (previousTarget neckController.config.initialTarget before
        event.sessionId).panDegrees| ≤
      neckController.config.maxPanRateDegreesPerSecond *
        (((settings M before + 1) * config.motionWatchdogTimeoutNs : ℤ) / 10 ^ 9) ∧
    |event.tiltDegrees - (previousTarget neckController.config.initialTarget before
        event.sessionId).tiltDegrees| ≤
      neckController.config.maxTiltRateDegreesPerSecond *
        (((settings M before + 1) * config.motionWatchdogTimeoutNs : ℤ) / 10 ^ 9) := by
  subst cut
  obtain ⟨gateway, past, output, _⟩ := run.entry
  have fixed : gateway.neckController.config = neckController.config :=
    VrGateway.neckConfig_of_run past
  have timeouts : gateway.config = config := VrGateway.config_of_run past
  rw [← List.singleton_append, ← List.append_assoc] at monotone
  have sofar := (List.pairwise_append.mp monotone).1
  have earlier := VrGateway.ClockMonotone.init sofar
  have outcome := gateway.step_cases entry.input
  rw [← output] at outcome
  obtain ⟨command, orientation, target, rfl, _, _, notDue, inSession, active, updated⟩ :=
    outcome.pose_of_emitted (mem_targets.mpr emitted)
  obtain ⟨receivedNs, pace⟩ := paced_of_run past earlier active _ inSession.active
  have tracked := (NeckInvariant.of_run past earlier).active active _ inSession.active
  have reaches := (NeckController.update_reaches orientation tracked.limits
    (tracked.ordered sofar)).2
  rw [NeckController.update_target updated, pace.previous, fixed] at reaches
  have short : entry.input.nowNs - gateway.neckController.lastUpdateNs ≤
      (settings M before + 1) * config.motionWatchdogTimeoutNs := by
    have early : entry.input.nowNs - receivedNs < gateway.config.motionWatchdogTimeoutNs :=
      VrGateway.early_of_active active pace.received notDue
    have since := pace.elapsed
    rw [timeouts] at early since
    rw [add_mul]
    omega
  obtain ⟨_, panRate, tiltRate⟩ := neckController.config.facts
  exact ⟨reaches.pan.bounded panRate short, reaches.tilt.bounded tiltRate short⟩

/-! ## A `mode.set` between recenter and pose -/

namespace Session

/-- The calls up to the `mode.set`, less than 250 ms apart from the recenter on. -/
def paused : History ℚ × VrGateway FloatMath.axis :=
  Machine.execute VrGateway.step gateway
    [⟨.handle start.toObject, 0⟩, ⟨.handle recenter.toObject, 100000000⟩,
      ⟨.handle setting.toObject, 300000000⟩]

theorem paused_run : Machine.Run VrGateway.step gateway paused.1 paused.2 :=
  Machine.execute_run VrGateway.step gateway _

/-- The pose, 400 ms after the recenter. -/
def resumed : CallEntry ℚ :=
  ⟨⟨.handle latePose.toObject, 500000000⟩,
    (paused.2.step ⟨.handle latePose.toObject, 500000000⟩).2⟩

theorem resumed_monotone : ClockMonotone (paused.1 ++ [resumed]) := by
  simp [ClockMonotone, paused, resumed, Machine.execute]

/-- The rate of 30 degrees per second for 400 ms. -/
def latestTarget : NeckTargetEvent ℚ where
  gatewayMonotonicNs := 500000000
  sessionId := py "s"
  sequence := 4
  panDegrees := -12
  tiltDegrees := 0

theorem latestTarget_emitted : .neckTarget latestTarget ∈ returned resumed := by
  decide +kernel

end Session

/-- The target behind the `mode.set` lies within two watchdog timeouts of the initial one. -/
theorem neckTarget_paced_session :
    |Session.latestTarget.panDegrees - (previousTarget Session.neckConfig.initialTarget
      Session.paused.1 (py "s")).panDegrees| ≤
      30 * (((settings FloatMath.axis Session.paused.1 + 1) * 250000000 : ℤ) / 10 ^ 9) :=
  (neckTarget_paced (Session.paused_run.snoc _) Session.resumed_monotone rfl
    Session.latestTarget_emitted).1

/-- One watchdog timeout is not enough. -/
theorem not_always_one_timeout :
    ¬∀ (neckController : NeckController FloatMath.axis) (config : GatewayConfig)
      (history before after : History ℚ) (final : VrGateway FloatMath.axis) (entry : CallEntry ℚ)
      (event : NeckTargetEvent ℚ),
      Machine.Run VrGateway.step (VrGateway.new neckController config) history final →
      ClockMonotone history → history = before ++ entry :: after →
      .neckTarget event ∈ returned entry →
      |event.panDegrees - (previousTarget neckController.config.initialTarget before
          event.sessionId).panDegrees| ≤
        neckController.config.maxPanRateDegreesPerSecond *
          ((config.motionWatchdogTimeoutNs : ℚ) / 10 ^ 9) ∧
      |event.tiltDegrees - (previousTarget neckController.config.initialTarget before
          event.sessionId).tiltDegrees| ≤
        neckController.config.maxTiltRateDegreesPerSecond *
          ((config.motionWatchdogTimeoutNs : ℚ) / 10 ^ 9) := by
  intro always
  have bounded := (always Session.controller {} _ _ [] _ Session.resumed Session.latestTarget
    (Session.paused_run.snoc _) Session.resumed_monotone rfl Session.latestTarget_emitted).1
  have initial : (previousTarget Session.neckConfig.initialTarget Session.paused.1
      (py "s")).panDegrees = 0 := by
    decide +kernel
  change |(-12 : ℚ) - (previousTarget Session.neckConfig.initialTarget Session.paused.1
    (py "s")).panDegrees| ≤ 30 * (((250000000 : ℤ) : ℚ) / 10 ^ 9) at bounded
  rw [initial] at bounded
  norm_num at bounded

end ValeraControlTower

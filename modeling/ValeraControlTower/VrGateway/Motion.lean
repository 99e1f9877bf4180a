import ValeraControlTower.VrGateway.Authorisation
import ValeraControlTower.VrGateway.NeckBounds

/-!
# Bounded motion within a session

With clock readings that never go back, the neck controller of an active session is
within reach of the initial target since the first recenter, and of every target the
session has returned.  Rejected commands, raised updates and active recenters keep
that, since none of them moves the last target faster.
-/

namespace ValeraControlTower

variable {K : Type} [Field K] [LinearOrder K] [IsStrictOrderedRing K] {M : FloatMath K}

/-- The clock readings of a run never go back. -/
def ClockMonotone (history : History K) : Prop :=
  history.Pairwise fun earlier later => earlier.input.nowNs ≤ later.input.nowNs

/-- The head position an event commands. -/
def NeckTargetEvent.target (event : NeckTargetEvent K) : NeckTarget K :=
  ⟨event.panDegrees, event.tiltDegrees⟩

/-- The target before the first update of a session. -/
def ValidNeckControlConfig.initialTarget (config : ValidNeckControlConfig K) : NeckTarget K :=
  ⟨config.initialPanDegrees, config.initialTiltDegrees⟩

/-- A position at a reading is in reach of the initial target since the session's first
recenter. -/
def ReachesInitial (config : ValidNeckControlConfig K) (M : FloatMath K) (history : History K)
    (sessionId : PyStr) (nowNs : ℤ) (target : NeckTarget K) : Prop :=
  ∃ before recenter after, history = before ++ recenter :: after ∧
    Accepts M recenter .headRecenter sessionId ∧
    (∀ entry ∈ before, ¬Accepts M entry .headRecenter sessionId) ∧
    Reaches config.toNeckControlConfig recenter.input.nowNs config.initialTarget nowNs target

/-- What an active session has done to its neck controller. -/
structure Tracked (M : FloatMath K) (history : History K) (sessionId : PyStr)
    (controller : NeckController M) : Prop where
  limits : InLimits controller.config.toNeckControlConfig controller.lastTarget
  stamped : ∃ entry ∈ history, controller.lastUpdateNs = entry.input.nowNs
  initial : ReachesInitial controller.config M history sessionId controller.lastUpdateNs
    controller.lastTarget
  returned : ∀ entry ∈ history, ∀ event ∈ targets entry, event.sessionId = sessionId →
    Reaches controller.config.toNeckControlConfig entry.input.nowNs event.target
      controller.lastUpdateNs controller.lastTarget

variable {history : History K} {entry : CallEntry K} {sessionId : PyStr}
  {controller next : NeckController M} {command : CommandEnvelope M}

theorem ReachesInitial.extend {config : ValidNeckControlConfig K} {nowNs later : ℤ}
    {target moved : NeckTarget K} (reaches : ReachesInitial config M history sessionId nowNs target)
    (onward : Reaches config.toNeckControlConfig nowNs target later moved) :
    ReachesInitial config M (history ++ [entry]) sessionId later moved := by
  obtain ⟨before, recenter, after, rfl, recentered, first, reach⟩ := reaches
  exact ⟨before, recenter, after ++ [entry], by simp, recentered, first, reach.trans onward⟩

namespace Tracked

omit [IsStrictOrderedRing K] in
/-- The last update is no later than the next call. -/
theorem ordered (tracked : Tracked M history sessionId controller)
    (monotone : ClockMonotone (history ++ [entry])) :
    controller.lastUpdateNs ≤ entry.input.nowNs := by
  obtain ⟨earlier, membership, stamped⟩ := tracked.stamped
  rw [stamped]
  exact (List.pairwise_append.mp monotone).2.2 earlier membership entry (by simp)

/-- A call that returns no target and leaves the controller alone. -/
theorem keep (tracked : Tracked M history sessionId controller) (still : targets entry = []) :
    Tracked M (history ++ [entry]) sessionId controller where
  limits := tracked.limits
  stamped := by
    obtain ⟨earlier, membership, stamped⟩ := tracked.stamped
    exact ⟨earlier, List.mem_append_left _ membership, stamped⟩
  initial := tracked.initial.extend (.still le_rfl _)
  returned := by
    intro other membership event emitted same
    rcases List.mem_append.mp membership with earlier | last
    · exact tracked.returned other earlier event emitted same
    · rw [List.mem_singleton.mp last, still] at emitted
      cases emitted

/-- The controller moves on within reach; the call may return where it got to. -/
theorem advance (tracked : Tracked M history sessionId controller)
    (sameConfig : next.config = controller.config)
    (stamped : next.lastUpdateNs = entry.input.nowNs)
    (limits : InLimits controller.config.toNeckControlConfig next.lastTarget)
    (onward : Reaches controller.config.toNeckControlConfig controller.lastUpdateNs
      controller.lastTarget entry.input.nowNs next.lastTarget)
    (emits : ∀ event ∈ targets entry, event.target = next.lastTarget) :
    Tracked M (history ++ [entry]) sessionId next where
  limits := by
    rw [sameConfig]
    exact limits
  stamped := ⟨entry, by simp, stamped⟩
  initial := by
    rw [sameConfig, stamped]
    exact tracked.initial.extend onward
  returned := by
    rw [sameConfig, stamped]
    intro other membership event emitted same
    rcases List.mem_append.mp membership with earlier | last
    · exact (tracked.returned other earlier event emitted same).trans onward
    · obtain rfl := List.mem_singleton.mp last
      rw [emits event emitted]
      exact .still le_rfl _

/-- A call of `update`, whether it returns or raises. -/
theorem update (tracked : Tracked M history sessionId controller)
    (monotone : ClockMonotone (history ++ [entry])) (orientation : Quaternion M)
    (emits : ∀ event ∈ targets entry,
      event.target = (controller.update orientation entry.input.nowNs).1.lastTarget) :
    Tracked M (history ++ [entry]) sessionId
      (controller.update orientation entry.input.nowNs).1 := by
  obtain ⟨limits, onward⟩ := NeckController.update_reaches orientation tracked.limits
    (tracked.ordered monotone)
  exact tracked.advance (by simp) (by simp) limits onward emits

/-- An active recenter keeps the last target. -/
theorem recenter (tracked : Tracked M history sessionId controller)
    (monotone : ClockMonotone (history ++ [entry])) (orientation : Quaternion M)
    (still : targets entry = []) :
    Tracked M (history ++ [entry]) sessionId
      (controller.recenter orientation entry.input.nowNs true) :=
  tracked.advance (controller.recenter_config orientation _ true)
    (controller.recenter_lastUpdateNs orientation _ true) tracked.limits
    (.still (tracked.ordered monotone) _) (by simp [still])

/-- The first recenter puts the controller at the initial target. -/
theorem first (controller : NeckController M) (taken : accepted M entry = some command)
    (named : command.command = .headRecenter) (same : command.sessionId = sessionId)
    (never : ∀ other ∈ history, ¬Accepts M other .headRecenter sessionId)
    (unmoved : ∀ other ∈ history, ∀ event ∈ targets other, event.sessionId ≠ sessionId)
    (still : targets entry = []) (orientation : Quaternion M) :
    Tracked M (history ++ [entry]) sessionId
      (controller.recenter orientation entry.input.nowNs false) where
  limits := controller.config.facts.1
  stamped := ⟨entry, by simp, rfl⟩
  initial := ⟨history, entry, [], rfl, ⟨command, taken, named, same⟩, never, .still le_rfl _⟩
  returned := by
    intro other membership event emitted isSession
    rcases List.mem_append.mp membership with earlier | last
    · exact absurd isSession (unmoved other earlier event emitted)
    · rw [List.mem_singleton.mp last, still] at emitted
      cases emitted

end Tracked

/-! ## The invariant -/

/-- Targets belong to used sessions; an awaiting session has none; an active session
tracks its controller. -/
structure NeckInvariant (history : History K) (gateway : VrGateway M) : Prop where
  used : ∀ entry ∈ history, ∀ event ∈ targets entry, event.sessionId ∈ gateway.usedSessionIds
  awaiting : gateway.state = .awaitingRecenter →
    ∀ sessionId, gateway.activeSessionId = some sessionId →
    ∀ entry ∈ history, ∀ event ∈ targets entry, event.sessionId ≠ sessionId
  active : gateway.state = .headActive →
    ∀ sessionId, gateway.activeSessionId = some sessionId →
    Tracked M history sessionId gateway.neckController

namespace NeckInvariant

variable {gateway after : VrGateway M}

omit [Field K] [LinearOrder K] [IsStrictOrderedRing K] in
/-- What holds of every target so far holds after a call that returns none. -/
theorem forall_targets_append {motive : NeckTargetEvent K → Prop}
    (sofar : ∀ other ∈ history, ∀ event ∈ targets other, motive event)
    (now : ∀ event ∈ targets entry, motive event) :
    ∀ other ∈ history ++ [entry], ∀ event ∈ targets other, motive event := by
  intro other membership
  rcases List.mem_append.mp membership with earlier | last
  · exact sofar other earlier
  · rwa [List.mem_singleton.mp last]

/-- A call that returns no target and keeps state, session and controller. -/
theorem keep (invariant : NeckInvariant history gateway) (still : targets entry = [])
    (used : after.usedSessionIds = gateway.usedSessionIds)
    (state : after.state = gateway.state)
    (session : after.activeSessionId = gateway.activeSessionId)
    (controller : after.neckController = gateway.neckController) :
    NeckInvariant (history ++ [entry]) after where
  used := by
    rw [used]
    exact forall_targets_append invariant.used (by simp [still])
  awaiting := by
    intro awaiting sessionId active
    rw [state] at awaiting
    rw [session] at active
    exact forall_targets_append (invariant.awaiting awaiting sessionId active) (by simp [still])
  active := by
    intro headActive sessionId active
    rw [state] at headActive
    rw [session] at active
    rw [controller]
    exact (invariant.active headActive sessionId active).keep still

omit [IsStrictOrderedRing K] in
/-- A call that leaves no session. -/
theorem close (invariant : NeckInvariant history gateway) (still : targets entry = [])
    (state : GatewayState) : NeckInvariant (history ++ [entry]) (gateway.endSession state) where
  used := forall_targets_append invariant.used (by simp [still])
  awaiting := fun _ _ active => by cases active
  active := fun _ _ active => by cases active

omit [IsStrictOrderedRing K] in
/-- A call that leaves the head active and its controller tracked. -/
theorem track (invariant : NeckInvariant history gateway)
    (now : ∀ event ∈ targets entry, event.sessionId ∈ gateway.usedSessionIds)
    (used : after.usedSessionIds = gateway.usedSessionIds)
    (active : after.state = .headActive)
    (tracked : ∀ sessionId, after.activeSessionId = some sessionId →
      Tracked M (history ++ [entry]) sessionId after.neckController) :
    NeckInvariant (history ++ [entry]) after where
  used := by
    rw [used]
    exact forall_targets_append invariant.used now
  awaiting := by
    intro awaiting
    rw [active] at awaiting
    cases awaiting
  active := fun _ => tracked

theorem step (invariant : NeckInvariant history gateway)
    (motion : MotionInvariant history gateway) (monotone : ClockMonotone (history ++ [entry]))
    (outcome : VrGateway.StepCase gateway entry after) :
    NeckInvariant (history ++ [entry]) after := by
  cases outcome with
  | unchanged refused still ordinary => exact invariant.keep still rfl rfl rfl rfl
  | expired stopped refused still ordinary live => exact invariant.close still _
  | updateRaised refused still ordinary active raised =>
      refine invariant.track (by simp [still]) rfl active ?_
      intro sessionId isActive
      exact (invariant.active active sessionId isActive).update monotone _ (by simp [still])
  | emergencyStop taken still emergency => exact invariant.close still _
  | @sessionStart command taken still ordinary named notDue unlatched first fresh =>
      refine ⟨?_, ?_, fun active => by cases active⟩
      · refine forall_targets_append ?_ (by simp [still])
        intro other membership event emitted
        exact Finset.mem_insert_of_mem (invariant.used other membership event emitted)
      · intro _ sessionId active
        cases active
        refine forall_targets_append ?_ (by simp [still])
        intro other membership event emitted same
        have seen := invariant.used other membership event emitted
        rw [same] at seen
        exact fresh seen
  | modeSet taken still ordinary named notDue inSession =>
      exact invariant.keep still rfl rfl rfl rfl
  | @headRecenter command orientation taken still ordinary named notDue inSession live =>
      refine invariant.track (by simp [still]) rfl rfl ?_
      intro sessionId isActive
      change Tracked M _ sessionId (gateway.neckController.recenter orientation
        entry.input.nowNs (decide (gateway.state = .headActive)))
      rcases live with awaiting | active
      · obtain ⟨other, otherActive, _, never⟩ := motion.awaiting awaiting
        obtain rfl := Option.some.inj (otherActive.symm.trans isActive)
        have same := Option.some.inj (inSession.active.symm.trans isActive)
        rw [decide_eq_false (by simp [awaiting])]
        exact .first _ taken named same never (invariant.awaiting awaiting _ isActive) still _
      · rw [decide_eq_true active]
        exact (invariant.active active sessionId isActive).recenter monotone _ still
  | @headPose command orientation target taken moved ordinary named notDue inSession active
      updated =>
      refine invariant.track ?_ rfl active ?_
      · intro event emitted
        rw [moved, List.mem_singleton] at emitted
        subst emitted
        exact motion.activeUsed _ inSession.active
      · intro sessionId isActive
        apply (invariant.active active sessionId isActive).update monotone _
        intro event emitted
        rw [moved, List.mem_singleton] at emitted
        subst emitted
        exact (NeckController.update_target updated).symm
  | sessionStop taken still ordinary named notDue inSession => exact invariant.close still _

/-- The target of a call, against the run before it. -/
theorem reached (invariant : NeckInvariant history gateway)
    (monotone : ClockMonotone (history ++ [entry]))
    (outcome : VrGateway.StepCase gateway entry after) {event : NeckTargetEvent K}
    (emitted : event ∈ targets entry) :
    InLimits gateway.neckController.config.toNeckControlConfig event.target ∧
    ReachesInitial gateway.neckController.config M history event.sessionId
      entry.input.nowNs event.target ∧
    ∀ earlier ∈ history, ∀ old ∈ targets earlier, old.sessionId = event.sessionId →
      Reaches gateway.neckController.config.toNeckControlConfig earlier.input.nowNs old.target
        entry.input.nowNs event.target := by
  obtain ⟨command, orientation, target, rfl, _, _, _, inSession, active, updated⟩ :=
    outcome.pose_of_emitted emitted
  have tracked := invariant.active active _ inSession.active
  obtain ⟨limits, onward⟩ := NeckController.update_reaches orientation tracked.limits
    (tracked.ordered monotone)
  rw [NeckController.update_target updated] at limits onward
  refine ⟨limits, ?_, ?_⟩
  · obtain ⟨before, recenter, since, cut, recentered, first, reach⟩ := tracked.initial
    exact ⟨before, recenter, since, cut, recentered, first, reach.trans onward⟩
  · intro earlier membership old returned same
    exact (tracked.returned earlier membership old returned same).trans onward

omit [IsStrictOrderedRing K] in
theorem initial (neckController : NeckController M) (config : GatewayConfig) :
    NeckInvariant [] (VrGateway.new neckController config) where
  used := by simp
  awaiting := by simp [VrGateway.new]
  active := by simp [VrGateway.new]

theorem of_run {neckController : NeckController M} {config : GatewayConfig}
    (run : Machine.Run VrGateway.step (VrGateway.new neckController config) history gateway)
    (monotone : ClockMonotone history) : NeckInvariant history gateway := by
  have shown := run.invariant (motive := fun history state => MotionInvariant history state ∧
    (ClockMonotone history → NeckInvariant history state))
    ⟨.initial neckController config, fun _ => initial neckController config⟩ ?_
  · exact shown.2 monotone
  · rintro history state input ⟨motion, sofar⟩
    have outcome := state.step_cases input
    refine ⟨motion.step outcome, fun ordered => ?_⟩
    exact (sofar (List.pairwise_append.mp ordered).1).step motion ordered outcome

end NeckInvariant

/-- Each target of a run, against the part of the run before it. -/
theorem target_reached {neckController : NeckController M} {config : GatewayConfig}
    {before after : History K} {final : VrGateway M}
    (run : Machine.Run VrGateway.step (VrGateway.new neckController config)
      (before ++ entry :: after) final)
    (monotone : ClockMonotone (before ++ entry :: after)) {event : NeckTargetEvent K}
    (emitted : event ∈ targets entry) :
    InLimits neckController.config.toNeckControlConfig event.target ∧
    ReachesInitial neckController.config M before event.sessionId entry.input.nowNs
      event.target ∧
    ∀ earlier ∈ before, ∀ old ∈ targets earlier, old.sessionId = event.sessionId →
      Reaches neckController.config.toNeckControlConfig earlier.input.nowNs old.target
        entry.input.nowNs event.target := by
  obtain ⟨gateway, past, output, _⟩ := run.entry
  have fixed : gateway.neckController.config = neckController.config :=
    VrGateway.neckConfig_of_run past
  rw [← List.singleton_append, ← List.append_assoc] at monotone
  have sofar := (List.pairwise_append.mp monotone).1
  have invariant := NeckInvariant.of_run past (List.pairwise_append.mp sofar).1
  have outcome := gateway.step_cases entry.input
  rw [← output] at outcome
  rw [← fixed]
  exact invariant.reached sofar outcome emitted

/-- The targets of one session lie in reach of each other. -/
theorem targets_reach {neckController : NeckController M} {config : GatewayConfig}
    {final : VrGateway M}
    (run : Machine.Run VrGateway.step (VrGateway.new neckController config) history final)
    (monotone : ClockMonotone history) :
    history.Pairwise fun earlier later => ∀ first ∈ targets earlier, ∀ second ∈ targets later,
      first.sessionId = second.sessionId →
      Reaches neckController.config.toNeckControlConfig earlier.input.nowNs first.target
        later.input.nowNs second.target := by
  induction run with
  | nil => exact .nil
  | snoc input past inductionHypothesis =>
      have ordered := (List.pairwise_append.mp monotone).1
      refine List.pairwise_append.mpr
        ⟨inductionHypothesis ordered, List.pairwise_singleton _ _, ?_⟩
      intro earlier membership later isLast first returned second emitted same
      obtain rfl := List.mem_singleton.mp isLast
      exact (target_reached (past.snoc input) monotone emitted).2.2 earlier membership first
        returned same

omit [IsStrictOrderedRing K] in
/-- No call returns two targets. -/
theorem targets_unique {start final : VrGateway M}
    (run : Machine.Run VrGateway.step start history final) (membership : entry ∈ history)
    {first second : NeckTargetEvent K} (returned : first ∈ targets entry)
    (emitted : second ∈ targets entry) : first = second := by
  obtain ⟨before, after, rfl⟩ := List.append_of_mem membership
  obtain ⟨gateway, _, output, _⟩ := run.entry
  have outcome := gateway.step_cases entry.input
  rw [← output] at outcome
  rcases outcome.targets_cases with still | ⟨_, _, _, moved, _⟩
  · simp [still] at returned
  · rw [moved, List.mem_singleton] at returned emitted
    rw [returned, emitted]

/-- The order in which two calls are named does not matter. -/
theorem targets_apart {neckController : NeckController M} {config : GatewayConfig}
    {final : VrGateway M}
    (run : Machine.Run VrGateway.step (VrGateway.new neckController config) history final)
    (monotone : ClockMonotone history) {earlier later : CallEntry K}
    (isEarlier : earlier ∈ history) (isLater : later ∈ history)
    (ordered : earlier.input.nowNs ≤ later.input.nowNs) {first second : NeckTargetEvent K}
    (returned : first ∈ targets earlier) (emitted : second ∈ targets later)
    (same : first.sessionId = second.sessionId) :
    Reaches neckController.config.toNeckControlConfig earlier.input.nowNs first.target
      later.input.nowNs second.target := by
  have reach := List.pairwise_iff_getElem.mp (targets_reach run monotone)
  have order := List.pairwise_iff_getElem.mp monotone
  obtain ⟨i, inside, rfl⟩ := List.getElem_of_mem isEarlier
  obtain ⟨j, bounded, rfl⟩ := List.getElem_of_mem isLater
  rcases lt_trichotomy i j with before | rfl | after
  · exact reach i j inside bounded before first returned second emitted same
  · rw [targets_unique run isEarlier returned emitted]
    exact .still le_rfl _
  · have shown := reach j i bounded inside after second emitted first returned same.symm
    exact shown.symm ((order j i bounded inside after).antisymm ordered)

/-- Bounded neck output: with clock readings that never go back, every target lies within
the mechanical limits, two targets of one session differ by at most the rate times the
time between them, and a target differs from the initial one by at most the rate times
the time since the session's first recenter. -/
theorem neckTarget_bounded {neckController : NeckController M} {config : GatewayConfig}
    {final : VrGateway M}
    (run : Machine.Run VrGateway.step (VrGateway.new neckController config) history final)
    (monotone : ClockMonotone history) :
    (∀ entry ∈ history, ∀ event, .neckTarget event ∈ returned entry →
      neckController.config.minPanDegrees ≤ event.panDegrees ∧
      event.panDegrees ≤ neckController.config.maxPanDegrees ∧
      neckController.config.minTiltDegrees ≤ event.tiltDegrees ∧
      event.tiltDegrees ≤ neckController.config.maxTiltDegrees) ∧
    (∀ earlier ∈ history, ∀ later ∈ history, earlier.input.nowNs ≤ later.input.nowNs →
      ∀ first, .neckTarget first ∈ returned earlier →
      ∀ second, .neckTarget second ∈ returned later → first.sessionId = second.sessionId →
      |second.panDegrees - first.panDegrees| ≤
        neckController.config.maxPanRateDegreesPerSecond *
          (((later.input.nowNs - earlier.input.nowNs : ℤ) : K) / 10 ^ 9) ∧
      |second.tiltDegrees - first.tiltDegrees| ≤
        neckController.config.maxTiltRateDegreesPerSecond *
          (((later.input.nowNs - earlier.input.nowNs : ℤ) : K) / 10 ^ 9)) ∧
    ∀ before entry after, history = before ++ entry :: after →
      ∀ event, .neckTarget event ∈ returned entry →
      ∃ earlier recenter since, before = earlier ++ recenter :: since ∧
        Accepts M recenter .headRecenter event.sessionId ∧
        (∀ other ∈ earlier, ¬Accepts M other .headRecenter event.sessionId) ∧
        |event.panDegrees - neckController.config.initialPanDegrees| ≤
          neckController.config.maxPanRateDegreesPerSecond *
            (((entry.input.nowNs - recenter.input.nowNs : ℤ) : K) / 10 ^ 9) ∧
        |event.tiltDegrees - neckController.config.initialTiltDegrees| ≤
          neckController.config.maxTiltRateDegreesPerSecond *
            (((entry.input.nowNs - recenter.input.nowNs : ℤ) : K) / 10 ^ 9) := by
  refine ⟨?_, ?_, ?_⟩
  · intro entry membership event emitted
    obtain ⟨before, after, rfl⟩ := List.append_of_mem membership
    obtain ⟨limits, _⟩ := target_reached run monotone (mem_targets.mpr emitted)
    exact ⟨limits.minPan, limits.maxPan, limits.minTilt, limits.maxTilt⟩
  · intro earlier isEarlier later isLater ordered first returned second emitted same
    have reaches := targets_apart run monotone isEarlier isLater ordered
      (mem_targets.mpr returned) (mem_targets.mpr emitted) same
    exact ⟨reaches.pan, reaches.tilt⟩
  · rintro before entry after rfl event emitted
    obtain ⟨_, ⟨earlier, recenter, since, cut, recentered, first, reach⟩, _⟩ :=
      target_reached run monotone (mem_targets.mpr emitted)
    exact ⟨earlier, recenter, since, cut, recentered, first, reach.pan, reach.tilt⟩

/-- The example session, with a pose repeated under a later number. -/
theorem neckTarget_bounded_session :
    let run := Machine.execute VrGateway.step Session.gateway
      [⟨.handle Session.start.toObject, 0⟩, ⟨.handle Session.recenter.toObject, 100000000⟩,
        ⟨.handle Session.pose.toObject, 200000000⟩, ⟨.poll, 300000000⟩]
    ∀ entry ∈ run.1, ∀ event, .neckTarget event ∈ returned entry →
      -90 ≤ event.panDegrees ∧ event.panDegrees ≤ 90 ∧
      -45 ≤ event.tiltDegrees ∧ event.tiltDegrees ≤ 45 :=
  (neckTarget_bounded (Machine.execute_run VrGateway.step Session.gateway _)
    (by simp [ClockMonotone, Machine.execute])).1

end ValeraControlTower

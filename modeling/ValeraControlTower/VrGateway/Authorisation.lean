import ValeraControlTower.VrGateway.Runs

/-!
# Motion needs a handshake and an unbroken watchdog

A neck target is the last step of a chain: the session was started, recentered
within the handshake timeout, and has since accepted commands without a gap.
`Authorisation` is that chain as a cut of the history.  The gateway holds one in
every `HEAD_ACTIVE` state, and a `Handshake` in every `AWAITING_RECENTER` state.
-/

namespace ValeraControlTower

variable {K : Type} [Field K] [LinearOrder K] {M : FloatMath K}

/-- The call accepted the session's `session.stop`, or a `session.start` of another id. -/
def EndsSession (M : FloatMath K) (entry : CallEntry K) (sessionId : PyStr) : Prop :=
  Accepts M entry .sessionStop sessionId ∨
    ∃ other, other ≠ sessionId ∧ Accepts M entry .sessionStart other

/-- The clock reading of a call that accepted a command of the session. -/
def reading? (M : FloatMath K) (sessionId : PyStr) (entry : CallEntry K) : Option ℤ :=
  match accepted M entry with
  | some command => if command.sessionId = sessionId then some entry.input.nowNs else none
  | none => none

/-- The clock readings at which commands of the session were accepted. -/
def readings (M : FloatMath K) (sessionId : PyStr) (history : History K) : List ℤ :=
  history.filterMap (reading? M sessionId)

/-- Consecutive readings lie less than the motion watchdog timeout apart. -/
def Alive (config : GatewayConfig) (times : List ℤ) : Prop :=
  times.IsChain fun earlier later => later - earlier < config.motionWatchdogTimeoutNs

/-- A session was started and has not been ended since. -/
structure Handshake (M : FloatMath K) (history : History K) (sessionId : PyStr) where
  before : History K
  start : CallEntry K
  since : History K
  split : history = before ++ start :: since
  started : Accepts M start .sessionStart sessionId
  unbroken : ∀ entry ∈ since, ¬EndsSession M entry sessionId

/-- The session was started, recentered in time for the first time, and has neither
ended nor paused since. -/
structure Authorisation (M : FloatMath K) (config : GatewayConfig) (history : History K)
    (sessionId : PyStr) where
  before : History K
  start : CallEntry K
  middle : History K
  recenter : CallEntry K
  after : History K
  split : history = before ++ start :: (middle ++ recenter :: after)
  started : Accepts M start .sessionStart sessionId
  recentered : Accepts M recenter .headRecenter sessionId
  inTime : recenter.input.nowNs - start.input.nowNs < config.handshakeTimeoutNs
  firstRecenter : ∀ entry ∈ before ++ start :: middle, ¬Accepts M entry .headRecenter sessionId
  unbroken : ∀ entry ∈ middle ++ recenter :: after, ¬EndsSession M entry sessionId
  alive : Alive config (readings M sessionId (recenter :: after))

variable {config : GatewayConfig} {history : History K} {sessionId : PyStr}
  {entry : CallEntry K} {command : CommandEnvelope M}

/-! ## What an entry accepts -/

theorem not_accepts_of_refused (refused : accepted M entry = none) (name : CommandName) :
    ¬Accepts M entry name sessionId := by
  rintro ⟨command, taken, _⟩
  rw [refused] at taken
  cases taken

theorem accepts_iff (taken : accepted M entry = some command) (name : CommandName) :
    Accepts M entry name sessionId ↔ command.command = name ∧ command.sessionId = sessionId := by
  constructor
  · rintro ⟨other, otherTaken, matching⟩
    rw [taken] at otherTaken
    cases otherTaken
    exact matching
  · exact fun matching => ⟨command, taken, matching⟩

theorem not_endsSession_of_refused (refused : accepted M entry = none) :
    ¬EndsSession M entry sessionId := by
  rintro (stopped | ⟨other, _, replaced⟩)
  · exact not_accepts_of_refused refused _ stopped
  · exact not_accepts_of_refused refused _ replaced

theorem not_endsSession_of_taken (taken : accepted M entry = some command)
    (notStart : command.command ≠ .sessionStart) (notStop : command.command ≠ .sessionStop) :
    ¬EndsSession M entry sessionId := by
  rintro (stopped | ⟨other, _, replaced⟩)
  · exact notStop ((accepts_iff taken _).mp stopped).1
  · exact notStart ((accepts_iff taken _).mp replaced).1

@[simp]
theorem readings_refused (refused : accepted M entry = none) :
    readings M sessionId [entry] = [] := by
  simp [readings, reading?, refused]

@[simp]
theorem readings_taken (taken : accepted M entry = some command)
    (same : command.sessionId = sessionId) :
    readings M sessionId [entry] = [entry.input.nowNs] := by
  simp [readings, reading?, taken, same]

theorem readings_append (first second : History K) :
    readings M sessionId (first ++ second) =
      readings M sessionId first ++ readings M sessionId second :=
  List.filterMap_append

/-! ## Extending the chain by one call -/

namespace Handshake

/-- A call that does not end the session leaves it open. -/
def extend (handshake : Handshake M history sessionId)
    (continues : ¬EndsSession M entry sessionId) :
    Handshake M (history ++ [entry]) sessionId where
  before := handshake.before
  start := handshake.start
  since := handshake.since ++ [entry]
  split := by
    have shown := congrArg (· ++ [entry]) handshake.split
    simpa using shown
  started := handshake.started
  unbroken := by
    intro other membership
    rcases List.mem_append.mp membership with inside | last
    · exact handshake.unbroken other inside
    · rwa [List.mem_singleton.mp last]

/-- A session just started. -/
def opened (history : History K) (started : Accepts M entry .sessionStart sessionId) :
    Handshake M (history ++ [entry]) sessionId where
  before := history
  start := entry
  since := []
  split := rfl
  started := started
  unbroken := by simp

/-- The first recenter completes the handshake. -/
def authorise (handshake : Handshake M history sessionId)
    (taken : accepted M entry = some command)
    (named : command.command = .headRecenter) (same : command.sessionId = sessionId)
    (inTime : entry.input.nowNs - handshake.start.input.nowNs < config.handshakeTimeoutNs)
    (never : ∀ other ∈ history, ¬Accepts M other .headRecenter sessionId) :
    Authorisation M config (history ++ [entry]) sessionId where
  before := handshake.before
  start := handshake.start
  middle := handshake.since
  recenter := entry
  after := []
  split := by
    have shown := congrArg (· ++ [entry]) handshake.split
    simpa using shown
  started := handshake.started
  recentered := ⟨command, taken, named, same⟩
  inTime := inTime
  firstRecenter := by
    have shown := handshake.split ▸ never
    exact shown
  unbroken := by
    intro other membership
    rcases List.mem_append.mp membership with inside | last
    · exact handshake.unbroken other inside
    · rw [List.mem_singleton.mp last]
      exact not_endsSession_of_taken taken (by simp [named]) (by simp [named])
  alive := by
    rw [readings_taken taken same]
    exact List.isChain_singleton _

end Handshake

namespace Authorisation

/-- The readings of the session from the first recenter on. -/
def times (permit : Authorisation M config history sessionId) : List ℤ :=
  readings M sessionId (permit.recenter :: permit.after)

/-- A call that does not end the session, and is not too late if it accepts. -/
def extend (permit : Authorisation M config history sessionId)
    (continues : ¬EndsSession M entry sessionId)
    (alive : Alive config (permit.times ++ readings M sessionId [entry])) :
    Authorisation M config (history ++ [entry]) sessionId where
  before := permit.before
  start := permit.start
  middle := permit.middle
  recenter := permit.recenter
  after := permit.after ++ [entry]
  split := by
    have shown := congrArg (· ++ [entry]) permit.split
    simpa using shown
  started := permit.started
  recentered := permit.recentered
  inTime := permit.inTime
  firstRecenter := permit.firstRecenter
  unbroken := by
    intro other membership
    rw [← List.cons_append, ← List.append_assoc] at membership
    rcases List.mem_append.mp membership with inside | last
    · exact permit.unbroken other inside
    · rwa [List.mem_singleton.mp last]
  alive := by
    rw [← List.cons_append, readings_append]
    exact alive

theorem times_extend (permit : Authorisation M config history sessionId)
    (continues : ¬EndsSession M entry sessionId)
    (alive : Alive config (permit.times ++ readings M sessionId [entry])) :
    (permit.extend continues alive).times = permit.times ++ readings M sessionId [entry] := by
  unfold times extend
  rw [← List.cons_append, readings_append]

/-- One more reading, taken before the watchdog elapsed. -/
theorem alive_snoc (permit : Authorisation M config history sessionId) {last nowNs : ℤ}
    (latest : permit.times.getLast? = some last)
    (early : nowNs - last < config.motionWatchdogTimeoutNs) :
    Alive config (permit.times ++ [nowNs]) := by
  apply permit.alive.append (List.isChain_singleton _)
  intro earlier isLast later isHead
  change earlier ∈ permit.times.getLast? at isLast
  rw [latest] at isLast
  cases isLast
  cases isHead
  exact early

end Authorisation

/-! ## The invariant -/

/-- How the session fields and the state reflect the history. -/
structure MotionInvariant (history : History K) (gateway : VrGateway M) : Prop where
  used : ∀ entry ∈ history, ∀ command, accepted M entry = some command →
    ¬IsEmergencyStop M entry.input → command.sessionId ∈ gateway.usedSessionIds
  unstopped : gateway.state ≠ .estopLatched →
    ∀ entry ∈ history, ¬IsEmergencyStop M entry.input
  unlatched : gateway.activeSessionId ≠ none → gateway.state ≠ .estopLatched
  activeUsed : ∀ sessionId, gateway.activeSessionId = some sessionId →
    sessionId ∈ gateway.usedSessionIds
  awaiting : gateway.state = .awaitingRecenter → ∃ sessionId,
    gateway.activeSessionId = some sessionId ∧
    (∃ handshake : Handshake M history sessionId,
      gateway.sessionStartedMonotonicNs = some handshake.start.input.nowNs) ∧
    ∀ entry ∈ history, ¬Accepts M entry .headRecenter sessionId
  active : gateway.state = .headActive → ∃ sessionId last,
    gateway.activeSessionId = some sessionId ∧
    gateway.lastValidPacketReceivedMonotonicNs = some last ∧
    ∃ permit : Authorisation M gateway.config history sessionId,
      permit.times.getLast? = some last

namespace MotionInvariant

variable {gateway : VrGateway M}

theorem initial (neckController : NeckController M) (config : GatewayConfig) :
    MotionInvariant [] (VrGateway.new neckController config) where
  used := by simp
  unstopped := by simp
  unlatched := by simp [VrGateway.new]
  activeUsed := by simp [VrGateway.new]
  awaiting := by simp [VrGateway.new]
  active := by simp [VrGateway.new]

/-- The ids seen so far stay used when the set does not shrink. -/
theorem used_append (invariant : MotionInvariant history gateway) {usedSessionIds : Finset PyStr}
    (grows : gateway.usedSessionIds ⊆ usedSessionIds)
    (added : ∀ command, accepted M entry = some command →
      ¬IsEmergencyStop M entry.input → command.sessionId ∈ usedSessionIds) :
    ∀ other ∈ history ++ [entry], ∀ command, accepted M other = some command →
      ¬IsEmergencyStop M other.input → command.sessionId ∈ usedSessionIds := by
  intro other membership command taken ordinary
  rcases List.mem_append.mp membership with earlier | last
  · exact grows (invariant.used other earlier command taken ordinary)
  · rw [List.mem_singleton.mp last] at taken ordinary
    exact added command taken ordinary

theorem unstopped_append (invariant : MotionInvariant history gateway)
    (ordinary : ¬IsEmergencyStop M entry.input) (unlatched : gateway.state ≠ .estopLatched) :
    ∀ other ∈ history ++ [entry], ¬IsEmergencyStop M other.input := by
  intro other membership
  rcases List.mem_append.mp membership with earlier | last
  · exact invariant.unstopped unlatched other earlier
  · rwa [List.mem_singleton.mp last]

theorem never_append {sessionId : PyStr}
    (never : ∀ other ∈ history, ¬Accepts M other .headRecenter sessionId)
    (notNow : ¬Accepts M entry .headRecenter sessionId) :
    ∀ other ∈ history ++ [entry], ¬Accepts M other .headRecenter sessionId := by
  intro other membership
  rcases List.mem_append.mp membership with earlier | last
  · exact never other earlier
  · rwa [List.mem_singleton.mp last]

/-- A call that accepts nothing and keeps the session fields keeps the invariant. -/
theorem refuse (invariant : MotionInvariant history gateway)
    (refused : accepted M entry = none) (ordinary : ¬IsEmergencyStop M entry.input)
    (neckController : NeckController M) :
    MotionInvariant (history ++ [entry]) { gateway with neckController } where
  used := invariant.used_append (subset_refl _) (by simp [refused])
  unstopped := invariant.unstopped_append ordinary
  unlatched := invariant.unlatched
  activeUsed := invariant.activeUsed
  awaiting := by
    intro awaiting
    obtain ⟨sessionId, active, ⟨handshake, started⟩, never⟩ := invariant.awaiting awaiting
    exact ⟨sessionId, active,
      ⟨handshake.extend (not_endsSession_of_refused refused), started⟩,
      never_append never (not_accepts_of_refused refused _)⟩
  active := by
    intro headActive
    obtain ⟨sessionId, last, active, received, permit, latest⟩ := invariant.active headActive
    have alive : Alive gateway.config (permit.times ++ readings M sessionId [entry]) := by
      rw [readings_refused refused, List.append_nil]
      exact permit.alive
    refine ⟨sessionId, last, active, received,
      permit.extend (not_endsSession_of_refused refused) alive, ?_⟩
    rw [permit.times_extend, readings_refused refused, List.append_nil]
    exact latest

/-- Without a session there is nothing to show but the ids and the latch. -/
theorem endSession (invariant : MotionInvariant history gateway) {state : GatewayState}
    (inactive : state ≠ .awaitingRecenter ∧ state ≠ .headActive)
    (added : ∀ command, accepted M entry = some command →
      ¬IsEmergencyStop M entry.input → command.sessionId ∈ gateway.usedSessionIds)
    (unstopped : state ≠ .estopLatched →
      ¬IsEmergencyStop M entry.input ∧ gateway.state ≠ .estopLatched) :
    MotionInvariant (history ++ [entry]) (gateway.endSession state) where
  used := invariant.used_append (subset_refl _) added
  unstopped := fun unlatched =>
    invariant.unstopped_append (unstopped unlatched).1 (unstopped unlatched).2
  unlatched := fun active => absurd rfl active
  activeUsed := fun _ active => by cases active
  awaiting := fun awaiting => absurd awaiting inactive.1
  active := fun active => absurd active inactive.2

/-- A command that neither opens, stops nor first recenters a session is one more
reading of it. -/
theorem continueSession (invariant : MotionInvariant history gateway)
    (taken : accepted M entry = some command) (ordinary : ¬IsEmergencyStop M entry.input)
    (notStart : command.command ≠ .sessionStart) (notStop : command.command ≠ .sessionStop)
    (settled : command.command = .headRecenter → gateway.state = .headActive)
    (notDue : ¬gateway.DeadlineDue entry.input.nowNs) (inSession : gateway.InSession command)
    (neckController : NeckController M) :
    MotionInvariant (history ++ [entry])
      { gateway.accept command entry.input.nowNs with neckController } where
  used := by
    apply invariant.used_append (subset_refl _)
    intro other otherTaken _
    rw [taken] at otherTaken
    cases otherTaken
    exact invariant.activeUsed command.sessionId inSession.active
  unstopped := invariant.unstopped_append ordinary
  unlatched := invariant.unlatched
  activeUsed := invariant.activeUsed
  awaiting := by
    intro awaiting
    obtain ⟨sessionId, active, ⟨handshake, started⟩, never⟩ := invariant.awaiting awaiting
    refine ⟨sessionId, active,
      ⟨handshake.extend (not_endsSession_of_taken taken notStart notStop), started⟩,
      never_append never ?_⟩
    intro recentered
    have headActive := settled ((accepts_iff taken _).mp recentered).1
    change gateway.state = _ at awaiting
    rw [awaiting] at headActive
    cases headActive
  active := by
    intro headActive
    obtain ⟨sessionId, last, active, received, permit, latest⟩ := invariant.active headActive
    have same : command.sessionId = sessionId :=
      Option.some.inj (inSession.active.symm.trans active)
    have alive : Alive gateway.config (permit.times ++ readings M sessionId [entry]) := by
      rw [readings_taken taken same]
      exact permit.alive_snoc latest (VrGateway.early_of_active headActive received notDue)
    have continues : ¬EndsSession M entry sessionId :=
      not_endsSession_of_taken taken notStart notStop
    refine ⟨sessionId, entry.input.nowNs, active, rfl, permit.extend continues alive, ?_⟩
    have extended := permit.times_extend continues alive
    rw [readings_taken taken same] at extended
    exact (congrArg List.getLast? extended).trans List.getLast?_concat

/-- A session opens: its id was never seen before. -/
theorem openSession (invariant : MotionInvariant history gateway)
    (taken : accepted M entry = some command) (ordinary : ¬IsEmergencyStop M entry.input)
    (named : command.command = .sessionStart) (unlatched : gateway.state ≠ .estopLatched)
    (fresh : command.sessionId ∉ gateway.usedSessionIds) :
    MotionInvariant (history ++ [entry]) (gateway.startSession command entry.input.nowNs) where
  used := by
    apply invariant.used_append (Finset.subset_insert _ _)
    intro other otherTaken _
    rw [taken] at otherTaken
    cases otherTaken
    exact Finset.mem_insert_self _ _
  unstopped := fun _ => invariant.unstopped_append ordinary unlatched
  unlatched := fun _ latched => by cases latched
  activeUsed := by
    intro sessionId active
    cases active
    exact Finset.mem_insert_self _ _
  awaiting := by
    intro _
    refine ⟨command.sessionId, rfl,
      ⟨Handshake.opened history ⟨command, taken, named, rfl⟩, rfl⟩, never_append ?_ ?_⟩
    · rintro other membership ⟨recenter, recentered, _, same⟩
      have seen := invariant.used other membership recenter recentered
        (invariant.unstopped unlatched other membership)
      rw [same] at seen
      exact fresh seen
    · intro recentered
      have isRecenter := ((accepts_iff taken _).mp recentered).1
      rw [named] at isRecenter
      cases isRecenter
  active := fun headActive => by cases headActive

/-- The first recenter of an awaiting session authorises motion. -/
theorem firstRecenter (invariant : MotionInvariant history gateway)
    (taken : accepted M entry = some command) (ordinary : ¬IsEmergencyStop M entry.input)
    (named : command.command = .headRecenter)
    (notDue : ¬gateway.DeadlineDue entry.input.nowNs) (inSession : gateway.InSession command)
    (awaiting : gateway.state = .awaitingRecenter) (orientation : Quaternion M) :
    MotionInvariant (history ++ [entry])
      (gateway.recenterHead command orientation entry.input.nowNs) where
  used := by
    apply invariant.used_append (subset_refl _)
    intro other otherTaken _
    rw [taken] at otherTaken
    cases otherTaken
    exact invariant.activeUsed command.sessionId inSession.active
  unstopped := fun _ => invariant.unstopped_append ordinary (by simp [awaiting])
  unlatched := fun _ latched => by cases latched
  activeUsed := invariant.activeUsed
  awaiting := fun stillAwaiting => by cases stillAwaiting
  active := by
    intro _
    obtain ⟨sessionId, active, ⟨handshake, started⟩, never⟩ := invariant.awaiting awaiting
    have same : command.sessionId = sessionId :=
      Option.some.inj (inSession.active.symm.trans active)
    have inTime := VrGateway.early_of_awaiting awaiting started notDue
    refine ⟨sessionId, entry.input.nowNs, active, rfl,
      handshake.authorise taken named same inTime never, ?_⟩
    change (readings M sessionId [entry]).getLast? = _
    rw [readings_taken taken same]
    rfl

theorem step (invariant : MotionInvariant history gateway) {next : VrGateway M}
    (outcome : VrGateway.StepCase gateway entry next) :
    MotionInvariant (history ++ [entry]) next := by
  cases outcome with
  | unchanged refused still ordinary =>
      exact invariant.refuse refused ordinary gateway.neckController
  | expired stopped refused still ordinary live =>
      refine invariant.endSession ?_ (by simp [refused]) ?_
      · rcases stopped with rfl | rfl <;> simp
      · intro _
        refine ⟨ordinary, ?_⟩
        rcases live with awaiting | active
        · simp [awaiting]
        · simp [active]
  | updateRaised refused still ordinary active raised =>
      exact invariant.refuse refused ordinary _
  | emergencyStop taken still emergency =>
      refine invariant.endSession (by simp) ?_ (by simp)
      intro command _ ordinary
      exact absurd ⟨_, validCommand_of_accepted taken, emergency⟩ ordinary
  | sessionStart taken still ordinary named notDue unlatched first fresh =>
      exact invariant.openSession taken ordinary named unlatched fresh
  | modeSet taken still ordinary named notDue inSession =>
      exact invariant.continueSession taken ordinary (by simp [named]) (by simp [named])
        (by simp [named]) notDue inSession gateway.neckController
  | @headRecenter command orientation taken still ordinary named notDue inSession live =>
      rcases live with awaiting | active
      · exact invariant.firstRecenter taken ordinary named notDue inSession awaiting orientation
      · have shown := invariant.continueSession taken ordinary (by simp [named])
          (by simp [named]) (fun _ => active) notDue inSession
          (gateway.recenterHead command orientation entry.input.nowNs).neckController
        rwa [← VrGateway.recenterHead_of_active active] at shown
  | headPose taken moved ordinary named notDue inSession active updated =>
      exact invariant.continueSession taken ordinary (by simp [named]) (by simp [named])
        (by simp [named]) notDue inSession _
  | sessionStop taken still ordinary named notDue inSession =>
      refine invariant.endSession (by simp) ?_ ?_
      · intro command otherTaken _
        rw [taken] at otherTaken
        cases otherTaken
        exact invariant.activeUsed _ inSession.active
      · exact fun _ => ⟨ordinary, invariant.unlatched (by simp [inSession.active])⟩

/-- Every run from a new gateway keeps the invariant. -/
theorem of_run {neckController : NeckController M} {config : GatewayConfig}
    (run : Machine.Run VrGateway.step (VrGateway.new neckController config) history gateway) :
    MotionInvariant history gateway :=
  run.invariant (initial neckController config) fun _ state input invariant =>
    invariant.step (state.step_cases input)

end MotionInvariant

/-- A neck target is returned only for an accepted `head.pose` of a session that was
started, recentered before the handshake timeout and kept alive ever since, in a run
that has not seen an emergency stop. -/
theorem neckTarget_authorised {controller : NeckController M} {config : GatewayConfig}
    {before after : History K} {entry : CallEntry K} {final : VrGateway M}
    (run : Machine.Run VrGateway.step (VrGateway.new controller config)
      (before ++ entry :: after) final)
    {target : NeckTargetEvent K} (emitted : .neckTarget target ∈ returned entry) :
    Accepts M entry .headPose target.sessionId ∧
    (∃ permit : Authorisation M config before target.sessionId,
      Alive config (permit.times ++ [entry.input.nowNs])) ∧
    ∀ earlier ∈ before, ¬IsEmergencyStop M earlier.input := by
  obtain ⟨gateway, past, output, _⟩ := run.entry
  have invariant := MotionInvariant.of_run past
  have fixed : gateway.config = config := VrGateway.config_of_run past
  have outcome := gateway.step_cases entry.input
  rw [← output] at outcome
  replace emitted := mem_targets.mpr emitted
  obtain ⟨command, orientation, _, rfl, taken, named, notDue, inSession, active, _⟩ :=
    outcome.pose_of_emitted emitted
  obtain ⟨sessionId, last, isActive, received, permit, latest⟩ := invariant.active active
  have same := Option.some.inj (inSession.active.symm.trans isActive)
  subst same fixed
  refine ⟨⟨command, taken, named, rfl⟩, ⟨permit, ?_⟩, ?_⟩
  · exact permit.alive_snoc latest (VrGateway.early_of_active active received notDue)
  · exact invariant.unstopped (by simp [active])

/-- The pose of the example session is authorised by its start and recenter. -/
theorem neckTarget_authorised_session :
    Accepts FloatMath.axis Session.moved .headPose (py "s") ∧
    (∃ permit : Authorisation FloatMath.axis {} Session.opened.1 (py "s"),
      Alive {} (permit.times ++ [200000000])) ∧
    ∀ earlier ∈ Session.opened.1, ¬IsEmergencyStop FloatMath.axis earlier.input := by
  have emitted : .neckTarget ⟨200000000, py "s", 3, -3, 0, false, schemaVersion, .neckTarget⟩ ∈
      returned Session.moved := by
    decide +kernel
  exact neckTarget_authorised (Session.opened_run.snoc _) emitted

end ValeraControlTower

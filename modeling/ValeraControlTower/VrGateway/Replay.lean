import ValeraControlTower.Library.SessionLog
import ValeraControlTower.VrGateway.Runs

/-!
# No command is accepted twice

Whatever is delivered, in whatever order and however often, the accepted commands
form a session log: `ReplayInvariant` ties the session fields of the gateway to the
log of its history.
-/

namespace ValeraControlTower

open SessionLog

variable {K : Type} [Field K] [LinearOrder K] {M : FloatMath K}

/-- The accepted command of a call, unless it is an `emergency_stop`. -/
def acceptedOrdinary (M : FloatMath K) (entry : CallEntry K) : Option (CommandEnvelope M) :=
  (accepted M entry).filter fun command => command.command ≠ .emergencyStop

/-- The accepted commands of a run other than `emergency_stop`, oldest first. -/
def acceptedCommands (M : FloatMath K) (history : History K) : List (CommandEnvelope M) :=
  history.filterMap (acceptedOrdinary M)

/-- Commands as items of a session log: `session.start` opens, sequences start at 1. -/
def commandView (M : FloatMath K) : View (CommandEnvelope M) PyStr ℤ ℤ where
  session := CommandEnvelope.sessionId
  sequence := CommandEnvelope.sequence
  timestamp := CommandEnvelope.timestampMs
  opens command := command.command = .sessionStart
  first := 1

variable {history : History K} {entry : CallEntry K} {gateway next : VrGateway M}
  {command : CommandEnvelope M}

theorem acceptedCommands_refused (refused : accepted M entry = none) :
    acceptedCommands M (history ++ [entry]) = acceptedCommands M history := by
  simp [acceptedCommands, acceptedOrdinary, refused]

theorem acceptedCommands_emergency (taken : accepted M entry = some command)
    (emergency : VrGateway.isEmergencyStop command = true) :
    acceptedCommands M (history ++ [entry]) = acceptedCommands M history := by
  simp [acceptedCommands, acceptedOrdinary, taken, VrGateway.isEmergencyStop_command emergency]

theorem acceptedCommands_taken (taken : accepted M entry = some command)
    (ordinary : command.command ≠ .emergencyStop) :
    acceptedCommands M (history ++ [entry]) = acceptedCommands M history ++ [command] := by
  have ordinaryTaken : acceptedOrdinary M entry = some command := by
    simp [acceptedOrdinary, taken, ordinary]
  simp [acceptedCommands, ordinaryTaken]

/-- The session fields mirror the log of accepted commands. -/
structure ReplayInvariant (history : History K) (gateway : VrGateway M) : Prop where
  used : ∀ command ∈ acceptedCommands M history, command.sessionId ∈ gateway.usedSessionIds
  ledger : Ledger (commandView M) (acceptedCommands M history)
  active : ∀ sessionId, gateway.activeSessionId = some sessionId →
    sessionId ∈ gateway.usedSessionIds ∧
    ∃ last, Open (commandView M) (acceptedCommands M history) sessionId last ∧
      gateway.lastSequence = some last.sequence ∧
      gateway.lastTimestampMs = some last.timestampMs

namespace ReplayInvariant

theorem initial (neckController : NeckController M) (config : GatewayConfig) :
    ReplayInvariant [] (VrGateway.new neckController config) where
  used := by simp [acceptedCommands]
  ledger := .nil
  active := by simp [VrGateway.new]

/-- A call that adds nothing to the log and keeps the session fields. -/
theorem keep (invariant : ReplayInvariant history gateway)
    (same : acceptedCommands M (history ++ [entry]) = acceptedCommands M history)
    (neckController : NeckController M) :
    ReplayInvariant (history ++ [entry]) { gateway with neckController } where
  used := by
    rw [same]
    exact invariant.used
  ledger := by
    rw [same]
    exact invariant.ledger
  active := by
    rw [same]
    exact invariant.active

/-- A call that adds nothing to the log and leaves no session. -/
theorem close (invariant : ReplayInvariant history gateway)
    (same : acceptedCommands M (history ++ [entry]) = acceptedCommands M history)
    (state : GatewayState) :
    ReplayInvariant (history ++ [entry]) (gateway.endSession state) where
  used := by
    rw [same]
    exact invariant.used
  ledger := by
    rw [same]
    exact invariant.ledger
  active := fun _ active => by cases active

/-- Ids stay used when an accepted command of a used session joins the log. -/
theorem used_append (invariant : ReplayInvariant history gateway)
    (taken : accepted M entry = some command)
    (ordinary : command.command ≠ .emergencyStop) {usedSessionIds : Finset PyStr}
    (grows : gateway.usedSessionIds ⊆ usedSessionIds)
    (added : command.sessionId ∈ usedSessionIds) :
    ∀ other ∈ acceptedCommands M (history ++ [entry]), other.sessionId ∈ usedSessionIds := by
  rw [acceptedCommands_taken taken ordinary]
  intro other membership
  rcases List.mem_append.mp membership with earlier | last
  · exact grows (invariant.used other earlier)
  · rwa [List.mem_singleton.mp last]

/-- The gates of `handle` are what the log needs for one more item. -/
theorem open_extend (invariant : ReplayInvariant history gateway)
    (taken : accepted M entry = some command)
    (ordinary : command.command ≠ .emergencyStop)
    (notStart : command.command ≠ .sessionStart) (inSession : gateway.InSession command) :
    Open (commandView M) (acceptedCommands M (history ++ [entry])) command.sessionId
      command := by
  rw [acceptedCommands_taken taken ordinary]
  obtain ⟨_, last, current, lastSequence, lastTimestampMs⟩ :=
    invariant.active command.sessionId inSession.active
  exact current.extend rfl (by simp [commandView, notStart])
    (inSession.newer last.sequence lastSequence)
    (inSession.notEarlier last.timestampMs lastTimestampMs)

/-- An accepted command that neither opens nor stops the session. -/
theorem continueSession (invariant : ReplayInvariant history gateway)
    (taken : accepted M entry = some command)
    (ordinary : command.command ≠ .emergencyStop)
    (notStart : command.command ≠ .sessionStart) (inSession : gateway.InSession command)
    (used : next.usedSessionIds = gateway.usedSessionIds)
    (active : next.activeSessionId = gateway.activeSessionId)
    (lastSequence : next.lastSequence = some command.sequence)
    (lastTimestampMs : next.lastTimestampMs = some command.timestampMs) :
    ReplayInvariant (history ++ [entry]) next where
  used := by
    rw [used]
    exact invariant.used_append taken ordinary (subset_refl _)
      (invariant.active _ inSession.active).1
  ledger := (invariant.open_extend taken ordinary notStart inSession).ledger
  active := by
    intro sessionId isActive
    rw [active, inSession.active] at isActive
    cases isActive
    rw [used]
    exact ⟨(invariant.active _ inSession.active).1, command,
      invariant.open_extend taken ordinary notStart inSession, lastSequence, lastTimestampMs⟩

/-- An accepted `session.start`: its id is new to the log. -/
theorem openSession (invariant : ReplayInvariant history gateway) (nowNs : ℤ)
    (taken : accepted M entry = some command) (named : command.command = .sessionStart)
    (first : command.sequence = 1) (fresh : command.sessionId ∉ gateway.usedSessionIds) :
    ReplayInvariant (history ++ [entry]) (gateway.startSession command nowNs) := by
  have ordinary : command.command ≠ .emergencyStop := by simp [named]
  have current : Open (commandView M) (acceptedCommands M (history ++ [entry]))
      command.sessionId command := by
    rw [acceptedCommands_taken taken ordinary]
    apply Open.start invariant.ledger (by simp [commandView, named]) first
    intro other membership same
    have seen := invariant.used other membership
    rw [show other.sessionId = command.sessionId from same] at seen
    exact fresh seen
  refine ⟨?_, current.ledger, ?_⟩
  · exact invariant.used_append taken ordinary (Finset.subset_insert _ _)
      (Finset.mem_insert_self _ _)
  · intro sessionId isActive
    cases isActive
    exact ⟨Finset.mem_insert_self _ _, command, current, rfl, rfl⟩

/-- An accepted `session.stop` is the last item of its session. -/
theorem stopSession (invariant : ReplayInvariant history gateway)
    (taken : accepted M entry = some command) (named : command.command = .sessionStop)
    (inSession : gateway.InSession command) :
    ReplayInvariant (history ++ [entry]) (gateway.endSession .idle) where
  used := invariant.used_append taken (by simp [named]) (subset_refl _)
    (invariant.active _ inSession.active).1
  ledger := (invariant.open_extend taken (by simp [named]) (by simp [named]) inSession).ledger
  active := fun _ active => by cases active

theorem step (invariant : ReplayInvariant history gateway)
    (outcome : VrGateway.StepCase gateway entry next) :
    ReplayInvariant (history ++ [entry]) next := by
  cases outcome with
  | unchanged refused still ordinary =>
      exact invariant.keep (acceptedCommands_refused refused) gateway.neckController
  | expired stopped refused still ordinary live =>
      exact invariant.close (acceptedCommands_refused refused) _
  | updateRaised refused still ordinary active raised =>
      exact invariant.keep (acceptedCommands_refused refused) _
  | emergencyStop taken still emergency =>
      exact invariant.close (acceptedCommands_emergency taken emergency) _
  | sessionStart taken still ordinary named notDue unlatched first fresh =>
      exact invariant.openSession _ taken named first fresh
  | modeSet taken still ordinary named notDue inSession =>
      exact invariant.continueSession taken (by simp [named]) (by simp [named]) inSession
        rfl rfl rfl rfl
  | headRecenter taken still ordinary named notDue inSession live =>
      exact invariant.continueSession taken (by simp [named]) (by simp [named]) inSession
        rfl rfl rfl rfl
  | headPose taken moved ordinary named notDue inSession active updated =>
      exact invariant.continueSession taken (by simp [named]) (by simp [named]) inSession
        rfl rfl rfl rfl
  | sessionStop taken still ordinary named notDue inSession =>
      exact invariant.stopSession taken named inSession

theorem of_run {neckController : NeckController M} {config : GatewayConfig}
    (run : Machine.Run VrGateway.step (VrGateway.new neckController config) history gateway) :
    ReplayInvariant history gateway :=
  run.invariant (initial neckController config) fun _ state input invariant =>
    invariant.step (state.step_cases input)

end ReplayInvariant

/-- Replay protection: over any run no id is started twice, no numbered command of a
session is accepted twice, and the accepted commands of a session are one block that
opens with sequence 1, with increasing sequences and times that do not decrease. -/
theorem accepted_once {controller : NeckController M} {config : GatewayConfig}
    (run : Machine.Run VrGateway.step (VrGateway.new controller config) history gateway) :
    (((acceptedCommands M history).filter fun command =>
      command.command = .sessionStart).map CommandEnvelope.sessionId).Nodup ∧
    ((acceptedCommands M history).map fun command =>
      (command.sessionId, command.sequence)).Nodup ∧
    ∀ command ∈ acceptedCommands M history, ∃ before start rest after,
      acceptedCommands M history = before ++ (start :: rest) ++ after ∧
      (∀ other ∈ before ++ after, other.sessionId ≠ command.sessionId) ∧
      (∀ other ∈ start :: rest, other.sessionId = command.sessionId) ∧
      start.command = .sessionStart ∧ start.sequence = 1 ∧
      (start :: rest).Pairwise fun earlier later =>
        earlier.sequence < later.sequence ∧ earlier.timestampMs ≤ later.timestampMs := by
  have invariant := ReplayInvariant.of_run run
  refine ⟨invariant.ledger.nodup_openings, invariant.ledger.nodup, ?_⟩
  intro command membership
  obtain ⟨before, block, after, cut, isBlock, outside⟩ :=
    invariant.ledger.contiguous membership
  obtain ⟨start, rest, rfl, opens, first, _⟩ := isBlock.opened
  exact ⟨before, start, rest, after, cut, outside, isBlock.session, of_decide_eq_true opens,
    first, isBlock.ordered⟩

/-- The example session, its recenter delivered twice. -/
theorem accepted_once_session :
    let run := Machine.execute VrGateway.step Session.gateway
      [⟨.handle Session.start.toObject, 0⟩, ⟨.handle Session.recenter.toObject, 100000000⟩,
        ⟨.handle Session.recenter.toObject, 150000000⟩,
        ⟨.handle Session.pose.toObject, 200000000⟩]
    ((acceptedCommands FloatMath.axis run.1).map fun command =>
      (command.sessionId, command.sequence)).Nodup :=
  (accepted_once (Machine.execute_run VrGateway.step Session.gateway _)).2.1

end ValeraControlTower

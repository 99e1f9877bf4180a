import ValeraControlTower.Library.Monitor
import ValeraControlTower.VrGateway.Sessions

/-!
# What a listener may rely on

A listener that hears nothing but the events, without their times and angles, can follow
the gateway: it allows what the session protocol allows next, and the gateway never emits
anything else.  A session takes effect at most once, the neck moves in the session that is
active and under ever larger numbers, and a stop that is owed comes before anything else.
Which session is awaited it does not know: a start behind a start goes unheard.
-/

namespace ValeraControlTower

/-- What an event tells a listener. -/
inductive Notice (Id : Type) where
  | state (state : GatewayState) (sessionId : Option Id) (sequence : Option ℤ)
  | target (sessionId : Id) (sequence : ℤ)
  | stop (reason : StopReason) (sessionId : Option Id) (sequence : Option ℤ)
  | rejected

/-- Where a listener takes the gateway to be. -/
inductive Phase (Id : Type) where
  | idle
  | safeStopped
  | awaiting
  /-- The number is the last one heard in the session. -/
  | active (sessionId : Id) (sequence : ℤ)
  /-- Idle behind a session that was awaited; if it was stopped, its stop comes next. -/
  | released (sessionId : Option Id) (sequence : Option ℤ)
  /-- This stop comes next. -/
  | owed (reason : StopReason) (sessionId : Option Id) (sequence : Option ℤ)
  | latched

structure Listener (Id : Type) where
  phase : Phase Id
  /-- The sessions that have been active. -/
  activated : List Id

namespace Listener

variable {Id : Type} [DecidableEq Id]

/-- Before the first event. -/
def initial : Listener Id := ⟨.idle, []⟩

/-- A session that has not been active yet. -/
def IsFresh (listener : Listener Id) (sessionId : Option Id) : Prop :=
  ∃ fresh, sessionId = some fresh ∧ fresh ∉ listener.activated

instance (listener : Listener Id) (sessionId : Option Id) :
    Decidable (listener.IsFresh sessionId) :=
  match sessionId with
  | none => isFalse (by simp [IsFresh])
  | some fresh => decidable_of_iff (fresh ∉ listener.activated) (by simp [IsFresh])

/-- A `gateway.state` event. -/
def hearState (listener : Listener Id) (state : GatewayState) (sessionId : Option Id)
    (sequence : Option ℤ) : Option (Listener Id) :=
  match state, listener.phase with
  | .estopLatched, .owed _ _ _ | .estopLatched, .latched => none
  | .estopLatched, _ => some { listener with phase := .owed .emergencyStop sessionId sequence }
  | .awaitingRecenter, .idle | .awaitingRecenter, .safeStopped
  | .awaitingRecenter, .released _ _ | .awaitingRecenter, .active _ _ =>
      if listener.IsFresh sessionId ∧ sequence = some 1 then
        some { listener with phase := .awaiting }
      else none
  | .headActive, .awaiting =>
      match sessionId, sequence with
      | some active, some sequence =>
          if active ∈ listener.activated then none
          else some ⟨.active active sequence, active :: listener.activated⟩
      | _, _ => none
  | .idle, .awaiting =>
      if listener.IsFresh sessionId then
        some { listener with phase := .released sessionId sequence }
      else none
  | .idle, .active active last =>
      if sessionId = some active ∧ sequence.any (last < ·) then
        some { listener with phase := .owed .sessionStopped sessionId sequence }
      else none
  | .safeStopped, .active active last =>
      if sessionId = some active ∧ sequence.any (last ≤ ·) then
        some { listener with phase := .owed .watchdog sessionId sequence }
      else none
  | _, _ => none

/-- A `neck.target` event. -/
def hearTarget (listener : Listener Id) (sessionId : Id) (sequence : ℤ) : Option (Listener Id) :=
  match listener.phase with
  | .active active last =>
      if sessionId = active ∧ last < sequence then
        some { listener with phase := .active active sequence }
      else none
  | _ => none

/-- The phase behind a stop. -/
def afterStop : StopReason → Phase Id
  | .emergencyStop => .latched
  | .watchdog => .safeStopped
  | .sessionStopped => .idle

/-- A `safety.stop` event. -/
def hearStop (listener : Listener Id) (reason : StopReason) (sessionId : Option Id)
    (sequence : Option ℤ) : Option (Listener Id) :=
  match listener.phase with
  | .owed owed owedId owedSequence =>
      if reason = owed ∧ sessionId = owedId ∧ sequence = owedSequence then
        some { listener with phase := afterStop owed }
      else none
  | .released releasedId releasedSequence =>
      if reason = .sessionStopped ∧ sessionId = releasedId ∧ sequence = releasedSequence then
        some { listener with phase := .idle }
      else none
  | .latched => if reason = .emergencyStop then some listener else none
  | _ => none

/-- A `command.rejected` event. -/
def hearRejected (listener : Listener Id) : Option (Listener Id) :=
  match listener.phase with
  | .owed _ _ _ => none
  | .released _ _ => some { listener with phase := .idle }
  | _ => some listener

/-- The session protocol, as a monitor of the events. -/
def protocol : Machine.Monitor (Listener Id) (Notice Id) := fun listener notice =>
  match notice with
  | .state state sessionId sequence => listener.hearState state sessionId sequence
  | .target sessionId sequence => listener.hearTarget sessionId sequence
  | .stop reason sessionId sequence => listener.hearStop reason sessionId sequence
  | .rejected => listener.hearRejected

example : protocol.hear initial [.state .awaitingRecenter (some 7) (some 1),
    .state .headActive (some 7) (some 2), .target 7 3, .target 7 3] = none := by
  decide

end Listener

/-! ## Other ids -/

section Renaming

variable {Id Other : Type} [DecidableEq Id] [DecidableEq Other] {name : Id → Other}

def Notice.map (name : Id → Other) : Notice Id → Notice Other
  | .state reached sessionId sequence => .state reached (sessionId.map name) sequence
  | .target sessionId sequence => .target (name sessionId) sequence
  | .stop reason sessionId sequence => .stop reason (sessionId.map name) sequence
  | .rejected => .rejected

def Phase.map (name : Id → Other) : Phase Id → Phase Other
  | .idle => .idle
  | .safeStopped => .safeStopped
  | .awaiting => .awaiting
  | .active sessionId sequence => .active (name sessionId) sequence
  | .released sessionId sequence => .released (sessionId.map name) sequence
  | .owed reason sessionId sequence => .owed reason (sessionId.map name) sequence
  | .latched => .latched

def Listener.map (name : Id → Other) (listener : Listener Id) : Listener Other :=
  ⟨listener.phase.map name, listener.activated.map name⟩

omit [DecidableEq Id] [DecidableEq Other] in
theorem Listener.isFresh_map (injective : Function.Injective name) (listener : Listener Id)
    (sessionId : Option Id) :
    (listener.map name).IsFresh (sessionId.map name) ↔ listener.IsFresh sessionId := by
  cases sessionId with
  | none => simp [IsFresh]
  | some fresh => simp [IsFresh, Listener.map, -List.mem_map, List.mem_map_of_injective injective]

/-- The protocol does not depend on what the ids are. -/
theorem Listener.protocol_map (injective : Function.Injective name) (listener : Listener Id)
    (notice : Notice Id) :
    protocol (listener.map name) (notice.map name) =
      (protocol listener notice).map (Listener.map name) := by
  obtain ⟨phase, activated⟩ := listener
  cases notice with
  | state reached sessionId sequence =>
      change hearState _ _ _ _ = (hearState _ _ _ _).map _
      have named (active : Id) : sessionId.map name = some (name active) ↔
          sessionId = some active := (Option.map_injective injective).eq_iff' rfl
      unfold hearState
      cases reached with
      | idle =>
          cases phase with
          | active active last =>
              simp only [Listener.map, Phase.map, named]
              split <;> rfl
          | awaiting =>
              change ite _ _ _ = Option.map _ (ite _ _ _)
              simp only [Listener.isFresh_map injective]
              split <;> rfl
          | idle | safeStopped | released _ _ | owed _ _ _ | latched => rfl
      | awaitingRecenter =>
          cases phase with
          | idle | safeStopped | active _ _ | released _ _ =>
              change ite _ _ _ = Option.map _ (ite _ _ _)
              simp only [Listener.isFresh_map injective]
              split <;> rfl
          | awaiting | owed _ _ _ | latched => rfl
      | headActive =>
          cases phase with
          | awaiting =>
              cases sessionId with
              | none => rfl
              | some active =>
                  cases sequence with
                  | none => rfl
                  | some sequence =>
                      simp only [Listener.map, Phase.map, Option.map_some,
                        List.mem_map_of_injective injective]
                      split <;> rfl
          | idle | safeStopped | active _ _ | released _ _ | owed _ _ _ | latched => rfl
      | safeStopped =>
          cases phase with
          | active active last =>
              simp only [Listener.map, Phase.map, named]
              split <;> rfl
          | idle | safeStopped | awaiting | released _ _ | owed _ _ _ | latched => rfl
      | estopLatched => cases phase <;> rfl
  | target sessionId sequence =>
      change hearTarget _ _ _ = (hearTarget _ _ _).map _
      unfold hearTarget
      cases phase with
      | active active last =>
          simp only [Listener.map, Phase.map, injective.eq_iff]
          split <;> rfl
      | idle | safeStopped | awaiting | released _ _ | owed _ _ _ | latched => rfl
  | stop reason sessionId sequence =>
      change hearStop _ _ _ _ = (hearStop _ _ _ _).map _
      unfold hearStop
      cases phase with
      | owed owed owedId owedSequence =>
          simp only [Listener.map, Phase.map, (Option.map_injective injective).eq_iff]
          split
          · cases owed <;> rfl
          · rfl
      | released releasedId releasedSequence =>
          simp only [Listener.map, Phase.map, (Option.map_injective injective).eq_iff]
          split <;> rfl
      | latched =>
          simp only [Listener.map, Phase.map]
          split <;> rfl
      | idle | safeStopped | awaiting | active _ _ => rfl
  | rejected =>
      change hearRejected _ = (hearRejected _).map _
      unfold hearRejected
      cases phase <;> rfl

end Renaming

variable {K : Type} [Field K] [LinearOrder K] {M : FloatMath K}

/-- What a listener makes of an event. -/
def OutputEvent.notice : OutputEvent K → Notice PyStr
  | .gatewayState event => .state event.state event.sessionId event.sequence
  | .neckTarget event => .target event.sessionId event.sequence
  | .safetyStop event => .stop event.reason event.sessionId event.sequence
  | .commandRejected _ => .rejected

/-- What a listener hears of a call. -/
def notices (entry : CallEntry K) : List (Notice PyStr) := (returned entry).map OutputEvent.notice

namespace VrGateway

/-! ## A listener that follows -/

/-- The phase a listener is in tells the state of the gateway, and the session while it is
active. -/
inductive InPhase (gateway : VrGateway M) : Phase PyStr → Prop where
  | idle (resting : gateway.state = .idle) : InPhase gateway .idle
  | safeStopped (resting : gateway.state = .safeStopped) : InPhase gateway .safeStopped
  | released {sessionId : Option PyStr} {sequence : Option ℤ} (resting : gateway.state = .idle) :
      InPhase gateway (.released sessionId sequence)
  | awaiting (awaiting : gateway.state = .awaitingRecenter) : InPhase gateway .awaiting
  | active {sessionId : PyStr} {sequence last : ℤ} (active : gateway.state = .headActive)
      (inSession : gateway.activeSessionId = some sessionId)
      (numbered : gateway.lastSequence = some last) (heard : sequence ≤ last) :
      InPhase gateway (.active sessionId sequence)
  | latched (latched : gateway.state = .estopLatched) : InPhase gateway .latched

namespace InPhase

variable {gateway : VrGateway M} {phase : Phase PyStr}

theorem eq_awaiting (inPhase : InPhase gateway phase)
    (awaiting : gateway.state = .awaitingRecenter) : phase = .awaiting := by
  cases inPhase with
  | awaiting => rfl
  | idle other | safeStopped other | released other | active other | latched other =>
      cases awaiting.symm.trans other

theorem eq_latched (inPhase : InPhase gateway phase) (latched : gateway.state = .estopLatched) :
    phase = .latched := by
  cases inPhase with
  | latched => rfl
  | idle other | safeStopped other | released other | active other | awaiting other =>
      cases latched.symm.trans other

theorem of_active (inPhase : InPhase gateway phase) (active : gateway.state = .headActive) :
    ∃ sessionId heard last, phase = .active sessionId heard ∧
      gateway.activeSessionId = some sessionId ∧ gateway.lastSequence = some last ∧
      heard ≤ last := by
  cases inPhase with
  | active _ inSession numbered heard => exact ⟨_, _, _, rfl, inSession, numbered, heard⟩
  | idle other | safeStopped other | released other | latched other | awaiting other =>
      cases active.symm.trans other

end InPhase

/-- A listener is in the phase of the gateway; the sessions that it takes for used are used,
and the one that waits to be active is not among them. -/
structure Tracks (listener : Listener PyStr) (gateway : VrGateway M) : Prop where
  shape : SessionShape gateway
  phase : InPhase gateway listener.phase
  used : ∀ sessionId ∈ listener.activated, sessionId ∈ gateway.usedSessionIds
  fresh : gateway.state = .awaitingRecenter →
    ∀ sessionId, gateway.activeSessionId = some sessionId → sessionId ∉ listener.activated

namespace Tracks

open Listener Machine

variable {listener : Listener PyStr} {gateway next : VrGateway M} {nowNs : ℤ}
  {command : CommandEnvelope M}

theorem initially (neckController : NeckController M) (config : GatewayConfig) :
    Tracks Listener.initial (new neckController config) where
  shape := .initial neckController config
  phase := .idle rfl
  used sessionId membership := by cases membership
  fresh awaiting := by cases awaiting

/-- A session that is awaited or active has an id. -/
theorem exists_session (tracks : Tracks listener gateway) (live : gateway.Live) :
    ∃ sessionId, gateway.activeSessionId = some sessionId := by
  have fields := tracks.shape.fields
  exact Option.ne_none_iff_exists'.mp (fields.live.mp live)

/-- A rejection leaves the gateway alone; behind a released session no stop is to come. -/
theorem rejected (tracks : Tracks listener gateway) :
    ∃ after, listener.hearRejected = some after ∧ Tracks after gateway := by
  have phase := tracks.phase
  unfold hearRejected
  cases same : listener.phase with
  | released sessionId sequence =>
      rw [same] at phase
      cases phase with
      | released resting =>
          exact ⟨_, rfl, tracks.shape, .idle resting, tracks.used, tracks.fresh⟩
  | owed reason sessionId sequence =>
      rw [same] at phase
      cases phase
  | idle => exact ⟨listener, rfl, tracks⟩
  | safeStopped => exact ⟨listener, rfl, tracks⟩
  | awaiting => exact ⟨listener, rfl, tracks⟩
  | active sessionId sequence => exact ⟨listener, rfl, tracks⟩
  | latched => exact ⟨listener, rfl, tracks⟩

/-- The end of a session, told by a phase of the state it ends in. -/
theorem ended (tracks : Tracks listener gateway) {state : GatewayState} {phase : Phase PyStr}
    (inPhase : InPhase (gateway.endSession state) phase) (notAwaiting : state ≠ .awaitingRecenter)
    (notActive : state ≠ .headActive) :
    Tracks { listener with phase } (gateway.endSession state) where
  shape := .endSession gateway notAwaiting notActive
  phase := inPhase
  used := tracks.used
  fresh awaiting := absurd awaiting notAwaiting

/-- Right behind its state event, the stop of a session that was stopped. -/
theorem stopped (reason : StopReason) (sessionId : Option PyStr) (sequence : Option ℤ)
    (activated : List PyStr) :
    protocol.hear ⟨.owed reason sessionId sequence, activated⟩ [.stop reason sessionId sequence] =
      some ⟨afterStop reason, activated⟩ := by
  apply Monitor.hear_cons
  exact if_pos ⟨rfl, rfl, rfl⟩

/-- The events of an elapsed deadline. -/
theorem deadline (tracks : Tracks listener gateway) (nowNs : ℤ) :
    ∃ after, protocol.hear listener
        ((gateway.evaluateDeadline nowNs).2.map OutputEvent.notice) = some after ∧
      Tracks after (gateway.evaluateDeadline nowNs).1 := by
  have phase := tracks.phase
  generalize result : gateway.evaluateDeadline nowNs = outcome
  have cases := gateway.evaluateDeadline_cases nowNs
  rw [result] at cases
  obtain ⟨current, activated⟩ := listener
  cases cases with
  | quiet => exact ⟨_, rfl, tracks⟩
  | handshake awaiting =>
      obtain rfl := phase.eq_awaiting awaiting
      obtain ⟨sessionId, inSession⟩ := tracks.exists_session (.inl awaiting)
      refine ⟨⟨.released gateway.activeSessionId gateway.lastSequence, activated⟩, ?_,
        tracks.ended (.released rfl) (by decide) (by decide)⟩
      apply Monitor.hear_cons
      apply if_pos
      rw [inSession]
      exact ⟨sessionId, rfl, tracks.fresh awaiting sessionId inSession⟩
  | watchdog active =>
      obtain ⟨sessionId, heard, last, rfl, inSession, numbered, ordered⟩ := phase.of_active active
      refine ⟨⟨.safeStopped, activated⟩, ?_,
        tracks.ended (.safeStopped rfl) (by decide) (by decide)⟩
      have allowed : protocol ⟨.active sessionId heard, activated⟩
          (.state .safeStopped gateway.activeSessionId gateway.lastSequence) =
          some ⟨.owed .watchdog gateway.activeSessionId gateway.lastSequence, activated⟩ := by
        apply if_pos
        rw [inSession, numbered]
        exact ⟨rfl, by simpa using ordered⟩
      exact (Monitor.hear_cons allowed).trans (stopped _ _ _ _)

/-- A rejection behind the events of an elapsed deadline. -/
theorem refused (tracks : Tracks listener gateway) (nowNs : ℤ) {event : OutputEvent K}
    (rejection : event.notice = .rejected) :
    ∃ after, protocol.hear listener
        (((gateway.evaluateDeadline nowNs).2 ++ [event]).map OutputEvent.notice) = some after ∧
      Tracks after (gateway.evaluateDeadline nowNs).1 := by
  obtain ⟨middle, heard, tracking⟩ := tracks.deadline nowNs
  obtain ⟨after, allowed, tracked⟩ := tracking.rejected
  refine ⟨after, ?_, tracked⟩
  rw [List.map_append, Monitor.hear_append _ heard, List.map_singleton, rejection]
  exact Monitor.hear_cons allowed

/-- An emergency stop, in any state. -/
theorem emergencyStop (tracks : Tracks listener gateway) (command : CommandEnvelope M)
    (nowNs : ℤ) :
    ∃ after, protocol.hear listener
        ((gateway.commandTransition command .estopLatched nowNs ++
          [OutputEvent.safetyStop (stopEvent command .emergencyStop nowNs)] :
            List (OutputEvent K)).map OutputEvent.notice) = some after ∧
      Tracks after (gateway.endSession .estopLatched) := by
  refine ⟨⟨.latched, listener.activated⟩, ?_,
    tracks.ended (.latched rfl) (by decide) (by decide)⟩
  have phase := tracks.phase
  obtain ⟨current, activated⟩ := listener
  unfold commandTransition transitionEvents
  by_cases latched : gateway.state = .estopLatched
  · rw [if_pos latched]
    obtain rfl := phase.eq_latched latched
    have allowed : protocol ⟨.latched, activated⟩
        (.stop .emergencyStop (some command.sessionId) (some command.sequence)) =
        some ⟨.latched, activated⟩ := rfl
    exact Monitor.hear_cons allowed
  · rw [if_neg latched]
    have allowed : protocol ⟨current, activated⟩
        (.state .estopLatched (some command.sessionId) (some command.sequence)) =
        some ⟨.owed .emergencyStop (some command.sessionId) (some command.sequence),
          activated⟩ := by
      cases phase with
      | latched isLatched => exact absurd isLatched latched
      | idle | safeStopped | released | awaiting | active => rfl
    exact (Monitor.hear_cons allowed).trans (stopped _ _ _ _)

/-- A session that starts, whatever session it ends. -/
theorem sessionStart (tracks : Tracks listener gateway) (nowNs : ℤ)
    (unlatched : gateway.state ≠ .estopLatched) (first : command.sequence = 1)
    (unused : command.sessionId ∉ gateway.usedSessionIds) :
    ∃ after, protocol.hear listener
        ((gateway.commandTransition command .awaitingRecenter nowNs).map OutputEvent.notice) =
        some after ∧
      Tracks after (gateway.startSession command nowNs) := by
  have notActivated : command.sessionId ∉ listener.activated :=
    fun membership => unused (tracks.used _ membership)
  refine ⟨⟨.awaiting, listener.activated⟩, ?_, ?_, .awaiting rfl, ?_, ?_⟩
  · have phase := tracks.phase
    obtain ⟨current, activated⟩ := listener
    unfold commandTransition transitionEvents
    by_cases same : gateway.state = .awaitingRecenter
    · rw [if_pos same]
      obtain rfl := phase.eq_awaiting same
      rfl
    · rw [if_neg same]
      apply Monitor.hear_cons
      have fresh : Listener.IsFresh ⟨current, activated⟩ (some command.sessionId) ∧
          some command.sequence = some 1 := ⟨⟨_, rfl, notActivated⟩, congrArg some first⟩
      cases phase with
      | awaiting awaiting => exact absurd awaiting same
      | latched latched => exact absurd latched unlatched
      | idle | safeStopped | released | active => exact if_pos fresh
  · exact .opened (.inl rfl) command.sessionId command.sequence command.timestampMs nowNs nowNs
      rfl rfl rfl rfl rfl (Finset.mem_insert_self _ _) command.sessionIdNonempty
      command.sequencePositive
  · intro sessionId membership
    exact Finset.mem_insert_of_mem (tracks.used sessionId membership)
  · rintro _ _ ⟨⟩
    exact notActivated

/-- A command of the session that is accepted without an event. -/
theorem renew (tracks : Tracks listener gateway) (shape : SessionShape next)
    (sameState : next.state = gateway.state)
    (sameSession : next.activeSessionId = gateway.activeSessionId)
    (sameUsed : next.usedSessionIds = gateway.usedSessionIds)
    (newer : ∀ last, gateway.lastSequence = some last →
      ∃ later, next.lastSequence = some later ∧ last ≤ later) : Tracks listener next where
  shape := shape
  phase := by
    have phase := tracks.phase
    generalize listener.phase = current at *
    cases phase with
    | idle resting => exact .idle (sameState.trans resting)
    | safeStopped resting => exact .safeStopped (sameState.trans resting)
    | released resting => exact .released (sameState.trans resting)
    | awaiting awaiting => exact .awaiting (sameState.trans awaiting)
    | latched latched => exact .latched (sameState.trans latched)
    | active active inSession numbered heard =>
        obtain ⟨later, renumbered, ordered⟩ := newer _ numbered
        exact .active (sameState.trans active) (sameSession.trans inSession) renumbered
          (heard.trans ordered)
  used := by
    rw [sameUsed]
    exact tracks.used
  fresh := by
    rw [sameState, sameSession]
    exact tracks.fresh

/-- A command of the session numbers on. -/
theorem accepted (tracks : Tracks listener gateway) (inSession : gateway.InSession command)
    (nowNs : ℤ) : Tracks listener (gateway.accept command nowNs) := by
  apply tracks.renew (tracks.shape.accept inSession nowNs) rfl rfl rfl
  intro last numbered
  exact ⟨command.sequence, rfl, (inSession.newer last numbered).le⟩

/-- The neck controller tells a listener nothing. -/
theorem withController (tracks : Tracks listener gateway) (neckController : NeckController M) :
    Tracks listener { gateway with neckController } := by
  apply tracks.renew (tracks.shape.withController neckController) rfl rfl rfl
  intro last numbered
  exact ⟨last, numbered, le_rfl⟩

/-- The first recenter of a session makes it active, a later one goes unheard. -/
theorem headRecenter (tracks : Tracks listener gateway) (inSession : gateway.InSession command)
    (live : gateway.Live) (orientation : Quaternion M) (nowNs : ℤ) :
    ∃ after, protocol.hear listener
        ((gateway.commandTransition command .headActive nowNs).map OutputEvent.notice) =
        some after ∧
      Tracks after (gateway.recenterHead command orientation nowNs) := by
  have accepting := (tracks.accepted inSession nowNs).withController
    (gateway.neckController.recenter orientation nowNs (decide (gateway.state = .headActive)))
  unfold commandTransition transitionEvents
  cases live with
  | inr active =>
      rw [if_pos active]
      refine ⟨listener, rfl, ?_⟩
      rw [recenterHead_of_active active]
      exact accepting
  | inl awaiting =>
      have waiting : gateway.state ≠ .headActive := by
        rw [awaiting]
        decide
      rw [if_neg waiting]
      have notActivated := tracks.fresh awaiting command.sessionId inSession.active
      have phase := tracks.phase.eq_awaiting awaiting
      obtain ⟨current, activated⟩ := listener
      obtain rfl : current = .awaiting := phase
      refine ⟨⟨.active command.sessionId command.sequence, command.sessionId :: activated⟩,
        Monitor.hear_cons (if_neg notActivated), ?_, .active rfl inSession.active rfl le_rfl, ?_,
        nofun⟩
      · have shape := accepting.shape
        cases shape with
        | closed resting => exact absurd (Or.inl awaiting) resting
        | opened _ sessionId sequence timestampMs startedNs receivedNs active last sampled started
            received used nonempty positive =>
            exact .opened (.inr rfl) sessionId sequence timestampMs startedNs receivedNs active last
              sampled started received used nonempty positive
      · intro sessionId membership
        rcases List.mem_cons.mp membership with rfl | earlier
        · have fields := tracks.shape.fields
          exact fields.used _ inSession.active
        · exact tracks.used sessionId earlier

/-- A target is heard in the session that is active, under a larger number. -/
theorem headPose (tracks : Tracks listener gateway) (inSession : gateway.InSession command)
    (active : gateway.state = .headActive) (orientation : Quaternion M) (target : NeckTarget K)
    (nowNs : ℤ) :
    ∃ after, protocol.hear listener
        [(OutputEvent.neckTarget (targetEvent command target nowNs)).notice] = some after ∧
      Tracks after (gateway.moveHead command orientation nowNs) := by
  have accepting := (tracks.accepted inSession nowNs).withController
    (gateway.neckController.update orientation nowNs).1
  have phase := tracks.phase
  obtain ⟨current, activated⟩ := listener
  obtain ⟨sessionId, heard, last, rfl, isActive, numbered, ordered⟩ := phase.of_active active
  obtain rfl : sessionId = command.sessionId :=
    Option.some.inj (isActive.symm.trans inSession.active)
  have newer := inSession.newer last numbered
  refine ⟨⟨.active command.sessionId command.sequence, activated⟩,
    Monitor.hear_cons (if_pos ⟨rfl, ordered.trans_lt newer⟩), accepting.shape,
    .active active isActive rfl le_rfl, accepting.used, ?_⟩
  intro awaiting
  cases active.symm.trans awaiting

/-- A session that is stopped, before or behind its first recenter. -/
theorem sessionStop (tracks : Tracks listener gateway) (inSession : gateway.InSession command)
    (nowNs : ℤ) :
    ∃ after, protocol.hear listener
        ((gateway.commandTransition command .idle nowNs ++
          [OutputEvent.safetyStop (stopEvent command .sessionStopped nowNs)] :
            List (OutputEvent K)).map OutputEvent.notice) = some after ∧
      Tracks after (gateway.endSession .idle) := by
  refine ⟨⟨.idle, listener.activated⟩, ?_, tracks.ended (.idle rfl) (by decide) (by decide)⟩
  have live : gateway.Live := tracks.shape.fields.live.mpr (by simp [inSession.active])
  have phase := tracks.phase
  obtain ⟨current, activated⟩ := listener
  have moved : gateway.state ≠ .idle := by
    rcases live with awaiting | active
    · rw [awaiting]
      decide
    · rw [active]
      decide
  unfold commandTransition transitionEvents
  rw [if_neg moved]
  rcases live with awaiting | active
  · obtain rfl := phase.eq_awaiting awaiting
    have released : protocol ⟨.awaiting, activated⟩
        (.state .idle (some command.sessionId) (some command.sequence)) =
        some ⟨.released (some command.sessionId) (some command.sequence), activated⟩ :=
      if_pos ⟨_, rfl, tracks.fresh awaiting _ inSession.active⟩
    have allowed : protocol ⟨.released (some command.sessionId) (some command.sequence), activated⟩
        (.stop .sessionStopped (some command.sessionId) (some command.sequence)) =
        some ⟨.idle, activated⟩ := if_pos ⟨rfl, rfl, rfl⟩
    exact (Monitor.hear_cons released).trans (Monitor.hear_cons allowed)
  · obtain ⟨sessionId, heard, last, rfl, isActive, numbered, ordered⟩ := phase.of_active active
    obtain rfl : sessionId = command.sessionId :=
      Option.some.inj (isActive.symm.trans inSession.active)
    have newer := ordered.trans_lt (inSession.newer last numbered)
    have allowed : protocol ⟨.active command.sessionId heard, activated⟩
        (.state .idle (some command.sessionId) (some command.sequence)) =
        some ⟨.owed .sessionStopped (some command.sessionId) (some command.sequence),
          activated⟩ := by
      apply if_pos
      exact ⟨rfl, by simpa using newer⟩
    exact (Monitor.hear_cons allowed).trans (stopped _ _ _ _)

end Tracks

/-! ## Runs -/

/-- Whatever a call does, a listener that tracks the gateway allows it and tracks on. -/
theorem listener_follows :
    Machine.Follows Listener.protocol (step (M := M)) notices Tracks := by
  intro listener gateway stimulus tracks
  obtain ⟨call, nowNs⟩ := stimulus
  cases call with
  | poll => exact tracks.deadline nowNs
  | handle object =>
      simp only [step, notices]
      generalize result : gateway.handle object nowNs = outcome
      have cases := gateway.handle_cases object nowNs
      rw [result] at cases
      cases cases with
      | raised | orientationRaised => exact ⟨listener, rfl, tracks⟩
      | updateRaised => exact ⟨listener, rfl, tracks.withController _⟩
      | malformed => exact tracks.refused nowNs rfl
      | rejected => exact tracks.refused nowNs rfl
      | emergencyStop command => exact tracks.emergencyStop command nowNs
      | sessionStart command _ _ _ unlatched first fresh =>
          exact tracks.sessionStart nowNs unlatched first fresh
      | modeSet command _ _ _ inSession => exact ⟨listener, rfl, tracks.accepted inSession nowNs⟩
      | headRecenter command orientation _ _ _ inSession live =>
          exact tracks.headRecenter inSession live orientation nowNs
      | headPose command orientation target _ _ _ inSession active =>
          exact tracks.headPose inSession active orientation target nowNs
      | sessionStop command _ _ _ inSession => exact tracks.sessionStop inSession nowNs

/-- The events of every run of a new gateway are what the session protocol allows, and they
tell a listener the state that the gateway is in, and the session that is active. -/
theorem protocol_of_run (neckController : NeckController M) (config : GatewayConfig)
    (history : History K) (gateway : VrGateway M)
    (run : Machine.Run step (new neckController config) history gateway) :
    ∃ listener, Listener.protocol.hear .initial (history.flatMap notices) = some listener ∧
      Tracks listener gateway :=
  listener_follows.run run (.initially neckController config)

/-- The protocol of the example session. -/
theorem protocol_of_run_opened :
    ∃ listener, Listener.protocol.hear .initial (Session.opened.1.flatMap notices) =
        some listener ∧
      Tracks listener Session.opened.2 :=
  protocol_of_run Session.controller {} _ _ Session.opened_run

end VrGateway

end ValeraControlTower

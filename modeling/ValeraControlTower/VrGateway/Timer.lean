import ValeraControlTower.Library.Monitor
import ValeraControlTower.VrGateway.Runs

/-!
# Deadlines under a timer

`_evaluate_deadline` runs only when something calls the gateway, and the node calls `poll`
from a timer.  However commands fall in between the ticks, and whatever they are, a deadline
is noticed less than a period late: the neck is enabled only if a command was accepted within
the watchdog timeout and one period, and a client that falls silent is stopped in that time.
-/

namespace ValeraControlTower

variable {K : Type} [Field K] [LinearOrder K] {M : FloatMath K}

/-- The readings of the last poll and of the last call. -/
structure Clock where
  polledNs : ℤ
  nowNs : ℤ

namespace Clock

/-- A timer that has just been started. -/
def started (startNs : ℤ) : Clock := ⟨startNs, startNs⟩

def advance (clock : Clock) (stimulus : Stimulus K) : Clock :=
  match stimulus.call with
  | .poll => ⟨stimulus.nowNs, stimulus.nowNs⟩
  | .handle _ => { clock with nowNs := stimulus.nowNs }

end Clock

/-- A timer with a period: readings do not decrease, and no call comes more than a period
after the last poll. -/
def timer (periodNs : ℕ) : Machine.Monitor Clock (CallEntry K) := fun clock entry =>
  if clock.nowNs ≤ entry.input.nowNs ∧ entry.input.nowNs ≤ clock.polledNs + periodNs then
    some (clock.advance entry.input)
  else none

omit [Field K] [LinearOrder K] in
theorem timer_eq_some {periodNs : ℕ} {clock next : Clock} {entry : CallEntry K} :
    timer periodNs clock entry = some next ↔
      clock.nowNs ≤ entry.input.nowNs ∧ entry.input.nowNs ≤ clock.polledNs + periodNs ∧
        clock.advance entry.input = next := by
  unfold timer
  split
  · next allowed => simp [allowed]
  · next refused => simp [← and_assoc, refused]

/-- Between two polls the clock runs for at most a period. -/
structure Clock.Sound (clock : Clock) (periodNs : ℕ) : Prop where
  ordered : clock.polledNs ≤ clock.nowNs
  near : clock.nowNs ≤ clock.polledNs + periodNs

omit [Field K] [LinearOrder K] in
theorem Clock.Sound.advance {clock : Clock} {periodNs : ℕ} (sound : clock.Sound periodNs)
    {stimulus : Stimulus K} (later : clock.nowNs ≤ stimulus.nowNs)
    (near : stimulus.nowNs ≤ clock.polledNs + periodNs) :
    (clock.advance stimulus).Sound periodNs ∧ (clock.advance stimulus).nowNs = stimulus.nowNs ∧
      (clock.advance stimulus).polledNs ≤ stimulus.nowNs := by
  obtain ⟨call, nowNs⟩ := stimulus
  cases call with
  | poll => exact ⟨⟨le_rfl, by simp [Clock.advance]⟩, rfl, le_rfl⟩
  | handle object => exact ⟨⟨sound.ordered.trans later, near⟩, rfl, sound.ordered.trans later⟩

/-! ## What keeps a session open -/

/-- The last command that was accepted is one of the session, accepted at that reading. -/
def LastAcceptedAt (M : FloatMath K) (history : History K) (sessionId : PyStr) (nowNs : ℤ) :
    Prop :=
  ∃ before entry after, history = before ++ entry :: after ∧
    (∃ name, Accepts M entry name sessionId) ∧ entry.input.nowNs = nowNs ∧
    ∀ other ∈ after, accepted M other = none

/-- The session was started at that reading. -/
def StartedAt (M : FloatMath K) (history : History K) (sessionId : PyStr) (nowNs : ℤ) : Prop :=
  ∃ entry ∈ history, Accepts M entry .sessionStart sessionId ∧ entry.input.nowNs = nowNs

theorem LastAcceptedAt.snoc {history : History K} {sessionId : PyStr} {nowNs : ℤ}
    (last : LastAcceptedAt M history sessionId nowNs) {entry : CallEntry K}
    (refused : accepted M entry = none) :
    LastAcceptedAt M (history ++ [entry]) sessionId nowNs := by
  obtain ⟨before, latest, after, rfl, accepts, isRead, silent⟩ := last
  refine ⟨before, latest, after ++ [entry], ?_, accepts, isRead, ?_⟩
  · rw [List.append_assoc, List.cons_append]
  · intro other membership
    rcases List.mem_append.mp membership with inside | isLast
    · exact silent other inside
    · rwa [List.mem_singleton.mp isLast]

theorem StartedAt.append {history : History K} {sessionId : PyStr} {nowNs : ℤ}
    (started : StartedAt M history sessionId nowNs) (more : History K) :
    StartedAt M (history ++ more) sessionId nowNs := by
  obtain ⟨entry, membership, shown⟩ := started
  exact ⟨entry, List.mem_append_left _ membership, shown⟩

theorem lastAcceptedAt_of_accepted {entry : CallEntry K} {command : CommandEnvelope M}
    (taken : accepted M entry = some command) (history : History K) :
    LastAcceptedAt M (history ++ [entry]) command.sessionId entry.input.nowNs :=
  ⟨history, entry, [], rfl, ⟨command.command, command, taken, rfl, rfl⟩, rfl, by simp⟩

theorem accepted_poll (nowNs : ℤ) (outcome : Outcome K) :
    accepted M ⟨⟨.poll, nowNs⟩, outcome⟩ = none := by
  unfold accepted validCommand
  split
  · simp
  · rfl

/-- A live session was started, or heard of, in time before the last poll. -/
structure OnTime (config : GatewayConfig) (history : History K) (clock : Clock)
    (gateway : VrGateway M) : Prop where
  configured : gateway.config = config
  awaiting : gateway.state = .awaitingRecenter → ∃ sessionId startedNs,
    gateway.activeSessionId = some sessionId ∧
    gateway.sessionStartedMonotonicNs = some startedNs ∧
    StartedAt M history sessionId startedNs ∧
    clock.polledNs - startedNs < config.handshakeTimeoutNs
  active : gateway.state = .headActive → ∃ sessionId receivedNs,
    gateway.activeSessionId = some sessionId ∧
    gateway.lastValidPacketReceivedMonotonicNs = some receivedNs ∧
    LastAcceptedAt M history sessionId receivedNs ∧
    clock.polledNs - receivedNs < config.motionWatchdogTimeoutNs

namespace OnTime

variable {config : GatewayConfig} {history : History K} {clock next : Clock}
  {gateway : VrGateway M} {entry : CallEntry K}

/-- The end of the session. -/
theorem ended (onTime : OnTime config history clock gateway) {state : GatewayState}
    (notAwaiting : state ≠ .awaitingRecenter) (notActive : state ≠ .headActive) (more : History K)
    (next : Clock) : OnTime config (history ++ more) next (gateway.endSession state) where
  configured := onTime.configured
  awaiting same := absurd same notAwaiting
  active same := absurd same notActive

/-- Nothing that matters has changed since the last poll. -/
theorem keep (onTime : OnTime config history clock gateway)
    (samePoll : next.polledNs = clock.polledNs) (refused : accepted M entry = none) :
    OnTime config (history ++ [entry]) next gateway where
  configured := onTime.configured
  awaiting same := by
    obtain ⟨sessionId, startedNs, isActive, isStarted, started, early⟩ := onTime.awaiting same
    exact ⟨sessionId, startedNs, isActive, isStarted, started.append _, samePoll ▸ early⟩
  active same := by
    obtain ⟨sessionId, receivedNs, isActive, isReceived, last, early⟩ := onTime.active same
    exact ⟨sessionId, receivedNs, isActive, isReceived, last.snoc refused, samePoll ▸ early⟩

/-- A poll. -/
theorem polled (onTime : OnTime config history clock gateway) (nowNs : ℤ) (outcome : Outcome K) :
    OnTime config (history ++ [⟨⟨.poll, nowNs⟩, outcome⟩]) ⟨nowNs, nowNs⟩
      (gateway.evaluateDeadline nowNs).1 := by
  generalize result : gateway.evaluateDeadline nowNs = outcome
  have cases := gateway.evaluateDeadline_cases nowNs
  rw [result] at cases
  cases cases with
  | handshake | watchdog => exact onTime.ended (by decide) (by decide) _ _
  | quiet notDue =>
      constructor
      · exact onTime.configured
      · intro same
        obtain ⟨sessionId, startedNs, isActive, isStarted, started, _⟩ := onTime.awaiting same
        refine ⟨sessionId, startedNs, isActive, isStarted, started.append _, ?_⟩
        rw [← onTime.configured]
        exact VrGateway.early_of_awaiting same isStarted notDue
      · intro same
        obtain ⟨sessionId, receivedNs, isActive, isReceived, last, _⟩ := onTime.active same
        refine ⟨sessionId, receivedNs, isActive, isReceived, last.snoc (accepted_poll _ _), ?_⟩
        rw [← onTime.configured]
        exact VrGateway.early_of_active same isReceived notDue

/-- An accepted command counts from its own reading, which is no earlier than the last poll. -/
theorem accepting (onTime : OnTime config history clock gateway)
    (positive : 0 < config.motionWatchdogTimeoutNs)
    (samePoll : next.polledNs = clock.polledNs) (later : clock.polledNs ≤ entry.input.nowNs)
    {command : CommandEnvelope M} (taken : accepted M entry = some command)
    (inSession : gateway.activeSessionId = some command.sessionId)
    {after : VrGateway M} (configured : after.config = gateway.config)
    (sameSession : after.activeSessionId = gateway.activeSessionId)
    (sameStart : after.sessionStartedMonotonicNs = gateway.sessionStartedMonotonicNs)
    (received : after.lastValidPacketReceivedMonotonicNs = some entry.input.nowNs)
    (live : after.state = .awaitingRecenter → gateway.state = .awaitingRecenter) :
    OnTime config (history ++ [entry]) next after where
  configured := configured.trans onTime.configured
  awaiting same := by
    obtain ⟨sessionId, startedNs, isActive, isStarted, started, early⟩ :=
      onTime.awaiting (live same)
    exact ⟨sessionId, startedNs, sameSession.trans isActive, sameStart.trans isStarted,
      started.append _, samePoll ▸ early⟩
  active _ := by
    refine ⟨command.sessionId, entry.input.nowNs, sameSession.trans inSession, received,
      lastAcceptedAt_of_accepted taken history, ?_⟩
    omega

/-- A command, whatever becomes of it. -/
theorem handled (onTime : OnTime config history clock gateway)
    (handshake : 0 < config.handshakeTimeoutNs) (watchdog : 0 < config.motionWatchdogTimeoutNs)
    (samePoll : next.polledNs = clock.polledNs) (later : clock.polledNs ≤ entry.input.nowNs)
    {after : VrGateway M} (outcome : VrGateway.StepCase gateway entry after) :
    OnTime config (history ++ [entry]) next after := by
  cases outcome with
  | unchanged refused => exact onTime.keep samePoll refused
  | updateRaised refused =>
      have kept := onTime.keep samePoll refused
      exact ⟨kept.configured, kept.awaiting, kept.active⟩
  | expired stopped =>
      rcases stopped with rfl | rfl
      · exact onTime.ended (by decide) (by decide) _ _
      · exact onTime.ended (by decide) (by decide) _ _
  | emergencyStop => exact onTime.ended (by decide) (by decide) _ _
  | sessionStop => exact onTime.ended (by decide) (by decide) _ _
  | @sessionStart command taken _ _ named =>
      constructor
      · exact onTime.configured
      · intro _
        refine ⟨command.sessionId, entry.input.nowNs, rfl, rfl,
          ⟨entry, List.mem_append_right _ (List.mem_singleton_self _),
            ⟨command, taken, named, rfl⟩, rfl⟩, ?_⟩
        omega
      · intro same
        cases same
  | modeSet taken _ _ _ _ inSession =>
      exact onTime.accepting watchdog samePoll later taken inSession.active rfl rfl rfl rfl id
  | headRecenter taken _ _ _ _ inSession =>
      exact onTime.accepting watchdog samePoll later taken inSession.active rfl rfl rfl rfl
        (by simp [VrGateway.recenterHead])
  | headPose taken _ _ _ _ inSession =>
      exact onTime.accepting watchdog samePoll later taken inSession.active rfl rfl rfl rfl id

end OnTime

/-! ## Runs -/

section Run

variable {config : GatewayConfig} {controller : NeckController M} {periodNs : ℕ} {startNs : ℤ}
  {history : History K} {clock : Clock} {gateway : VrGateway M}

theorem onTime_of_run (handshake : 0 < config.handshakeTimeoutNs)
    (watchdog : 0 < config.motionWatchdogTimeoutNs)
    (run : Machine.Run VrGateway.step (.new controller config) history gateway)
    (timed : (timer periodNs).hear (.started startNs) history = some clock) :
    clock.Sound periodNs ∧ OnTime config history clock gateway := by
  apply run.allowed timed (motive := fun history clock gateway =>
    clock.Sound periodNs ∧ OnTime config history clock gateway)
  · refine ⟨⟨le_rfl, by simp [Clock.started]⟩, rfl, ?_, ?_⟩
    · intro same
      cases same
    · intro same
      cases same
  · intro past now next state stimulus motive allowed
    obtain ⟨sound, onTime⟩ := motive
    obtain ⟨later, near, rfl⟩ := timer_eq_some.mp allowed
    refine ⟨(sound.advance later near).1, ?_⟩
    obtain ⟨call, nowNs⟩ := stimulus
    cases call with
    | poll => exact onTime.polled nowNs _
    | handle object =>
        have samePoll : (now.advance ⟨.handle object, nowNs⟩).polledNs = now.polledNs := rfl
        exact onTime.handled handshake watchdog samePoll (sound.ordered.trans later)
          (VrGateway.step_cases state _)

/-- Under a timer, a gateway awaits a recenter only for the handshake timeout and one period
after the start of the session, and the neck is enabled only for the watchdog timeout and one
period after the last accepted command, which is one of the session. -/
theorem deadlines_of_run (handshake : 0 < config.handshakeTimeoutNs)
    (watchdog : 0 < config.motionWatchdogTimeoutNs)
    (run : Machine.Run VrGateway.step (.new controller config) history gateway)
    (timed : (timer periodNs).hear (.started startNs) history = some clock) :
    (gateway.state = .awaitingRecenter → ∃ sessionId startedNs,
      gateway.activeSessionId = some sessionId ∧ StartedAt M history sessionId startedNs ∧
      clock.nowNs < startedNs + config.handshakeTimeoutNs + periodNs) ∧
    (gateway.state = .headActive → ∃ sessionId receivedNs,
      gateway.activeSessionId = some sessionId ∧ LastAcceptedAt M history sessionId receivedNs ∧
      clock.nowNs < receivedNs + config.motionWatchdogTimeoutNs + periodNs) := by
  obtain ⟨⟨_, near⟩, onTime⟩ := onTime_of_run handshake watchdog run timed
  constructor
  · intro awaiting
    obtain ⟨sessionId, startedNs, isActive, _, started, early⟩ := onTime.awaiting awaiting
    exact ⟨sessionId, startedNs, isActive, started, by omega⟩
  · intro active
    obtain ⟨sessionId, receivedNs, isActive, _, last, early⟩ := onTime.active active
    exact ⟨sessionId, receivedNs, isActive, last, by omega⟩

end Run

theorem opened_headActive : Session.opened.2.state = .headActive := by
  decide +kernel

/-- The example session under a timer of 150 ms. -/
theorem deadlines_of_run_opened :
    ∃ sessionId receivedNs, Session.opened.2.activeSessionId = some sessionId ∧
      LastAcceptedAt FloatMath.axis Session.opened.1 sessionId receivedNs ∧
      100000000 < receivedNs + 250000000 + 150000000 :=
  (@deadlines_of_run _ _ _ FloatMath.axis {} Session.controller 150000000 0 _ ⟨0, 100000000⟩ _
    (by decide) (by decide) Session.opened_run rfl).2 opened_headActive

/-! ## A client that falls silent -/

/-- The calls return nothing but rejections. -/
def Refuses (history : History K) : Prop :=
  ∀ entry ∈ history, ∀ event ∈ returned entry, event.isRejection = true

omit [Field K] [LinearOrder K] in
theorem Refuses.snoc {history : History K} (refuses : Refuses history) {entry : CallEntry K}
    (refused : ∀ event ∈ returned entry, event.isRejection = true) :
    Refuses (history ++ [entry]) := by
  intro other membership
  rcases List.mem_append.mp membership with earlier | last
  · exact refuses other earlier
  · obtain rfl := List.mem_singleton.mp last
    exact refused

/-- A call that accepts nothing evaluates the deadlines and refuses, or it raises. -/
inductive RefusedCase (gateway : VrGateway M) (entry : CallEntry K) : VrGateway M → Prop where
  | evaluated (refusals : List (OutputEvent K))
      (refused : ∀ event ∈ refusals, event.isRejection = true)
      (events : returned entry =
        (gateway.evaluateDeadline entry.input.nowNs).2 ++ refusals) :
      RefusedCase gateway entry (gateway.evaluateDeadline entry.input.nowNs).1
  | raised (neckController : NeckController M)
      (samePoll : ∀ clock : Clock, (clock.advance entry.input).polledNs = clock.polledNs)
      (nothing : returned entry = []) :
      RefusedCase gateway entry { gateway with neckController }

theorem refused_cases (gateway : VrGateway M) (stimulus : Stimulus K)
    (refused : accepted M ⟨stimulus, (gateway.step stimulus).2⟩ = none) :
    RefusedCase gateway ⟨stimulus, (gateway.step stimulus).2⟩ (gateway.step stimulus).1 := by
  obtain ⟨call, nowNs⟩ := stimulus
  cases call with
  | poll => exact .evaluated [] (by simp) (List.append_nil _).symm
  | handle object =>
      simp only [VrGateway.step] at refused ⊢
      generalize result : gateway.handle object nowNs = outcome at refused ⊢
      have cases := gateway.handle_cases object nowNs
      rw [result] at cases
      have clean {command : CommandEnvelope M} {events : List (OutputEvent K)}
          (valid : validateCommandEnvelope M object = .ok command)
          (taken : accepted M ⟨⟨.handle object, nowNs⟩, .ok events⟩ = none) :
          events.any OutputEvent.isRejection = true := by
        by_contra other
        rw [VrGateway.accepted_of_valid valid (by simpa using other)] at taken
        cases taken
      cases cases with
      | raised | orientationRaised =>
          exact .raised gateway.neckController (fun _ => rfl) rfl
      | updateRaised => exact .raised _ (fun _ => rfl) rfl
      | malformed =>
          exact .evaluated _ (by simp [VrGateway.rejectUntrusted, OutputEvent.isRejection]) rfl
      | rejected => exact .evaluated _ (by simp [VrGateway.reject, OutputEvent.isRejection]) rfl
      | emergencyStop command valid =>
          have rejected := clean valid refused
          simp [VrGateway.commandTransition, OutputEvent.isRejection] at rejected
      | sessionStart command valid =>
          have rejected := clean valid refused
          simp [VrGateway.commandTransition] at rejected
      | modeSet command valid => cases clean valid refused
      | headRecenter command orientation valid =>
          have rejected := clean valid refused
          simp [VrGateway.commandTransition] at rejected
      | headPose command orientation target valid => cases clean valid refused
      | sessionStop command valid =>
          have rejected := clean valid refused
          simp [VrGateway.commandTransition, OutputEvent.isRejection] at rejected

/-- The one stop of a client that fell silent after a reading: neither early nor a period late,
and there is nothing but rejections on both sides of it. -/
inductive WatchdogStop (active : VrGateway M) (receivedNs : ℤ) (periodNs : ℕ) :
    History K → Prop where
  | mk {quiet rest : History K} {fired : CallEntry K} {refusals : List (OutputEvent K)}
      (refusing : Refuses quiet)
      (due : receivedNs + active.config.motionWatchdogTimeoutNs ≤ fired.input.nowNs)
      (near : fired.input.nowNs < receivedNs + active.config.motionWatchdogTimeoutNs + periodNs)
      (stops : returned fired = active.watchdogEvents fired.input.nowNs ++ refusals)
      (refused : ∀ event ∈ refusals, event.isRejection = true)
      (rests : Refuses rest) :
      WatchdogStop active receivedNs periodNs (quiet ++ fired :: rest)

/-- What comes of the silence. -/
inductive Silence (active : VrGateway M) (receivedNs : ℤ) (periodNs : ℕ) :
    History K → Clock → VrGateway M → Prop where
  | waiting {history : History K} {clock : Clock} {gateway : VrGateway M}
      (refusing : Refuses history) (configured : gateway.config = active.config)
      (live : gateway.state = .headActive)
      (inSession : gateway.activeSessionId = active.activeSessionId)
      (numbered : gateway.lastSequence = active.lastSequence)
      (received : gateway.lastValidPacketReceivedMonotonicNs = some receivedNs)
      (early : clock.polledNs - receivedNs < active.config.motionWatchdogTimeoutNs) :
      Silence active receivedNs periodNs history clock gateway
  | stopped {history : History K} {clock : Clock} {gateway : VrGateway M}
      (stop : WatchdogStop active receivedNs periodNs history)
      (resting : gateway.state = .safeStopped) :
      Silence active receivedNs periodNs history clock gateway

theorem WatchdogStop.snoc {active : VrGateway M} {receivedNs : ℤ} {periodNs : ℕ}
    {history : History K} (stop : WatchdogStop active receivedNs periodNs history)
    {entry : CallEntry K} (refused : ∀ event ∈ returned entry, event.isRejection = true) :
    WatchdogStop active receivedNs periodNs (history ++ [entry]) := by
  cases stop with
  | mk refusing due near stops refusals rests =>
      rw [List.append_assoc, List.cons_append]
      exact .mk refusing due near stops refusals (rests.snoc refused)

/-- One more call that accepts nothing. -/
theorem Silence.snoc {active : VrGateway M} {receivedNs : ℤ} {periodNs : ℕ} {history : History K}
    {clock : Clock} {gateway next : VrGateway M}
    (silence : Silence active receivedNs periodNs history clock gateway) {entry : CallEntry K}
    (near : entry.input.nowNs ≤ clock.polledNs + periodNs)
    (outcome : RefusedCase gateway entry next) :
    Silence active receivedNs periodNs (history ++ [entry]) (clock.advance entry.input) next := by
  cases silence with
  | stopped stop resting =>
      cases outcome with
      | evaluated refusals refused events =>
          have notDue : ¬gateway.DeadlineDue entry.input.nowNs := by
            simp [VrGateway.DeadlineDue, resting]
          rw [VrGateway.evaluateDeadline_of_notDue notDue] at events ⊢
          exact .stopped (stop.snoc (events ▸ refused)) resting
      | raised neckController _ nothing =>
          exact .stopped (stop.snoc (by simp [nothing])) resting
  | waiting refusing configured live inSession numbered received early =>
      cases outcome with
      | raised neckController samePoll nothing =>
          exact .waiting (refusing.snoc (by simp [nothing])) configured live inSession numbered
            received (samePoll clock ▸ early)
      | evaluated refusals refused events =>
          generalize result : gateway.evaluateDeadline entry.input.nowNs = evaluated at events ⊢
          have cases := gateway.evaluateDeadline_cases entry.input.nowNs
          rw [result] at cases
          cases cases with
          | handshake awaiting => cases live.symm.trans awaiting
          | quiet notDue =>
              refine .waiting (refusing.snoc (events ▸ refused)) configured live inSession numbered
                received ?_
              have stillEarly := VrGateway.early_of_active live received notDue
              rw [configured] at stillEarly
              unfold Clock.advance
              split
              · exact stillEarly
              · exact early
          | watchdog _ due =>
              have same : gateway.watchdogEvents entry.input.nowNs =
                  active.watchdogEvents entry.input.nowNs := by
                unfold VrGateway.watchdogEvents
                rw [inSession, numbered]
              rw [same] at events
              rw [received, configured] at due
              have isDue := of_decide_eq_true due
              refine .stopped (.mk refusing ?_ ?_ events refused (by simp [Refuses])) rfl
              · omega
              · omega

/-- A client whose last command was accepted in a `HEAD_ACTIVE` session and that is heard no
more: whatever else arrives, the gateway returns one stop of the watchdog, no earlier than the
timeout after that command and less than a period later, and apart from it rejections only. -/
theorem watchdogStop_of_run {config : GatewayConfig} {controller : NeckController M}
    {periodNs : ℕ} {startNs receivedNs : ℤ} {before after : History K} {clock : Clock}
    {active gateway : VrGateway M} (handshake : 0 < config.handshakeTimeoutNs)
    (watchdog : 0 < config.motionWatchdogTimeoutNs)
    (earlier : Machine.Run VrGateway.step (.new controller config) before active)
    (live : active.state = .headActive)
    (received : active.lastValidPacketReceivedMonotonicNs = some receivedNs)
    (later : Machine.Run VrGateway.step active after gateway)
    (timed : (timer periodNs).hear (.started startNs) (before ++ after) = some clock)
    (silent : ∀ entry ∈ after, accepted M entry = none)
    (long : receivedNs + config.motionWatchdogTimeoutNs + periodNs ≤ clock.nowNs) :
    (∃ sessionId, active.activeSessionId = some sessionId ∧
      LastAcceptedAt M before sessionId receivedNs) ∧
    WatchdogStop active receivedNs periodNs after ∧ gateway.state = .safeStopped := by
  obtain ⟨middle, timedBefore, timedAfter⟩ := Machine.Monitor.hear_split timed
  obtain ⟨sound, onTime⟩ := onTime_of_run handshake watchdog earlier timedBefore
  obtain ⟨sessionId, _, isActive, isReceived, last, early⟩ := onTime.active live
  cases isReceived.symm.trans received
  have configured := onTime.configured
  rw [← configured] at early
  have silence : clock.Sound periodNs ∧ ((∀ entry ∈ after, accepted M entry = none) →
      Silence active receivedNs periodNs after clock gateway) := by
    apply later.allowed timedAfter (motive := fun after clock gateway =>
      clock.Sound periodNs ∧ ((∀ entry ∈ after, accepted M entry = none) →
        Silence active receivedNs periodNs after clock gateway))
    · exact ⟨sound, fun _ =>
        .waiting (by simp [Refuses]) rfl live rfl rfl received early⟩
    · intro past now next state stimulus kept allowed
      obtain ⟨sound, silence⟩ := kept
      obtain ⟨ordered, near, rfl⟩ := timer_eq_some.mp allowed
      refine ⟨(sound.advance ordered near).1, fun silent => ?_⟩
      have refused := silent _ (List.mem_append_right _ (List.mem_singleton_self _))
      exact (silence fun entry membership => silent entry (List.mem_append_left _ membership)).snoc
        near (refused_cases state stimulus refused)
  obtain ⟨⟨_, near⟩, silence⟩ := silence
  cases silence silent with
  | stopped stop resting => exact ⟨⟨sessionId, isActive, last⟩, stop, resting⟩
  | waiting _ _ _ _ _ _ stillEarly =>
      rw [configured] at stillEarly
      omega

theorem opened_received :
    Session.opened.2.lastValidPacketReceivedMonotonicNs = some 100000000 := by
  decide +kernel

/-- The example session, polled every 200 to 250 ms from its start on. -/
theorem watchdogStop_of_run_opened :
    let after := Machine.execute VrGateway.step Session.opened.2
      [⟨.poll, 250000000⟩, ⟨.poll, 500000000⟩, ⟨.poll, 700000000⟩]
    (∃ sessionId, Session.opened.2.activeSessionId = some sessionId ∧
      LastAcceptedAt FloatMath.axis Session.opened.1 sessionId 100000000) ∧
    WatchdogStop Session.opened.2 100000000 250000000 after.1 ∧ after.2.state = .safeStopped :=
  @watchdogStop_of_run _ _ _ FloatMath.axis {} Session.controller 250000000 0 100000000 _ _
    ⟨700000000, 700000000⟩ _ _ (by decide) (by decide) Session.opened_run
    opened_headActive opened_received (Machine.execute_run _ _ _)
    rfl (by
      intro entry membership
      have polled : entry.input.call = .poll := by
        have inside := List.mem_map_of_mem (f := (·.input)) membership
        rw [Machine.execute_inputs] at inside
        simp only [List.mem_cons, List.not_mem_nil, or_false] at inside
        rcases inside with same | same | same <;> rw [same]
      unfold accepted validCommand
      rw [polled]
      split <;> simp) (by decide)

end ValeraControlTower

import ValeraControlTower.VrGateway.Runs

/-!
# The event stream tells the truth

Every call returns the event of at most one transition, then at most one stop, then
events of neither kind.  `Emission` is that shape and `Cause` says which transition goes
with which stop; the laws of the stream are read off the two.
-/

namespace ValeraControlTower

variable {K : Type} [Field K] [LinearOrder K] {M : FloatMath K}

namespace OutputEvent

/-- The state a `gateway.state` event carries. -/
def state? : OutputEvent K → Option GatewayState
  | gatewayState event => some event.state
  | _ => none

/-- The reason of a `safety.stop`. -/
def reason? : OutputEvent K → Option StopReason
  | safetyStop event => some event.reason
  | _ => none

/-- Neither a `gateway.state` nor a `safety.stop`. -/
def Plain (event : OutputEvent K) : Prop := event.state? = none ∧ event.reason? = none

end OutputEvent

open OutputEvent

/-- The states a call reported. -/
def states (entry : CallEntry K) : List GatewayState := (returned entry).filterMap state?

/-- The reasons of the stops a call returned. -/
def stops (entry : CallEntry K) : List StopReason := (returned entry).filterMap reason?

/-- The states reported so far, from the initial one. -/
def trail (history : History K) : List GatewayState := .idle :: history.flatMap states

/-- Right behind every event of the first kind stands one of the second. -/
def FollowedBy (first second : OutputEvent K → Prop) (events : List (OutputEvent K)) : Prop :=
  ∀ before event after, events = before ++ event :: after → first event →
    ∃ next rest, after = next :: rest ∧ second next

namespace VrGateway

/-! ## The events of one call -/

/-- The call returned the event of this transition and a stop for this reason, if any. -/
structure Emission (entry : CallEntry K) (source target : GatewayState)
    (reason : Option StopReason) : Prop where
  shape : ∃ sessionId sequence, ∃ stop : Option SafetyStopEvent, ∃ rest,
    returned entry = transitionEvents source target sessionId sequence entry.input.nowNs ++
      (stop.toList.map OutputEvent.safetyStop ++ rest) ∧
    stop.map SafetyStopEvent.reason = reason ∧ ∀ event ∈ rest, event.Plain

/-- Which stop goes with a step, and why. -/
inductive Cause (gateway : VrGateway M) (entry : CallEntry K) (next : VrGateway M) :
    Option StopReason → Prop where
  | quiet (calm : next.state = gateway.state ∨
        (next.state ≠ .safeStopped ∧ next.state ≠ .estopLatched))
      (goesOn : ∀ command, accepted M entry = some command → command.command ≠ .sessionStop) :
      Cause gateway entry next none
  | watchdog (active : gateway.state = .headActive) (stopped : next.state = .safeStopped)
      (refused : accepted M entry = none) : Cause gateway entry next (some .watchdog)
  | emergencyStop (command : CommandEnvelope M) (taken : accepted M entry = some command)
      (named : command.command = .emergencyStop) (emergency : IsEmergencyStop M entry.input)
      (latched : next.state = .estopLatched) : Cause gateway entry next (some .emergencyStop)
  | sessionStop (command : CommandEnvelope M) (taken : accepted M entry = some command)
      (named : command.command = .sessionStop)
      (notDue : ¬gateway.DeadlineDue entry.input.nowNs)
      (resting : next.state = .idle) : Cause gateway entry next (some .sessionStopped)

/-- The two together, with the reason they share. -/
def Tells (gateway : VrGateway M) (entry : CallEntry K) (next : VrGateway M) : Prop :=
  ∃ reason, Emission entry gateway.state next.state reason ∧ Cause gateway entry next reason

/-- The stop of an elapsed motion watchdog. -/
def watchdogStop (gateway : VrGateway M) (nowNs : ℤ) : SafetyStopEvent where
  gatewayMonotonicNs := nowNs
  reason := .watchdog
  sessionId := gateway.activeSessionId
  sequence := gateway.lastSequence

section OneCall

variable {gateway next : VrGateway M} {entry : CallEntry K} {source target : GatewayState}
  {reason : Option StopReason}

omit [Field K] [LinearOrder K] in
/-- A call that returned plain events only and changed no state. -/
theorem Emission.plain (plain : ∀ event ∈ returned entry, event.Plain) (state : GatewayState) :
    Emission entry state state none := by
  refine ⟨none, none, none, returned entry, ?_, rfl, plain⟩
  unfold transitionEvents
  rw [if_pos rfl]
  rfl

theorem tells_plain (plain : ∀ event ∈ returned entry, event.Plain)
    (goesOn : ∀ command, accepted M entry = some command → command.command ≠ .sessionStop)
    (same : next.state = gateway.state) : Tells gateway entry next := by
  refine ⟨none, ?_, .quiet (.inl same) goesOn⟩
  rw [same]
  exact .plain plain _

/-- A call that returned the events of the deadlines and a rejection, or not even that. -/
theorem tells_of_deadline {rest : List (OutputEvent K)} (plain : ∀ event ∈ rest, event.Plain)
    (events : returned entry = (gateway.evaluateDeadline entry.input.nowNs).2 ++ rest)
    (refused : accepted M entry = none) :
    Tells gateway entry (gateway.evaluateDeadline entry.input.nowNs).1 := by
  have goesOn : ∀ command, accepted M entry = some command → command.command ≠ .sessionStop := by
    intro command taken
    rw [refused] at taken
    cases taken
  generalize result : gateway.evaluateDeadline entry.input.nowNs = outcome at *
  have cases := gateway.evaluateDeadline_cases entry.input.nowNs
  rw [result] at cases
  cases cases with
  | quiet _ =>
      refine tells_plain ?_ goesOn rfl
      rwa [events]
  | handshake awaiting _ =>
      refine ⟨none, ⟨gateway.activeSessionId, gateway.lastSequence, none, rest, ?_, rfl, plain⟩,
        .quiet (.inr ⟨?_, ?_⟩) goesOn⟩
      · rw [events, awaiting]
        rfl
      · simp [endSession]
      · simp [endSession]
  | watchdog active _ =>
      refine ⟨some .watchdog, ⟨gateway.activeSessionId, gateway.lastSequence,
        some (gateway.watchdogStop entry.input.nowNs), rest, ?_, rfl, plain⟩,
        .watchdog active rfl refused⟩
      rw [events, active]
      rfl

/-- A call that returned the event of a transition alone. -/
theorem tells_transition {command : CommandEnvelope M} (taken : accepted M entry = some command)
    (notStop : command.command ≠ .sessionStop)
    (events : returned entry =
      gateway.commandTransition command next.state entry.input.nowNs)
    (calm : next.state ≠ .safeStopped ∧ next.state ≠ .estopLatched) :
    Tells gateway entry next := by
  refine ⟨none, ⟨some command.sessionId, some command.sequence, none, [], ?_, rfl, by simp⟩,
    .quiet (.inr calm) ?_⟩
  · rw [events]
    exact (List.append_nil _).symm
  · intro other otherTaken
    rw [taken] at otherTaken
    cases otherTaken
    exact notStop

/-- A call that returned a transition and its stop. -/
theorem Emission.stopped {command : CommandEnvelope M} {why : StopReason}
    (events : returned entry = gateway.commandTransition command target entry.input.nowNs ++
      [.safetyStop (stopEvent command why entry.input.nowNs)]) :
    Emission entry gateway.state target (some why) :=
  ⟨_, _, some (stopEvent command why entry.input.nowNs), [], events, rfl, by simp⟩

end OneCall

omit [Field K] [LinearOrder K] in
theorem plain_of_isRejection {event : OutputEvent K} (rejection : event.isRejection = true) :
    event.Plain := by
  cases event with
  | commandRejected event => exact ⟨rfl, rfl⟩
  | gatewayState event => cases rejection
  | neckTarget event => cases rejection
  | safetyStop event => cases rejection

theorem step_tells (gateway : VrGateway M) (stimulus : Stimulus K) :
    Tells gateway ⟨stimulus, (gateway.step stimulus).2⟩ (gateway.step stimulus).1 := by
  obtain ⟨call, nowNs⟩ := stimulus
  cases call with
  | poll =>
      have plain : ∀ event ∈ ([] : List (OutputEvent K)), event.Plain := by simp
      refine tells_of_deadline plain ?_ ?_
      · exact (List.append_nil _).symm
      · simp [accepted, validCommand, step, poll]
  | handle object =>
      simp only [step]
      have raised : ∀ (next : VrGateway M) (exception : PyException),
          next.state = gateway.state →
          Tells gateway ⟨⟨.handle object, nowNs⟩, .error exception⟩ next := by
        intro next exception same
        exact tells_plain (by simp [returned]) (by simp [accepted]) same
      generalize result : gateway.handle object nowNs = outcome
      have cases := gateway.handle_cases object nowNs
      rw [result] at cases
      cases cases with
      | raised exception => exact raised _ exception rfl
      | orientationRaised _ exception => exact raised _ exception rfl
      | updateRaised _ _ exception => exact raised _ exception rfl
      | malformed =>
          refine tells_of_deadline ?_ rfl (accepted_of_rejection _ rfl)
          simpa using plain_of_isRejection rfl
      | rejected =>
          refine tells_of_deadline ?_ rfl (accepted_of_rejection _ rfl)
          simpa using plain_of_isRejection rfl
      | emergencyStop command valid emergency =>
          refine ⟨some .emergencyStop, .stopped rfl, .emergencyStop command ?_
            (isEmergencyStop_command emergency) ⟨command, ?_, emergency⟩ rfl⟩
          · apply accepted_of_valid valid
            simp [commandTransition, OutputEvent.isRejection]
          · simp [validCommand, valid, Except.toOption]
      | sessionStart command valid named =>
          refine tells_transition (accepted_of_valid valid ?_) (by simp [named]) rfl ?_
          · simp [commandTransition]
          · simp [startSession]
      | modeSet command valid named =>
          refine tells_plain (by simp [returned]) ?_ rfl
          intro other taken
          rw [accepted_of_valid valid rfl] at taken
          cases taken
          simp [named]
      | headRecenter command orientation valid named =>
          refine tells_transition (accepted_of_valid valid ?_) (by simp [named]) rfl ?_
          · simp [commandTransition]
          · simp [recenterHead]
      | headPose command orientation target valid named _ _ active =>
          refine tells_plain ?_ ?_ rfl
          · simp [returned, OutputEvent.Plain, state?, reason?]
          · intro other taken
            rw [accepted_of_valid valid rfl] at taken
            cases taken
            simp [named]
      | sessionStop command valid named notDue =>
          refine ⟨some .sessionStopped, .stopped rfl, .sessionStop command ?_ named notDue rfl⟩
          apply accepted_of_valid valid
          simp [commandTransition, OutputEvent.isRejection]

/-! ## What the shape says about the stream -/

namespace Emission

variable {entry : CallEntry K} {source target : GatewayState} {reason : Option StopReason}

omit [Field K] [LinearOrder K] in
theorem states_eq (emission : Emission entry source target reason) :
    states entry = if source = target then [] else [target] := by
  obtain ⟨sessionId, sequence, stop, rest, events, _, plain⟩ := emission.shape
  have silent : rest.filterMap state? = [] :=
    List.filterMap_eq_nil_iff.mpr fun event membership => (plain event membership).1
  unfold states
  rw [events, List.filterMap_append, List.filterMap_append, silent]
  unfold transitionEvents
  split
  · cases stop <;> rfl
  · cases stop <;> rfl

omit [Field K] [LinearOrder K] in
theorem stops_eq (emission : Emission entry source target reason) :
    stops entry = reason.toList := by
  obtain ⟨sessionId, sequence, stop, rest, events, rfl, plain⟩ := emission.shape
  have silent : rest.filterMap reason? = [] :=
    List.filterMap_eq_nil_iff.mpr fun event membership => (plain event membership).2
  unfold stops
  rw [events, List.filterMap_append, List.filterMap_append, silent]
  unfold transitionEvents
  split
  · cases stop <;> rfl
  · cases stop <;> rfl

omit [Field K] [LinearOrder K] in
/-- The event of a transition that has a stop stands right in front of it. -/
theorem followedBy {state : GatewayState} {why : StopReason}
    (emission : Emission entry source target reason)
    (stopped : source ≠ target → target = state → reason = some why) :
    FollowedBy (fun event => event.state? = some state) (fun event => event.reason? = some why)
      (returned entry) := by
  intro before event after split isState
  obtain ⟨sessionId, sequence, stop, rest, events, isReason, plain⟩ := emission.shape
  have behind : ∀ other ∈ stop.toList.map OutputEvent.safetyStop ++ rest,
      other.state? = none := by
    intro other membership
    rcases List.mem_append.mp membership with isStop | inRest
    · obtain ⟨_, _, rfl⟩ := List.mem_map.mp isStop
      rfl
    · exact (plain other inRest).1
  have early : event ∉ stop.toList.map OutputEvent.safetyStop ++ rest := by
    intro membership
    rw [behind event membership] at isState
    cases isState
  unfold transitionEvents at events
  rw [events] at split
  by_cases same : source = target
  · rw [if_pos same, List.nil_append] at split
    exact absurd (by rw [split]; simp) early
  · rw [if_neg same, List.singleton_append] at split
    cases before with
    | cons first before =>
        obtain ⟨_, tail⟩ := List.cons.inj split
        exact absurd (by rw [tail]; simp) early
    | nil =>
        obtain ⟨rfl, rfl⟩ := List.cons.inj split
        cases isState
        have why := stopped same rfl
        rw [← isReason] at why
        cases stop with
        | none => cases why
        | some stop => exact ⟨_, rest, rfl, why⟩

end Emission

section Laws

variable {gateway next : VrGateway M} {entry : CallEntry K}

theorem Tells.states_eq (tells : Tells gateway entry next) :
    states entry = if gateway.state = next.state then [] else [next.state] := by
  obtain ⟨reason, emission, _⟩ := tells
  exact emission.states_eq

/-- What one call shows of the laws. -/
structure Truthful (M : FloatMath K) (entry : CallEntry K) : Prop where
  oneState : (states entry).length ≤ 1
  oneStop : (stops entry).length ≤ 1
  safeStopped : FollowedBy (fun event => event.state? = some .safeStopped)
    (fun event => event.reason? = some .watchdog) (returned entry)
  watchdog : .watchdog ∈ stops entry ↔ .safeStopped ∈ states entry
  latched : FollowedBy (fun event => event.state? = some .estopLatched)
    (fun event => event.reason? = some .emergencyStop) (returned entry)
  sessionStopped : .sessionStopped ∈ stops entry ↔
    ∃ command, accepted M entry = some command ∧ command.command = .sessionStop

theorem Tells.truthful (tells : Tells gateway entry next) : Truthful M entry := by
  have stated := tells.states_eq
  obtain ⟨reason, emission, cause⟩ := tells
  have stopped := emission.stops_eq
  refine ⟨?_, ?_, emission.followedBy ?_, ?_, emission.followedBy ?_, ?_⟩
  · rw [stated]
    split <;> simp
  · rw [stopped]
    cases reason <;> simp
  · intro moved isSafe
    cases cause with
    | quiet calm =>
        rcases calm with same | ⟨notSafe, _⟩
        · exact absurd same.symm moved
        · exact absurd isSafe notSafe
    | watchdog => rfl
    | emergencyStop _ _ _ _ latched => cases latched.symm.trans isSafe
    | sessionStop _ _ _ _ resting => cases resting.symm.trans isSafe
  · rw [stated, stopped]
    cases cause with
    | quiet calm =>
        rcases calm with same | ⟨notSafe, _⟩
        · simp [same]
        · split
          · simp
          · simpa using notSafe.symm
    | watchdog active safe => simp [active, safe]
    | emergencyStop _ _ _ _ latched => split <;> simp [latched]
    | sessionStop _ _ _ _ resting => split <;> simp [resting]
  · intro moved isLatched
    cases cause with
    | quiet calm =>
        rcases calm with same | ⟨_, notLatched⟩
        · exact absurd same.symm moved
        · exact absurd isLatched notLatched
    | watchdog _ safe => cases safe.symm.trans isLatched
    | emergencyStop => rfl
    | sessionStop _ _ _ _ resting => cases resting.symm.trans isLatched
  · rw [stopped]
    cases cause with
    | quiet _ goesOn =>
        apply iff_of_false (by simp)
        rintro ⟨command, taken, named⟩
        exact goesOn command taken named
    | watchdog _ _ refused => simp [refused]
    | emergencyStop command taken named => simp [taken, named]
    | sessionStop command taken named => simp [taken, named]

/-- An expired handshake returns no stop. -/
theorem Tells.handshake (tells : Tells gateway entry next)
    (awaiting : gateway.state = .awaitingRecenter)
    (due : gateway.DeadlineDue entry.input.nowNs) (ordinary : ¬IsEmergencyStop M entry.input) :
    stops entry = [] := by
  obtain ⟨reason, emission, cause⟩ := tells
  rw [emission.stops_eq]
  cases cause with
  | quiet => rfl
  | watchdog active => cases awaiting.symm.trans active
  | emergencyStop _ _ _ emergency => exact absurd emergency ordinary
  | sessionStop _ _ _ notDue => exact absurd due notDue

end Laws

/-! ## Runs -/

/-- The laws of the stream of a run that ends in `gateway`. -/
structure EventStream (start : VrGateway M) (history : History K) (gateway : VrGateway M) :
    Prop where
  current : (trail history).getLast? = some gateway.state
  changes : (trail history).IsChain (· ≠ ·)
  truthful : ∀ entry ∈ history, Truthful M entry
  handshake : ∀ before entry after state, history = before ++ entry :: after →
    Machine.Run step start before state → state.state = .awaitingRecenter →
    state.DeadlineDue entry.input.nowNs → ¬IsEmergencyStop M entry.input → stops entry = []

omit [Field K] [LinearOrder K] in
theorem trail_snoc (history : History K) (entry : CallEntry K) :
    trail (history ++ [entry]) = trail history ++ states entry := by
  simp [trail, List.flatMap_append]

/-- One more call goes on with the trail where it was. -/
theorem trail_step {gateway next : VrGateway M} {history : History K} {entry : CallEntry K}
    (current : (trail history).getLast? = some gateway.state)
    (changes : (trail history).IsChain (· ≠ ·)) (tells : Tells gateway entry next) :
    (trail (history ++ [entry])).getLast? = some next.state ∧
      (trail (history ++ [entry])).IsChain (· ≠ ·) := by
  rw [trail_snoc, tells.states_eq]
  split
  · next same =>
      rw [List.append_nil, ← same]
      exact ⟨current, changes⟩
  · next moved =>
      refine ⟨by simp, changes.append (List.isChain_singleton _) ?_⟩
      intro earlier isLast later isHead
      change earlier ∈ (trail history).getLast? at isLast
      rw [current] at isLast
      cases isLast
      cases isHead
      exact moved

/-- The event stream of every run of a new gateway is truthful. -/
theorem eventStream_of_run (neckController : NeckController M) (config : GatewayConfig)
    (history : History K) (gateway : VrGateway M)
    (run : Machine.Run step (new neckController config) history gateway) :
    EventStream (new neckController config) history gateway := by
  have trailed : (trail history).getLast? = some gateway.state ∧
      (trail history).IsChain (· ≠ ·) := by
    induction run with
    | nil => exact ⟨rfl, List.isChain_singleton _⟩
    | snoc input _ inductionHypothesis =>
        exact trail_step inductionHypothesis.1 inductionHypothesis.2 (step_tells _ input)
  refine ⟨trailed.1, trailed.2, ?_, ?_⟩
  · intro entry membership
    obtain ⟨before, after, rfl⟩ := List.append_of_mem membership
    obtain ⟨state, _, output, _⟩ := run.entry
    have tells := step_tells state entry.input
    rw [← output] at tells
    exact tells.truthful
  · rintro before entry after state rfl past awaiting due ordinary
    obtain ⟨other, otherPast, output, _⟩ := run.entry
    obtain rfl := otherPast.deterministic past
    have tells := step_tells other entry.input
    rw [← output] at tells
    exact tells.handshake awaiting due ordinary

/-- The stream of the example session. -/
theorem eventStream_of_run_opened :
    EventStream Session.gateway Session.opened.1 Session.opened.2 :=
  eventStream_of_run Session.controller {} _ _ Session.opened_run

end VrGateway

end ValeraControlTower

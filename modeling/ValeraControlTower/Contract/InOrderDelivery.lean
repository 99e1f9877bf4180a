import ValeraControlTower.Unity.SessionSequence
import ValeraControlTower.VrGateway.Rejections

/-!
# Numbers that arrive in order

A client numbers the commands of a session with a `SessionSequence`.  However many of them
are lost, and whatever else reaches the gateway in between, none that arrives in the order of
its number is refused as stale.
-/

namespace ValeraControlTower

variable {K : Type} [Field K] [LinearOrder K] {M : FloatMath K}

/-- The code does not blame the number or the time of a command. -/
def Unstale (code : RejectionCode) : Prop := code ≠ .staleSequence ∧ code ≠ .staleTimestamp

instance (code : RejectionCode) : Decidable (Unstale code) := inferInstanceAs (Decidable (_ ∧ _))

/-- No rejection among the events of a call blames the number or the time of a command. -/
def NotStale (outcome : Outcome K) : Prop :=
  ∀ events, outcome = .ok events → ∀ rejection, .commandRejected rejection ∈ events →
    Unstale rejection.code

namespace VrGateway

variable {gateway : VrGateway M} {command : CommandEnvelope M} {nowNs : ℤ}

omit [Field K] [LinearOrder K] in
theorem notStale_of_clean {events : List (OutputEvent K)}
    (clean : ∀ event ∈ events, event.isRejection = false) : NotStale (.ok events) := by
  intro _ same rejection membership
  cases same
  cases clean _ membership

omit [Field K] [LinearOrder K] in
theorem notStale_error {exception : PyException} : NotStale (K := K) (.error exception) := by
  intro _ same
  cases same

theorem notStale_reject {code : RejectionCode} (unstale : Unstale code) :
    NotStale (.ok [reject command code nowNs]) := by
  intro _ same rejection membership
  cases same
  obtain rfl := OutputEvent.commandRejected.inj (List.mem_singleton.mp membership)
  exact unstale

omit [Field K] [LinearOrder K] in
theorem notStale_untrusted {object : PyObject K} {code : RejectionCode} (unstale : Unstale code) :
    NotStale (.ok [rejectUntrusted object code nowNs]) := by
  intro _ same rejection membership
  cases same
  obtain rfl := OutputEvent.commandRejected.inj (List.mem_singleton.mp membership)
  exact unstale

omit [Field K] [LinearOrder K] in
theorem notStale_append {first second : List (OutputEvent K)}
    (clean : ∀ event ∈ first, event.isRejection = false) (last : NotStale (.ok second)) :
    NotStale (.ok (first ++ second)) := by
  intro _ same rejection membership
  cases same
  rcases List.mem_append.mp membership with early | late
  · cases clean _ early
  · exact last _ rfl rejection late

/-! ## Only the session gates blame the number or the time -/

theorem handleSessionStart_notStale :
    NotStale (gateway.handleSessionStart command nowNs).2 := by
  unfold handleSessionStart
  simp only [transition_eq]
  split
  · exact notStale_reject (by decide)
  · split
    · split
      · exact notStale_reject (by decide)
      · split
        · exact notStale_reject (by decide)
        · split
          · exact notStale_reject (by decide)
          · split
            · exact notStale_reject (by decide)
            · exact notStale_of_clean (commandTransition_isRejection gateway command _ nowNs)
    · exact notStale_reject (by decide)

theorem handleModeSet_notStale (payload : ModeSetPayload) :
    NotStale (gateway.handleModeSet command payload nowNs).2 := by
  unfold handleModeSet
  split
  · exact notStale_reject (by decide)
  · split
    · exact notStale_reject (by decide)
    · exact notStale_of_clean (by simp)

theorem handleRecenter_notStale (payload : PosePayload M) :
    NotStale (gateway.handleRecenter command payload nowNs).2 := by
  unfold handleRecenter
  split
  · exact notStale_reject (by decide)
  · dsimp only
    split
    · exact notStale_error
    · simp only [transition_eq]
      exact notStale_of_clean (commandTransition_isRejection gateway command _ nowNs)

theorem handlePose_notStale (payload : PosePayload M) :
    NotStale (gateway.handlePose command payload nowNs).2 := by
  unfold handlePose
  split
  · exact notStale_reject (by decide)
  · split
    · exact notStale_error
    · dsimp only
      split
      · exact notStale_error
      · exact notStale_of_clean (by simp [OutputEvent.isRejection])

theorem handleSessionStop_notStale : NotStale (gateway.handleSessionStop command nowNs).2 := by
  unfold handleSessionStop
  simp only [transition_eq]
  apply notStale_append (commandTransition_isRejection gateway command _ nowNs)
  exact notStale_of_clean (by simp [OutputEvent.isRejection])

theorem handleEmergencyStop_notStale :
    NotStale (gateway.handleEmergencyStop command nowNs).2 := by
  unfold handleEmergencyStop
  simp only [transition_eq]
  apply notStale_append (commandTransition_isRejection gateway command _ nowNs)
  exact notStale_of_clean (by simp [OutputEvent.isRejection])

/-- The number and the time are new to the session, if it is the active one. -/
def NewToSession (gateway : VrGateway M) (command : CommandEnvelope M) : Prop :=
  gateway.activeSessionId = some command.sessionId →
    (∀ last, gateway.lastSequence = some last → last < command.sequence) ∧
    ∀ last, gateway.lastTimestampMs = some last → last ≤ command.timestampMs

theorem route_notStale (new : NewToSession gateway command) :
    NotStale (gateway.route command nowNs).2 := by
  unfold route
  split
  · exact handleSessionStart_notStale
  · split
    · exact notStale_reject (by decide)
    · split
      · exact notStale_reject (by decide)
      · next active =>
          split
          · exact notStale_reject (by decide)
          · next same =>
              obtain ⟨newer, notEarlier⟩ := new (by simpa [active, eq_comm] using same)
              split
              · next stale =>
                  obtain ⟨last, numbered, old⟩ := (Option.any_eq_true _ _).mp stale
                  exact absurd (newer last numbered) (by simpa using old)
              · split
                · next stale =>
                    obtain ⟨last, timed, old⟩ := (Option.any_eq_true _ _).mp stale
                    exact absurd (notEarlier last timed) (by simpa using old)
                · split
                  · exact handleModeSet_notStale _
                  · exact handleRecenter_notStale _
                  · exact handlePose_notStale _
                  · exact handleSessionStop_notStale
                  · exact notStale_reject (by decide)

theorem handle_notStale {object : PyObject K}
    (new : ∀ command, validateCommandEnvelope M object = .ok command →
      NewToSession gateway command) : NotStale (gateway.handle object nowNs).2 := by
  have clean := evaluateDeadline_isRejection gateway nowNs
  unfold handle
  split
  · split
    · exact notStale_append clean (notStale_untrusted (by decide))
    · exact notStale_error
  · next command valid =>
      split
      · exact handleEmergencyStop_notStale
      · dsimp only
        split
        · exact notStale_append clean (notStale_reject (by decide))
        · split
          · apply notStale_append clean
            split
            · exact notStale_reject (by decide)
            · exact notStale_reject (by decide)
          · next quiet =>
              have notDue := notDue_of_no_events (not_not.mp quiet)
              rw [evaluateDeadline_of_notDue notDue]
              exact route_notStale (new command valid)

end VrGateway

/-! ## What has been delivered -/

/-- The valid commands of a session among the calls, accepted or not. -/
def delivered (M : FloatMath K) (sessionId : PyStr) (history : History K) :
    List (CommandEnvelope M) :=
  history.filterMap fun entry =>
    (validCommand M entry.input).filter fun command => command.sessionId = sessionId

theorem delivered_append (sessionId : PyStr) (first second : History K) :
    delivered M sessionId (first ++ second) =
      delivered M sessionId first ++ delivered M sessionId second :=
  List.filterMap_append

theorem delivered_single {entry : CallEntry K} {command : CommandEnvelope M}
    (valid : validCommand M entry.input = some command) (more : History K) :
    delivered M command.sessionId (entry :: more) =
      command :: delivered M command.sessionId more := by
  have found : (validCommand M entry.input).filter
      (fun other => other.sessionId = command.sessionId) = some command := by
    rw [valid]
    simp
  exact List.filterMap_cons_some found

/-- The number and the time the gateway remembers are those of a delivered command. -/
def Remembers (history : History K) (gateway : VrGateway M) : Prop :=
  ∀ sessionId, gateway.activeSessionId = some sessionId →
    ∃ command ∈ delivered M sessionId history,
      gateway.lastSequence = some command.sequence ∧
      gateway.lastTimestampMs = some command.timestampMs

theorem Remembers.append {history : History K} {gateway : VrGateway M}
    (remembers : Remembers history gateway) (more : History K) :
    Remembers (history ++ more) gateway := by
  intro sessionId active
  obtain ⟨command, membership, remembered⟩ := remembers sessionId active
  rw [delivered_append]
  exact ⟨command, List.mem_append_left _ membership, remembered⟩

theorem remembers_taken {history : History K} {entry : CallEntry K} {command : CommandEnvelope M}
    (taken : accepted M entry = some command) {after : VrGateway M}
    (active : after.activeSessionId = some command.sessionId)
    (numbered : after.lastSequence = some command.sequence)
    (timed : after.lastTimestampMs = some command.timestampMs) :
    Remembers (history ++ [entry]) after := by
  intro sessionId isActive
  cases active.symm.trans isActive
  refine ⟨command, ?_, numbered, timed⟩
  rw [delivered_append, delivered_single (validCommand_of_accepted taken)]
  exact List.mem_append_right _ List.mem_cons_self

theorem Remembers.snoc {history : History K} {gateway next : VrGateway M} {entry : CallEntry K}
    (remembers : Remembers history gateway)
    (outcome : VrGateway.StepCase gateway entry next) :
    Remembers (history ++ [entry]) next := by
  have ended (state : GatewayState) :
      Remembers (history ++ [entry]) (gateway.endSession state) := by
    intro sessionId active
    cases active
  cases outcome with
  | unchanged | updateRaised => exact remembers.append _
  | expired | emergencyStop | sessionStop => exact ended _
  | sessionStart taken => exact remembers_taken taken rfl rfl rfl
  | modeSet taken _ _ _ _ inSession | headRecenter taken _ _ _ _ inSession
  | headPose taken _ _ _ _ inSession => exact remembers_taken taken inSession.active rfl rfl

theorem remembers_of_run {controller : NeckController M} {config : GatewayConfig}
    {history : History K} {gateway : VrGateway M}
    (run : Machine.Run VrGateway.step (.new controller config) history gateway) :
    Remembers history gateway := by
  induction run with
  | nil =>
      intro sessionId active
      cases active
  | snoc stimulus _ inductionHypothesis =>
      exact inductionHypothesis.snoc (VrGateway.step_cases _ stimulus)

/-- The commands of a session are delivered in the order of their numbers, which a
`SessionSequence` returned, and none of them is older than one before it. -/
structure InOrder (M : FloatMath K) (sessionId : PyStr) (calls : Unity.SessionSequence.Calls)
    (history : History K) : Prop where
  numbers : ((delivered M sessionId history).map (·.sequence)).Sublist
    (Unity.SessionSequence.numbers calls)
  times : ((delivered M sessionId history).map (·.timestampMs)).Pairwise (· ≤ ·)

/-- What was delivered before a command has smaller numbers and no later times. -/
theorem InOrder.newer {sessionId : PyStr} {start sequence : Unity.SessionSequence}
    {calls : Unity.SessionSequence.Calls}
    (issued : Machine.Run Unity.SessionSequence.step start calls sequence)
    {before after : List (CommandEnvelope M)} {history : History K} {command : CommandEnvelope M}
    (inOrder : InOrder M sessionId calls history)
    (split : delivered M sessionId history = before ++ command :: after) :
    ∀ earlier ∈ before, earlier.sequence < command.sequence ∧
      earlier.timestampMs ≤ command.timestampMs := by
  have numbers := (Unity.SessionSequence.counts_of_run issued).increasing.sublist inOrder.numbers
  have times := inOrder.times
  rw [split, List.pairwise_map, List.pairwise_append] at numbers times
  intro earlier membership
  exact ⟨numbers.2.2 earlier membership command List.mem_cons_self,
    times.2.2 earlier membership command List.mem_cons_self⟩

/-- In every run, whatever else it holds: commands of a session that are delivered in order,
with the numbers of a `SessionSequence`, are not refused as stale. -/
theorem notStale_of_run {controller : NeckController M} {config : GatewayConfig}
    {history : History K} {gateway : VrGateway M} {sessionId : PyStr}
    {start sequence : Unity.SessionSequence} {calls : Unity.SessionSequence.Calls}
    (run : Machine.Run VrGateway.step (.new controller config) history gateway)
    (issued : Machine.Run Unity.SessionSequence.step start calls sequence)
    (inOrder : InOrder M sessionId calls history) :
    ∀ entry ∈ history, ∀ command, validCommand M entry.input = some command →
      command.sessionId = sessionId → NotStale entry.output := by
  intro entry membership command valid same
  subst same
  obtain ⟨before, after, rfl⟩ := List.append_of_mem membership
  obtain ⟨state, past, output, _⟩ := run.entry
  have remembers := remembers_of_run past
  have newer := inOrder.newer issued
    ((delivered_append _ before _).trans (congrArg _ (delivered_single valid after)))
  have new : VrGateway.NewToSession state command := by
    intro active
    obtain ⟨last, isDelivered, numbered, timed⟩ := remembers _ active
    obtain ⟨smaller, notLater⟩ := newer last isDelivered
    rw [numbered, timed]
    exact ⟨by simpa using smaller, by simpa using notLater⟩
  rw [output]
  obtain ⟨⟨call, nowNs⟩, outcome⟩ := entry
  cases call with
  | poll => cases valid
  | handle object =>
      apply VrGateway.handle_notStale
      intro other isOther
      unfold validCommand at valid
      dsimp only at valid
      rw [isOther] at valid
      cases valid
      exact new

theorem validCommand_recenter : validCommand FloatMath.axis
    ⟨.handle Session.recenter.toObject, 100000000⟩ = some Session.recenter := by
  unfold validCommand
  dsimp only
  rw [validateCommandEnvelope_toObject]
  rfl

/-- The recenter of the example session, numbered by a new `SessionSequence`. -/
theorem notStale_of_run_opened :
    ∃ entry, Session.opened.1[1]? = some entry ∧
      entry.input = ⟨.handle Session.recenter.toObject, 100000000⟩ ∧ NotStale entry.output :=
  ⟨_, rfl, rfl, notStale_of_run Session.opened_run
    (Machine.execute_run Unity.SessionSequence.step ⟨⟨0, by decide⟩, le_rfl⟩ [(), ()])
    { numbers := by
        have same : (delivered FloatMath.axis Session.recenter.sessionId
            Session.opened.1).map (·.sequence) = [1, 2] := by
          decide +kernel
        rw [same]
        exact List.Sublist.refl _
      times := by
        have same : (delivered FloatMath.axis Session.recenter.sessionId
            Session.opened.1).map (·.timestampMs) = [1, 2] := by
          decide +kernel
        rw [same]
        decide }
    _ (List.mem_cons_of_mem _ List.mem_cons_self) Session.recenter validCommand_recenter rfl⟩

end ValeraControlTower

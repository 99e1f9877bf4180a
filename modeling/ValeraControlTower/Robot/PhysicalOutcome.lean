import ValeraControlTower.Robot.PhysicalDemo

/-!
# How a physical demo ends

A demo ends with its only terminal event, unless the event of the probe is terminal itself
or so late in number that the events behind it have no time.
-/

namespace ValeraControlTower

namespace Robot

open TaskEventLog

variable {K : Type} {stamp : MissionStamp} {task : Task} {log : TaskEventLog K} {taskId : PyStr}
  {types : List EventType} {last : ℤ} {eventType : EventType} {reason : PyStr}
  {provider : ConfirmationProvider}

/-! ## Appending one event -/

theorem appendPhysical_ok (recording : Recording log stamp.taskId types last) (fits : stamp.Fits)
    (started : 0 ≤ last) (inTime : stamp.InTime (last + 1))
    (goesOn : eventType.isTerminal = false) (task : Task) :
    ∃ longer, appendPhysical stamp task log eventType = .ok longer ∧
      Recording longer stamp.taskId (types ++ [eventType]) (last + 1) := by
  obtain ⟨event, longer, made, appended, longerRecording, _⟩ :=
    recording.next fits started inTime goesOn (physicalPayload task eventType) none
  refine ⟨longer, ?_, longerRecording⟩
  unfold appendPhysical
  rw [recording.lastSequence, made]
  exact appended

theorem completePhysical_ok (recording : Recording log stamp.taskId types last)
    (fits : stamp.Fits) (started : 0 ≤ last) (inTime : stamp.InTime (last + 1)) (task : Task) :
    ∃ longer final, appendPhysical stamp task log .taskCompleted = .ok longer ∧
      Finished longer types final ∧ final.eventType = .taskCompleted := by
  have terminal : EventType.taskCompleted.isTerminal = true := rfl
  obtain ⟨final, longer, made, appended, finished, makes⟩ := recording.finishNext fits started
    inTime terminal (physicalPayload task .taskCompleted) none
  refine ⟨longer, final, ?_, finished, makes.typed⟩
  unfold appendPhysical
  rw [recording.lastSequence, made]
  exact appended

theorem appendPhysical_late (isLast : log.lastSequence = last) (late : ¬stamp.InTime (last + 1))
    (task : Task) (eventType : EventType) :
    ∃ exception, appendPhysical stamp task log eventType = .error exception := by
  obtain ⟨exception, failed⟩ :=
    numberedEvent_late late eventType (physicalPayload (K := K) task eventType) none
  unfold appendPhysical
  rw [isLast, failed]
  exact ⟨exception, rfl⟩

theorem failPhysical_ok (recording : Recording log stamp.taskId types last) (fits : stamp.Fits)
    (started : 0 ≤ last) (inTime : stamp.InTime (last + 1)) (worded : reason ≠ []) (task : Task)
    (code : FailureCode) :
    ∃ longer final, failPhysical stamp task log reason code = .ok longer ∧
      Finished longer types final ∧ final.eventType = .taskFailed := by
  have terminal : EventType.taskFailed.isTerminal = true := rfl
  obtain ⟨final, longer, made, appended, finished, makes⟩ := recording.finishNext fits started
    inTime terminal (failedPayload task reason) (some ⟨code, reason, worded⟩)
  refine ⟨longer, final, ?_, finished, makes.typed⟩
  unfold failPhysical
  rw [EventError.new_ok worded, recording.lastSequence]
  change (numberedEvent stamp (last + 1) .taskFailed (failedPayload task reason)
    (some ⟨code, reason, worded⟩) >>= fun event => log.append event >>= fun eventLog =>
      eventLog.validate >>= fun _ => .ok eventLog) = _
  rw [made]
  change (log.append final >>= fun eventLog => eventLog.validate >>= fun _ => .ok eventLog) = _
  rw [appended]
  change (longer.validate >>= fun _ => .ok longer) = _
  rw [finished.validates]
  rfl

/-- A failure is recorded if an event can be appended at all. -/
theorem failPhysical_error (refused : ∀ error, ∃ exception,
      (numberedEvent stamp (log.lastSequence + 1) .taskFailed (failedPayload task reason)
        (some error) >>= log.append) = .error exception) (code : FailureCode) :
    ∃ exception, failPhysical stamp task log reason code = .error exception := by
  unfold failPhysical
  cases EventError.new code reason with
  | error exception => exact ⟨exception, rfl⟩
  | ok error =>
      obtain ⟨exception, failed⟩ := refused error
      refine ⟨exception, ?_⟩
      dsimp only [bind, Except.bind] at failed ⊢
      cases made : numberedEvent stamp (log.lastSequence + 1) .taskFailed
        (failedPayload task reason) (some error) with
      | error other =>
          rw [made] at failed
          exact failed
      | ok event =>
          rw [made] at failed
          dsimp only at failed ⊢
          rw [failed]

theorem failPhysical_late (isLast : log.lastSequence = last) (late : ¬stamp.InTime (last + 1))
    (task : Task) (reason : PyStr) (code : FailureCode) :
    ∃ exception, failPhysical stamp task log reason code = .error exception := by
  apply failPhysical_error
  intro error
  obtain ⟨exception, failed⟩ :=
    numberedEvent_late late .taskFailed (failedPayload (K := K) task reason) (some error)
  rw [isLast, failed]
  exact ⟨exception, rfl⟩

/-- A log with a terminal event takes no other one. -/
theorem append_closed (closed : log.terminalEventType ≠ none) (event : EventEnvelope K) :
    ∃ exception, log.append event = .error exception := by
  cases appended : log.append event with
  | error exception => exact ⟨exception, rfl⟩
  | ok longer =>
      have follows := (append_eq_ok.mp appended).1
      exact absurd (terminalEventType_eq_none.mpr follows.isOpen) closed

theorem failPhysical_closed (closed : log.terminalEventType ≠ none) (stamp : MissionStamp)
    (task : Task) (reason : PyStr) (code : FailureCode) :
    ∃ exception, failPhysical stamp task log reason code = .error exception := by
  apply failPhysical_error
  intro error
  cases made : numberedEvent stamp (log.lastSequence + 1) .taskFailed
    (failedPayload task reason) (some error) with
  | error exception => exact ⟨exception, rfl⟩
  | ok event => exact append_closed closed event

/-! ## The search -/

theorem appendSearch_ok (eventTypes : List EventType)
    (recording : Recording log stamp.taskId types last) (fits : stamp.Fits) (started : 0 ≤ last)
    (inTime : stamp.InTime (last + eventTypes.length))
    (goOn : ∀ eventType ∈ eventTypes, eventType.isTerminal = false) (task : Task) :
    ∃ longer, appendSearch stamp task log eventTypes = .ok longer ∧
      Recording longer stamp.taskId (types ++ eventTypes) (last + eventTypes.length) := by
  induction eventTypes generalizing log types last with
  | nil => exact ⟨log, rfl, by simpa using recording⟩
  | cons eventType eventTypes inductionHypothesis =>
      have counted : last + ((eventType :: eventTypes).length : ℤ) =
          last + 1 + (eventTypes.length : ℤ) := by
        rw [List.length_cons]
        omega
      rw [counted] at inTime
      obtain ⟨next, appended, nextRecording⟩ := appendPhysical_ok recording fits started
        (inTime.mono (by omega)) (goOn eventType List.mem_cons_self) task
      obtain ⟨longer, rest, longerRecording⟩ := inductionHypothesis nextRecording (by omega) inTime
        fun other membership => goOn other (List.mem_cons_of_mem eventType membership)
      refine ⟨longer, ?_, ?_⟩
      · rw [appendSearch, appended]
        exact rest
      · rw [counted]
        simpa using longerRecording

/-! ## The confirmations -/

/-- The steps the operator confirms in a row. -/
def confirmedSteps (provider : ConfirmationProvider) (asked : List Question) :
    List OperatorConfirmation → List OperatorConfirmation
  | [] => []
  | confirmation :: confirmations =>
      let asked := asked ++ [confirmation.question]
      if provider asked then confirmation :: confirmedSteps provider asked confirmations else []

/-- The demo goes through the confirmed steps, and completes if these are all. -/
theorem confirmSteps_ok (confirmations : List OperatorConfirmation) (asked : List Question)
    (recording : Recording log stamp.taskId types last) (fits : stamp.Fits) (started : 0 ≤ last)
    (inTime : stamp.InTime (last + (confirmedSteps provider asked confirmations).length + 1))
    (goOn : ∀ confirmation ∈ confirmations, confirmation.eventType.isTerminal = false)
    (task : Task) :
    ∃ longer questions final,
      confirmSteps stamp task provider log asked confirmations = .ok (longer, questions) ∧
      Finished longer
        (types ++ (confirmedSteps provider asked confirmations).map (·.eventType)) final ∧
      (confirmedSteps provider asked confirmations = confirmations ∧
          final.eventType = .taskCompleted ∧
          questions = asked ++ confirmations.map (·.question) ∨
        confirmedSteps provider asked confirmations ≠ confirmations ∧
          final.eventType = .taskFailed) := by
  induction confirmations generalizing log types last asked with
  | nil =>
      obtain ⟨longer, final, appended, finished, completed⟩ := completePhysical_ok recording fits
        started (by simpa [confirmedSteps] using inTime) task
      refine ⟨longer, asked, final, ?_, by simpa [confirmedSteps] using finished,
        .inl ⟨rfl, completed, by simp⟩⟩
      rw [confirmSteps, appended]
      change (longer.validate >>= fun _ => .ok (longer, asked)) = _
      rw [finished.validates]
      rfl
  | cons confirmation confirmations inductionHypothesis =>
      unfold confirmSteps
      by_cases confirmed : provider (asked ++ [confirmation.question]) = true
      · have steps : confirmedSteps provider asked (confirmation :: confirmations) =
            confirmation :: confirmedSteps provider (asked ++ [confirmation.question])
              confirmations := if_pos confirmed
        have counted : last + ((confirmedSteps provider asked
            (confirmation :: confirmations)).length : ℤ) + 1 = last + 1 +
              ((confirmedSteps provider (asked ++ [confirmation.question])
                confirmations).length : ℤ) + 1 := by
          rw [steps, List.length_cons]
          omega
        rw [counted] at inTime
        obtain ⟨next, appended, nextRecording⟩ := appendPhysical_ok recording fits started
          (inTime.mono (by omega)) (goOn confirmation List.mem_cons_self) task
        obtain ⟨longer, questions, final, rest, finished, verdict⟩ :=
          inductionHypothesis (asked ++ [confirmation.question]) nextRecording (by omega) inTime
            fun other membership => goOn other (List.mem_cons_of_mem confirmation membership)
        rw [steps]
        refine ⟨longer, questions, final, ?_, by simpa using finished, ?_⟩
        · dsimp only
          rw [if_pos confirmed, appended]
          exact rest
        · simpa using verdict
      · have steps : confirmedSteps provider asked (confirmation :: confirmations) = [] :=
          if_neg confirmed
        rw [steps] at inTime ⊢
        have worded : py "operator cancelled during " ++ confirmation.question.stepName ≠ [] := by
          have text : py "operator cancelled during " ≠ [] := by decide
          simp [text]
        obtain ⟨longer, final, failed, finished, typed⟩ := failPhysical_ok recording fits started
          (by simpa using inTime) worded task .manualCancelled
        refine ⟨longer, asked ++ [confirmation.question], final, ?_, by simpa using finished,
          .inr ⟨nofun, typed⟩⟩
        dsimp only
        rw [if_neg confirmed, failed]
        rfl

/-- The demo raises if it comes to an event without a time. -/
theorem confirmSteps_late (confirmations : List OperatorConfirmation) (asked : List Question)
    (recording : Recording log stamp.taskId types last) (fits : stamp.Fits) (started : 0 ≤ last)
    (late : ¬stamp.InTime (last + (confirmedSteps provider asked confirmations).length + 1))
    (goOn : ∀ confirmation ∈ confirmations, confirmation.eventType.isTerminal = false)
    (task : Task) :
    ∃ exception, confirmSteps stamp task provider log asked confirmations = .error exception := by
  induction confirmations generalizing log types last asked with
  | nil =>
      obtain ⟨exception, failed⟩ := appendPhysical_late recording.lastSequence
        (by simpa [confirmedSteps] using late) task .taskCompleted
      rw [confirmSteps, failed]
      exact ⟨exception, rfl⟩
  | cons confirmation confirmations inductionHypothesis =>
      unfold confirmSteps
      by_cases confirmed : provider (asked ++ [confirmation.question]) = true
      · have steps : confirmedSteps provider asked (confirmation :: confirmations) =
            confirmation :: confirmedSteps provider (asked ++ [confirmation.question])
              confirmations := if_pos confirmed
        have counted : last + ((confirmedSteps provider asked
            (confirmation :: confirmations)).length : ℤ) + 1 = last + 1 +
              ((confirmedSteps provider (asked ++ [confirmation.question])
                confirmations).length : ℤ) + 1 := by
          rw [steps, List.length_cons]
          omega
        rw [counted] at late
        dsimp only
        rw [if_pos confirmed]
        by_cases inTime : stamp.InTime (last + 1)
        · obtain ⟨next, appended, nextRecording⟩ := appendPhysical_ok recording fits started
            inTime (goOn confirmation List.mem_cons_self) task
          rw [appended]
          exact inductionHypothesis (asked ++ [confirmation.question]) nextRecording (by omega) late
            fun other membership => goOn other (List.mem_cons_of_mem confirmation membership)
        · obtain ⟨exception, failed⟩ := appendPhysical_late recording.lastSequence inTime task
            confirmation.eventType
          rw [failed]
          exact ⟨exception, rfl⟩
      · have steps : confirmedSteps provider asked (confirmation :: confirmations) = [] :=
          if_neg confirmed
        rw [steps] at late
        obtain ⟨exception, failed⟩ := failPhysical_late recording.lastSequence
          (by simpa using late) task
          (py "operator cancelled during " ++ confirmation.question.stepName) .manualCancelled
        dsimp only
        rw [if_neg confirmed, failed]
        exact ⟨exception, rfl⟩

/-! ## The outcome -/

namespace PhysicalDemo

variable {demo : PhysicalDemo K} {event : EventEnvelope K}

/-- The time the demo starts from. -/
def startTime (demo : PhysicalDemo K) : DateTime := demo.runStartedAt.getD demo.now

/-- The event the probe returns when the demo calls it. -/
def Probes (demo : PhysicalDemo K) (event : EventEnvelope K) : Prop :=
  ∃ occurredAt, demo.stamp.timestampBase.addSeconds 6 = .ok occurredAt ∧
    demo.liveProbeRunner (demo.request 7 occurredAt) = .ok event

/-- The steps confirmed behind the event of the probe. -/
def steps (demo : PhysicalDemo K) (detected : EventType) : List OperatorConfirmation :=
  if detected = .objectFound then
    confirmedSteps demo.confirmationProvider [] operatorConfirmations
  else []

/-- The object was found, and all steps are confirmed. -/
def Succeeds (demo : PhysicalDemo K) (detected : EventType) : Prop :=
  detected = .objectFound ∧ demo.steps detected = operatorConfirmations

/-- The demo returns a valid log whose last event is its only terminal one.  It completes if it
succeeds, and then all questions were asked in order; otherwise it fails behind the confirmed
steps.  Nothing is asked if the object was not found. -/
def EndsAsConfirmed (demo : PhysicalDemo K) (detected : EventType) : Prop :=
  ∃ log questions, runPhysicalDemo demo = .ok (log, questions) ∧ log.validate = .ok () ∧
    log.EndsTerminal ∧
    (log.types.getLast? = some .taskCompleted ↔ demo.Succeeds detected) ∧
    (demo.Succeeds detected → questions = operatorConfirmations.map (·.question)) ∧
    (¬demo.Succeeds detected → log.types = physicalSearchTypes ++ [detected] ++
      (demo.steps detected).map (·.eventType) ++ [.taskFailed]) ∧
    (detected ≠ .objectFound → questions = [])

theorem fits_stamp (hasTask : demo.taskId ≠ []) : demo.stamp.Fits where
  hasSource := by
    change py "valera.physical_demo" ≠ []
    decide
  enabled := realVision_enabled
  hasTaskId := hasTask
  hasCorrelationId := by
    have hasDefault : demo.taskId ++ py "-physical-demo" ≠ [] := by simp [hasTask]
    change demo.correlation ≠ []
    unfold correlation
    split
    · exact hasDefault
    · next correlationId _ =>
        dsimp only
        split
        · exact hasDefault
        · next hasId => exact hasId

/-- Within a minute of the start there is time. -/
theorem inTime_stamp (early : demo.startTime.clock + 60 * 1000000 ≤ datetimeMax) {sequence : ℤ}
    (soon : sequence ≤ 61) : demo.stamp.InTime sequence := by
  change demo.startTime.clock + _ ≤ _
  omega

/-- The demo up to the event of the probe. -/
theorem runPhysicalDemo_eq (enabled : demo.enableLiveCamera = true) (hasTask : demo.taskId ≠ [])
    (hasObject : demo.objectId ≠ [])
    (early : demo.startTime.clock + 60 * 1000000 ≤ datetimeMax) (probed : demo.Probes event) :
    ∃ (task : Task) (log : TaskEventLog K),
      runPhysicalDemo demo = (log.append event >>= fun longer =>
        followProbe demo task longer event.eventType) ∧
      Recording log demo.taskId physicalSearchTypes 6 := by
  let task : Task := {
    taskId := demo.taskId
    objectId := demo.objectId
    pickupZone := .pickupZone
    deliveryZone := .deliveryZone
    mode := .realVision
    description := py ("Physical demo with live vision and operator-confirmed manipulation; " ++
      "no robot movement or arm control")
    hasTaskId := hasTask
    hasObjectId := hasObject
    enabled := realVision_enabled }
  have made : Task.new demo.taskId demo.objectId .pickupZone .deliveryZone .realVision
      task.description = .ok task := task.new_self
  obtain ⟨log, searched, recording⟩ := appendSearch_ok physicalSearchTypes (.new demo.taskId)
    (fits_stamp hasTask) le_rfl (inTime_stamp early (by decide)) (by decide) task
  change Recording log demo.taskId physicalSearchTypes 6 at recording
  obtain ⟨occurredAt, isTime, isEvent⟩ := probed
  refine ⟨task, log, ?_, recording⟩
  unfold runPhysicalDemo
  rw [if_neg (by rw [enabled]; nofun)]
  change (Task.new demo.taskId demo.objectId .pickupZone .deliveryZone .realVision
    task.description >>= fun _ => _) = _
  rw [made]
  change (appendSearch demo.stamp task ⟨demo.taskId, []⟩ physicalSearchTypes >>= fun _ => _) = _
  change appendSearch demo.stamp task ⟨demo.taskId, []⟩ physicalSearchTypes = _ at searched
  rw [searched]
  change (demo.stamp.timestampBase.addSeconds (log.lastSequence + 1 - 1) >>= fun occurredAt =>
    demo.liveProbeRunner (demo.request (log.lastSequence + 1) occurredAt) >>= fun _ => _) = _
  rw [recording.lastSequence]
  change (demo.stamp.timestampBase.addSeconds 6 >>= fun occurredAt =>
    demo.liveProbeRunner (demo.request 7 occurredAt) >>= fun _ => _) = _
  rw [isTime]
  change (demo.liveProbeRunner (demo.request 7 occurredAt) >>= fun _ => _) = _
  rw [isEvent]
  rfl

theorem succeeds_iff {detected : EventType} : demo.Succeeds detected ↔ detected = .objectFound ∧
    confirmedSteps demo.confirmationProvider [] operatorConfirmations = operatorConfirmations := by
  constructor
  · rintro ⟨rfl, confirmed⟩
    exact ⟨rfl, confirmed⟩
  · rintro ⟨rfl, confirmed⟩
    exact ⟨rfl, confirmed⟩

section Follow

variable {detected : EventType}

/-- What follows the event of the probe, if there is time for it. -/
theorem followProbe_ok
    (recording : Recording log demo.taskId (physicalSearchTypes ++ [detected]) last)
    (hasTask : demo.taskId ≠ []) (started : 0 ≤ last)
    (inTime : demo.stamp.InTime (last + (demo.steps detected).length + 1)) (task : Task) :
    ∃ longer questions final, followProbe demo task log detected = .ok (longer, questions) ∧
      Finished longer
        (physicalSearchTypes ++ [detected] ++ (demo.steps detected).map (·.eventType)) final ∧
      (detected ≠ .objectFound → questions = []) ∧
      (demo.Succeeds detected ∧ final.eventType = .taskCompleted ∧
          questions = operatorConfirmations.map (·.question) ∨
        ¬demo.Succeeds detected ∧ final.eventType = .taskFailed) := by
  have fits := fits_stamp hasTask
  by_cases found : detected = .objectFound
  · have isSteps : demo.steps detected =
        confirmedSteps demo.confirmationProvider [] operatorConfirmations := if_pos found
    rw [isSteps] at inTime ⊢
    obtain ⟨longer, questions, final, ran, finished, verdict⟩ := confirmSteps_ok
      operatorConfirmations [] recording fits started inTime (by decide) task
    refine ⟨longer, questions, final, ?_, finished, fun absent => absurd found absent, ?_⟩
    · unfold followProbe
      rw [if_neg (by rw [found]; nofun), if_neg (not_not.mpr found)]
      exact ran
    · rcases verdict with ⟨confirmed, completed, asked⟩ | ⟨cancelled, failed⟩
      · exact .inl ⟨succeeds_iff.mpr ⟨found, confirmed⟩, completed, asked⟩
      · exact .inr ⟨fun succeeds => cancelled (succeeds_iff.mp succeeds).2, failed⟩
  · have isSteps : demo.steps detected = [] := if_neg found
    have failing : ¬demo.Succeeds detected := fun succeeds => found succeeds.1
    rw [isSteps] at inTime ⊢
    unfold followProbe
    by_cases notFound : detected = .objectNotFound
    · have worded : py "live camera did not find the target object" ≠ [] := by decide
      obtain ⟨longer, final, failed, finished, typed⟩ := failPhysical_ok recording fits started
        (by simpa using inTime) worded task .objectNotFound
      refine ⟨longer, [], final, ?_, by simpa using finished, fun _ => rfl, .inr ⟨failing, typed⟩⟩
      rw [if_pos notFound, failed]
      rfl
    · have worded : py "live camera returned unexpected event type: " ++ detected.value ≠ [] := by
        have text : py "live camera returned unexpected event type: " ≠ [] := by decide
        simp [text]
      obtain ⟨longer, final, failed, finished, typed⟩ := failPhysical_ok recording fits started
        (by simpa using inTime) worded task .invalidTask
      refine ⟨longer, [], final, ?_, by simpa using finished, fun _ => rfl, .inr ⟨failing, typed⟩⟩
      rw [if_neg notFound, if_pos found, failed]
      rfl

/-- The demo raises if an event behind that of the probe has no time. -/
theorem followProbe_late
    (recording : Recording log demo.taskId (physicalSearchTypes ++ [detected]) last)
    (hasTask : demo.taskId ≠ []) (started : 0 ≤ last)
    (late : ¬demo.stamp.InTime (last + (demo.steps detected).length + 1)) (task : Task) :
    ∃ exception, followProbe demo task log detected = .error exception := by
  unfold followProbe
  by_cases found : detected = .objectFound
  · have isSteps : demo.steps detected =
        confirmedSteps demo.confirmationProvider [] operatorConfirmations := if_pos found
    rw [isSteps] at late
    rw [if_neg (by rw [found]; nofun), if_neg (not_not.mpr found)]
    exact confirmSteps_late operatorConfirmations [] recording (fits_stamp hasTask) started late
      (by decide) task
  · have isSteps : demo.steps detected = [] := if_neg found
    rw [isSteps] at late
    have tooLate : ¬demo.stamp.InTime (last + 1) := by simpa using late
    by_cases notFound : detected = .objectNotFound
    · obtain ⟨exception, failed⟩ := failPhysical_late recording.lastSequence tooLate task
        (py "live camera did not find the target object") .objectNotFound
      rw [if_pos notFound, failed]
      exact ⟨exception, rfl⟩
    · obtain ⟨exception, failed⟩ := failPhysical_late recording.lastSequence tooLate task
        (py "live camera returned unexpected event type: " ++ detected.value) .invalidTask
      rw [if_neg notFound, if_pos found, failed]
      exact ⟨exception, rfl⟩

/-- The demo raises behind a terminal event of the probe. -/
theorem followProbe_closed (terminal : detected.isTerminal = true)
    (closed : log.terminalEventType ≠ none) (task : Task) :
    ∃ exception, followProbe demo task log detected = .error exception := by
  obtain ⟨exception, failed⟩ := failPhysical_closed closed demo.stamp task
    (py "live camera returned unexpected event type: " ++ detected.value) .invalidTask
  have notFound : detected ≠ .objectNotFound := by
    rintro rfl
    cases terminal
  have found : detected ≠ .objectFound := by
    rintro rfl
    cases terminal
  unfold followProbe
  rw [if_neg notFound, if_pos found, failed]
  exact ⟨exception, rfl⟩

end Follow

section Outcome

variable (enabled : demo.enableLiveCamera = true) (hasTask : demo.taskId ≠ [])
  (hasObject : demo.objectId ≠ []) (early : demo.startTime.clock + 60 * 1000000 ≤ datetimeMax)
  (probed : demo.Probes event) (owned : event.taskId = demo.taskId) (later : 7 ≤ event.sequence)

include enabled hasTask hasObject early probed owned later

/-- A demo raises if the event of the probe is terminal. -/
theorem raises_of_terminal (terminal : event.eventType.isTerminal = true) :
    ∃ exception, runPhysicalDemo demo = .error exception := by
  obtain ⟨task, log, isRun, recording⟩ :=
    runPhysicalDemo_eq enabled hasTask hasObject early probed
  rw [isRun, append_ok (recording.follows owned (by omega))]
  have closed : (⟨log.taskId, log.events ++ [event]⟩ : TaskEventLog K).terminalEventType ≠
      none := by
    rw [Ne, terminalEventType_eq_none]
    intro isOpen
    have notTerminal := isOpen event (by simp)
    rw [terminal] at notTerminal
    cases notTerminal
  exact followProbe_closed terminal closed task

/-- A demo raises if an event behind that of the probe has no time. -/
theorem raises_of_late (goesOn : event.eventType.isTerminal = false)
    (late : ¬demo.stamp.InTime (event.sequence + (demo.steps event.eventType).length + 1)) :
    ∃ exception, runPhysicalDemo demo = .error exception := by
  obtain ⟨task, log, isRun, recording⟩ :=
    runPhysicalDemo_eq enabled hasTask hasObject early probed
  obtain ⟨longer, appended, longerRecording⟩ := recording.append owned (by omega) goesOn
  rw [isRun, appended]
  exact followProbe_late longerRecording hasTask (by omega) late task

/-- A demo ends as the operator confirmed, exactly if the event of the probe is not terminal and
the last event behind it has a time. -/
theorem endsAsConfirmed_iff :
    demo.EndsAsConfirmed event.eventType ↔ event.eventType.isTerminal = false ∧
      demo.stamp.InTime (event.sequence + (demo.steps event.eventType).length + 1) := by
  constructor
  · rintro ⟨ended, questions, ran, _⟩
    have goesOn : event.eventType.isTerminal = false := by
      by_contra terminal
      rw [Bool.not_eq_false] at terminal
      obtain ⟨exception, raised⟩ :=
        raises_of_terminal enabled hasTask hasObject early probed owned later terminal
      cases raised.symm.trans ran
    refine ⟨goesOn, ?_⟩
    by_contra late
    obtain ⟨exception, raised⟩ :=
      raises_of_late enabled hasTask hasObject early probed owned later goesOn late
    cases raised.symm.trans ran
  · rintro ⟨goesOn, inTime⟩
    obtain ⟨task, log, isRun, recording⟩ :=
      runPhysicalDemo_eq enabled hasTask hasObject early probed
    obtain ⟨longer, appended, longerRecording⟩ := recording.append owned (by omega) goesOn
    obtain ⟨ended, questions, final, followed, finished, notFound, verdict⟩ :=
      followProbe_ok longerRecording hasTask (by omega) inTime task
    have ran : runPhysicalDemo demo = .ok (ended, questions) := by
      rw [isRun, appended]
      exact followed
    have last : ended.types.getLast? = some final.eventType := by
      rw [finished.types_eq, List.getLast?_concat]
    refine ⟨ended, questions, ran, finished.validates, finished.endsTerminal, ?_⟩
    rw [last]
    rcases verdict with ⟨succeeds, completed, asked⟩ | ⟨failing, failed⟩
    · exact ⟨iff_of_true (congrArg some completed) succeeds, fun _ => asked,
        fun fails => absurd succeeds fails, notFound⟩
    · refine ⟨iff_of_false ?_ failing, fun succeeds => absurd succeeds failing, fun _ => ?_,
        notFound⟩
      · rw [failed]
        nofun
      · rw [finished.types_eq, failed]

end Outcome

/-! ## A probe that ends the task -/

/-- An event of a probe. -/
def probeEvent (eventType : EventType) : EventEnvelope ℚ where
  eventId := py "physical-task-001-probe"
  taskId := py "physical-task-001"
  correlationId := py "physical-task-001-physical-demo"
  sequence := 7
  eventType
  occurredAt := utcTime 2026 7 4 12
  source := py "valera.live_camera_probe"
  mode := .realVision
  payload := [(py "object_id", literal "VALERA-CUBE-001")]
  hasStrings := by
    change ∀ field ∈
      [("event_id", py "physical-task-001-probe"), ("task_id", py "physical-task-001"),
      ("correlation_id", py "physical-task-001-physical-demo"),
      ("source", py "valera.live_camera_probe"), ("schema_version", schemaVersion)], field.2 ≠ []
    decide
  positive := by decide
  enabled := realVision_enabled
  aware := nofun

/-- A demo whose probe returns that event, and whose operator confirms all steps. -/
def probeDemo (eventType : EventType) : PhysicalDemo ℚ where
  taskId := py "physical-task-001"
  objectId := py "VALERA-CUBE-001"
  cameraIndex := 0
  enableLiveCamera := true
  outputRoot := py "."
  confirmationProvider _ := true
  correlationId := none
  runStartedAt := some (utcTime 2026 7 4 12)
  liveProbeRunner _ := .ok (probeEvent eventType)
  now := utcTime 2026 7 4 12

theorem early_probeDemo (eventType : EventType) :
    (probeDemo eventType).startTime.clock + 60 * 1000000 ≤ datetimeMax := by
  change (utcTime 2026 7 4 12).clock + 60 * 1000000 ≤ datetimeMax
  decide

theorem probes_probeDemo (eventType : EventType) :
    (probeDemo eventType).Probes (probeEvent eventType) := by
  obtain ⟨occurredAt, isTime⟩ := @DateTime.addSeconds_ok (probeDemo eventType).stamp.timestampBase 6
    (by decide) (inTime_stamp (early_probeDemo eventType) (by decide : (7 : ℤ) ≤ 61))
  exact ⟨occurredAt, isTime, rfl⟩

theorem endsAsConfirmed_iff_probeDemo :
    (probeDemo .objectFound).EndsAsConfirmed .objectFound ↔
      EventType.objectFound.isTerminal = false ∧ (probeDemo .objectFound).stamp.InTime
        (7 + ((probeDemo .objectFound).steps .objectFound).length + 1) :=
  endsAsConfirmed_iff rfl (List.cons_ne_nil _ _) (List.cons_ne_nil _ _)
    (early_probeDemo .objectFound) (probes_probeDemo .objectFound) rfl le_rfl

/-- Behind a probe that completes the task, the demo raises. -/
theorem not_always_endsAsConfirmed :
    ¬∀ (demo : PhysicalDemo ℚ) (event : EventEnvelope ℚ), demo.enableLiveCamera = true →
      demo.taskId ≠ [] → demo.objectId ≠ [] →
      demo.startTime.clock + 60 * 1000000 ≤ datetimeMax → demo.Probes event →
      event.taskId = demo.taskId → 7 ≤ event.sequence →
      demo.EndsAsConfirmed event.eventType := by
  intro always
  have hasTask : (probeDemo .taskCompleted).taskId ≠ [] := List.cons_ne_nil _ _
  have hasObject : (probeDemo .taskCompleted).objectId ≠ [] := List.cons_ne_nil _ _
  have early := early_probeDemo .taskCompleted
  have probed := probes_probeDemo .taskCompleted
  obtain ⟨log, questions, ran, _⟩ :=
    always _ _ rfl hasTask hasObject early probed rfl le_rfl
  obtain ⟨exception, raised⟩ :=
    raises_of_terminal rfl hasTask hasObject early probed rfl le_rfl rfl
  cases raised.symm.trans ran

end PhysicalDemo

end Robot

end ValeraControlTower

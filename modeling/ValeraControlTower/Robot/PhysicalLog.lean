import ValeraControlTower.Robot.DetectionEvent
import ValeraControlTower.Robot.PhysicalOutcome
import ValeraControlTower.Robot.PlainTexts

/-!
# The log of a physical demo

A demo that returns has numbered its events from one on, with the event of the probe among them,
and has given each of its own the time of its number.
-/

namespace ValeraControlTower

open Unicode

namespace Robot

open TaskEventLog

variable {K : Type}

/-! ## The events of a demo -/

/-- An event that a demo makes under a number. -/
inductive Own (stamp : MissionStamp) (task : Task) (sequence : ℤ) (event : EventEnvelope K) : Prop
    where
  | step (eventType : EventType)
      (made : numberedEvent stamp sequence eventType (physicalPayload task eventType) = .ok event)
  | failure (error : EventError) (plain : PlainText error.message)
      (made : numberedEvent stamp sequence .taskFailed (failedPayload task error.message)
        (some error) = .ok event)

/-- Events that are numbered from one on. -/
inductive Chronicle (stamp : MissionStamp) (task : Task) (probe : EventEnvelope K) :
    List (EventEnvelope K) → Prop
  | nil : Chronicle stamp task probe []
  | own {events : List (EventEnvelope K)} {event : EventEnvelope K}
      (earlier : Chronicle stamp task probe events)
      (own : Own stamp task (events.length + 1) event) :
      Chronicle stamp task probe (events ++ [event])
  | probe {events : List (EventEnvelope K)} (earlier : Chronicle stamp task probe events)
      (numbered : probe.sequence = events.length + 1) :
      Chronicle stamp task probe (events ++ [probe])

variable {stamp : MissionStamp} {task : Task} {sequence : ℤ} {event probe : EventEnvelope K}
  {events : List (EventEnvelope K)} {log longer : TaskEventLog K} {eventType : EventType}
  {payload : PyPairs K} {error : Option EventError}

theorem fields_of_numberedEvent
    (made : numberedEvent stamp sequence eventType payload error = .ok event) :
    ∃ number occurredAt, paddedNumber sequence = .ok number ∧
      stamp.timestampBase.addSeconds (sequence - 1) = .ok occurredAt ∧
      event.toEventFields = {
        eventId := stamp.correlationId ++ py "-" ++ number
        taskId := stamp.taskId
        correlationId := stamp.correlationId
        sequence
        eventType
        occurredAt := occurredAt.orUtc
        source := stamp.source
        mode := stamp.mode
        payload
        error } := by
  obtain ⟨number, isNumber, made⟩ := bind_eq_ok made
  obtain ⟨occurredAt, isTime, made⟩ := bind_eq_ok made
  exact ⟨number, occurredAt, isNumber, isTime, EventEnvelope.fields_of_new made⟩

theorem Own.numbered (own : Own stamp task sequence event) : event.sequence = sequence := by
  cases own with
  | step eventType made =>
      obtain ⟨_, _, _, _, fields⟩ := fields_of_numberedEvent made
      rw [fields]
  | failure error plain made =>
      obtain ⟨_, _, _, _, fields⟩ := fields_of_numberedEvent made
      rw [fields]

/-- The time of a number. -/
def Timely (stamp : MissionStamp) (event : EventEnvelope K) : Prop :=
  ∃ occurredAt, stamp.timestampBase.addSeconds (event.sequence - 1) = .ok occurredAt ∧
    event.occurredAt = occurredAt.orUtc

theorem Own.timely (own : Own stamp task sequence event) : Timely stamp event := by
  unfold Timely
  rw [own.numbered]
  cases own with
  | step eventType made =>
      obtain ⟨_, occurredAt, _, isTime, fields⟩ := fields_of_numberedEvent made
      exact ⟨occurredAt, isTime, by rw [fields]⟩
  | failure error plain made =>
      obtain ⟨_, occurredAt, _, isTime, fields⟩ := fields_of_numberedEvent made
      exact ⟨occurredAt, isTime, by rw [fields]⟩

namespace Chronicle

theorem numbered (chronicle : Chronicle stamp task probe events) :
    events.map (·.sequence) = (List.range' 1 events.length).map Int.ofNat := by
  induction chronicle with
  | nil => rfl
  | own earlier own inductionHypothesis =>
      rw [List.map_append, inductionHypothesis, List.length_append, List.length_singleton,
        List.range'_1_concat, List.map_append, List.map_singleton, List.map_singleton, own.numbered,
        add_comm]
      rfl
  | probe earlier numbered inductionHypothesis =>
      rw [List.map_append, inductionHypothesis, List.length_append, List.length_singleton,
        List.range'_1_concat, List.map_append, List.map_singleton, List.map_singleton, numbered,
        add_comm]
      rfl

theorem lastSequence (chronicle : Chronicle stamp task probe log.events) :
    log.lastSequence = log.events.length := by
  unfold TaskEventLog.lastSequence
  generalize log.events = events at chronicle
  cases chronicle with
  | nil => rfl
  | own earlier own =>
      rw [List.getLast?_concat]
      dsimp only
      rw [own.numbered, List.length_append]
      rfl
  | probe earlier numbered =>
      rw [List.getLast?_concat]
      dsimp only
      rw [numbered, List.length_append]
      rfl

/-- What holds of the probe and of every event of the demo's own. -/
theorem forall_mem {holds : EventEnvelope K → Prop} (chronicle : Chronicle stamp task probe events)
    (ofProbe : holds probe)
    (ofOwn : ∀ sequence event, Own stamp task sequence event → holds event) :
    ∀ event ∈ events, holds event := by
  induction chronicle with
  | nil => exact List.forall_mem_nil _
  | own earlier own inductionHypothesis =>
      have ofLast := ofOwn _ _ own
      exact List.forall_mem_append.mpr ⟨inductionHypothesis, List.forall_mem_singleton.mpr ofLast⟩
  | probe earlier numbered inductionHypothesis =>
      exact List.forall_mem_append.mpr ⟨inductionHypothesis, List.forall_mem_singleton.mpr ofProbe⟩

end Chronicle

/-! ## What is appended -/

/-- The log has grown by an event of the demo's own. -/
structure Grown (stamp : MissionStamp) (task : Task) (log longer : TaskEventLog K)
    (event : EventEnvelope K) : Prop where
  events : longer.events = log.events ++ [event]
  own : Own stamp task (log.lastSequence + 1) event
  wasOpen : ∀ earlier ∈ log.events, earlier.eventType.isTerminal = false

theorem Grown.chronicle (grown : Grown stamp task log longer event)
    (earlier : Chronicle stamp task probe log.events) :
    Chronicle stamp task probe longer.events := by
  have own := grown.own
  rw [earlier.lastSequence] at own
  rw [grown.events]
  exact earlier.own own

theorem Grown.types (grown : Grown stamp task log longer event) :
    longer.types = log.types ++ [event.eventType] := by
  rw [TaskEventLog.types, grown.events, List.map_append]
  rfl

/-- The log reports the first terminal event. -/
theorem terminalEventType_concat (isLog : longer.events = events ++ [event])
    (wasOpen : ∀ earlier ∈ events, earlier.eventType.isTerminal = false)
    (terminal : event.eventType.isTerminal = true) :
    longer.terminalEventType = some event.eventType := by
  have noneEarlier : events.find? (·.eventType.isTerminal) = none := by
    simpa using wasOpen
  rw [TaskEventLog.terminalEventType, isLog, List.find?_append, noneEarlier]
  simp [terminal]

theorem events_of_append (appended : log.append event = .ok longer) :
    longer.events = log.events ++ [event] ∧
      ∀ earlier ∈ log.events, earlier.eventType.isTerminal = false := by
  obtain ⟨follows, rfl⟩ := append_eq_ok.mp appended
  exact ⟨rfl, follows.isOpen⟩

theorem grown_of_appendPhysical (ran : appendPhysical stamp task log eventType = .ok longer) :
    ∃ event, Grown stamp task log longer event ∧ event.eventType = eventType := by
  obtain ⟨event, made, appended⟩ := bind_eq_ok ran
  obtain ⟨isLog, wasOpen⟩ := events_of_append appended
  obtain ⟨_, _, _, _, fields⟩ := fields_of_numberedEvent made
  exact ⟨event, ⟨isLog, .step eventType made, wasOpen⟩, by rw [fields]⟩

theorem grown_of_failPhysical {reason : PyStr} {code : FailureCode} (plain : PlainText reason)
    (ran : failPhysical stamp task log reason code = .ok longer) :
    ∃ event, Grown stamp task log longer event ∧ event.eventType = .taskFailed := by
  obtain ⟨error, isError, ran⟩ := bind_eq_ok ran
  obtain ⟨event, made, ran⟩ := bind_eq_ok ran
  obtain ⟨other, appended, ran⟩ := bind_eq_ok ran
  obtain ⟨_, _, ran⟩ := bind_eq_ok ran
  cases ran
  obtain rfl := (fields_of_errorNew isError).2
  obtain ⟨isLog, wasOpen⟩ := events_of_append appended
  obtain ⟨_, _, _, _, fields⟩ := fields_of_numberedEvent made
  exact ⟨event, ⟨isLog, .failure error plain made, wasOpen⟩, by rw [fields]⟩

/-! ## The loops -/

theorem chronicle_of_appendSearch {eventTypes : List EventType}
    (earlier : Chronicle stamp task probe log.events)
    (ran : appendSearch stamp task log eventTypes = .ok longer) :
    Chronicle stamp task probe longer.events ∧ longer.types = log.types ++ eventTypes := by
  induction eventTypes generalizing log with
  | nil =>
      cases ran
      exact ⟨earlier, (List.append_nil _).symm⟩
  | cons eventType eventTypes inductionHypothesis =>
      obtain ⟨middle, appended, ran⟩ := bind_eq_ok ran
      obtain ⟨event, grown, typed⟩ := grown_of_appendPhysical appended
      obtain ⟨chronicle, types⟩ := inductionHypothesis (grown.chronicle earlier) ran
      refine ⟨chronicle, ?_⟩
      rw [types, grown.types, typed, List.append_assoc]
      rfl

/-- How a log ends behind what was confirmed. -/
structure Concludes (stamp : MissionStamp) (task : Task) (log longer : TaskEventLog K)
    (types : List EventType) (completes : Prop) : Prop where
  chronicle : ∀ probe : EventEnvelope K, Chronicle stamp task probe log.events →
    Chronicle stamp task probe longer.events
  grows : log.events <+: longer.events
  ends : ∃ final, longer.types = log.types ++ types ++ [final] ∧
    longer.terminalEventType = some final ∧
    (completes ∧ final = .taskCompleted ∨ ¬completes ∧ final = .taskFailed)

theorem Grown.concludes (grown : Grown stamp task log longer event) {completes : Prop}
    (verdict : completes ∧ event.eventType = .taskCompleted ∨
      ¬completes ∧ event.eventType = .taskFailed) :
    Concludes stamp task log longer [] completes where
  chronicle _ earlier := grown.chronicle earlier
  grows := ⟨[event], grown.events.symm⟩
  ends := by
    refine ⟨event.eventType, ?_, ?_, verdict⟩
    · rw [grown.types, List.append_nil]
    · apply terminalEventType_concat grown.events grown.wasOpen
      rcases verdict with ⟨_, typed⟩ | ⟨_, typed⟩
      · rw [typed]
        rfl
      · rw [typed]
        rfl

theorem concludes_of_confirmSteps {provider : ConfirmationProvider}
    {asked questions : List Question}
    {confirmations : List OperatorConfirmation}
    (plain : ∀ confirmation ∈ confirmations, PlainText confirmation.question.stepName)
    (ran : confirmSteps stamp task provider log asked confirmations = .ok (longer, questions)) :
    Concludes stamp task log longer
      ((confirmedSteps provider asked confirmations).map (·.eventType))
      (confirmedSteps provider asked confirmations = confirmations) := by
  induction confirmations generalizing log asked with
  | nil =>
      obtain ⟨other, appended, ran⟩ := bind_eq_ok ran
      obtain ⟨_, _, ran⟩ := bind_eq_ok ran
      cases ran
      obtain ⟨event, grown, typed⟩ := grown_of_appendPhysical appended
      exact grown.concludes (.inl ⟨rfl, typed⟩)
  | cons confirmation confirmations inductionHypothesis =>
      obtain ⟨isPlain, plain⟩ := List.forall_mem_cons.mp plain
      unfold confirmSteps at ran
      unfold confirmedSteps
      dsimp only at ran ⊢
      by_cases confirmed : provider (asked ++ [confirmation.question]) = true
      · rw [if_pos confirmed] at ran ⊢
        obtain ⟨middle, appended, ran⟩ := bind_eq_ok ran
        obtain ⟨event, grown, typed⟩ := grown_of_appendPhysical appended
        have rest := inductionHypothesis plain ran
        obtain ⟨final, types, terminal, verdict⟩ := rest.ends
        refine ⟨fun probe earlier => rest.chronicle probe (grown.chronicle earlier),
          List.IsPrefix.trans ⟨[event], grown.events.symm⟩ rest.grows, final, ?_, terminal, ?_⟩
        · rw [types, grown.types, typed]
          simp
        · rw [List.cons_inj_right]
          exact verdict
      · rw [if_neg confirmed] at ran ⊢
        obtain ⟨other, failed, ran⟩ := bind_eq_ok ran
        cases ran
        obtain ⟨event, grown, typed⟩ := grown_of_failPhysical (by simp [isPlain]) failed
        exact grown.concludes (.inr ⟨(List.cons_ne_nil _ _).symm, typed⟩)

/-! ## The run -/

namespace PhysicalDemo

variable {demo : PhysicalDemo K} {questions : List Question}

theorem concludes_of_followProbe {detected : EventType}
    (ran : followProbe demo task log detected = .ok (longer, questions)) :
    Concludes demo.stamp task log longer ((demo.steps detected).map (·.eventType))
      (demo.Succeeds detected) := by
  unfold followProbe at ran
  by_cases found : detected = .objectFound
  · have isSteps : demo.steps detected =
        confirmedSteps demo.confirmationProvider [] operatorConfirmations := if_pos found
    rw [if_neg (by rw [found]; nofun), if_neg (not_not.mpr found)] at ran
    rw [isSteps, Succeeds, isSteps, and_iff_right found]
    apply concludes_of_confirmSteps _ ran
    intro confirmation membership
    simp only [operatorConfirmations, List.mem_cons, List.not_mem_nil, or_false] at membership
    rcases membership with rfl | rfl | rfl | rfl | rfl <;> exact .py _
  · have isSteps : demo.steps detected = [] := if_neg found
    have failing : ¬demo.Succeeds detected := fun succeeds => found succeeds.1
    rw [isSteps]
    by_cases notFound : detected = .objectNotFound
    · rw [if_pos notFound] at ran
      obtain ⟨other, failed, ran⟩ := bind_eq_ok ran
      cases ran
      obtain ⟨event, grown, typed⟩ := grown_of_failPhysical (.py _) failed
      exact grown.concludes (.inr ⟨failing, typed⟩)
    · rw [if_neg notFound, if_pos found] at ran
      obtain ⟨other, failed, ran⟩ := bind_eq_ok ran
      cases ran
      obtain ⟨event, grown, typed⟩ := grown_of_failPhysical (by simp) failed
      exact grown.concludes (.inr ⟨failing, typed⟩)

/-- What a demo has logged when it returns. -/
structure Logged (demo : PhysicalDemo K) (task : Task) (probe : EventEnvelope K)
    (log : TaskEventLog K) : Prop where
  taskId : task.taskId = demo.taskId
  objectId : task.objectId = demo.objectId
  description : PlainText task.description
  probed : demo.Probes probe
  chronicle : probe.sequence = 7 → Chronicle demo.stamp task probe log.events
  seventh : log.events[6]? = some probe
  ends : ∃ final, log.types = physicalSearchTypes ++ [probe.eventType] ++
      (demo.steps probe.eventType).map (·.eventType) ++ [final] ∧
    log.terminalEventType = some final ∧
    (demo.Succeeds probe.eventType ∧ final = .taskCompleted ∨
      ¬demo.Succeeds probe.eventType ∧ final = .taskFailed)

theorem logged_of_run (ran : runPhysicalDemo demo = .ok (log, questions)) :
    ∃ task probe, Logged demo task probe log := by
  unfold runPhysicalDemo at ran
  by_cases disabled : demo.enableLiveCamera = false
  · rw [if_pos disabled] at ran
    cases ran
  · rw [if_neg disabled] at ran
    obtain ⟨task, isTask, ran⟩ := bind_eq_ok ran
    obtain ⟨searched, isSearched, ran⟩ := bind_eq_ok ran
    obtain ⟨occurredAt, isTime, ran⟩ := bind_eq_ok ran
    obtain ⟨probe, probed, ran⟩ := bind_eq_ok ran
    obtain ⟨middle, appended, ran⟩ := bind_eq_ok ran
    obtain ⟨taskId, objectId, description, _⟩ := fields_of_taskNew isTask
    have search (probe : EventEnvelope K) := @chronicle_of_appendSearch K demo.stamp task probe
      ⟨task.taskId, []⟩ searched physicalSearchTypes .nil isSearched
    obtain ⟨chronicle, types⟩ := search probe
    have count : searched.events.length = 6 := by
      have length := congrArg List.length types
      simpa [TaskEventLog.types, physicalSearchTypes] using length
    have last : searched.lastSequence = 6 := by
      rw [chronicle.lastSequence, count]
      rfl
    obtain ⟨isMiddle, _⟩ := events_of_append appended
    have rest := concludes_of_followProbe ran
    have isTypes : middle.types = physicalSearchTypes ++ [probe.eventType] := by
      rw [TaskEventLog.types, isMiddle, List.map_append]
      exact congrArg (· ++ _) types
    refine ⟨task, probe, taskId, objectId, ?_, ?_, ?_, ?_, ?_⟩
    · rw [description]
      exact .py _
    · rw [last] at isTime probed
      exact ⟨occurredAt, isTime, probed⟩
    · intro seventh
      apply rest.chronicle
      rw [isMiddle]
      apply chronicle.probe
      rw [seventh, count]
      rfl
    · obtain ⟨others, isLonger⟩ := rest.grows
      rw [← isLonger, isMiddle, List.append_assoc, List.getElem?_append_right (by omega), count]
      rfl
    · rw [← isTypes]
      exact rest.ends

end PhysicalDemo

end Robot

end ValeraControlTower

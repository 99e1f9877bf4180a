import ValeraControlTower.Robot.MissionLog
import ValeraControlTower.Robot.Payloads

/-!
# `robot/sim_executor.py`

A simulated mission has no failures: its log is the approved sequence.
-/

namespace ValeraControlTower

namespace Robot

variable {K : Type}

/-- `APPROVED_SUCCESS_EVENT_SEQUENCE`. -/
def approvedSuccessEventSequence : List EventType :=
  [.taskCreated, .planCreated, .taskAccepted, .routeStarted, .routeArrived, .objectSearchStarted,
    .objectFound, .graspStarted, .objectGrasped, .deliveryStarted, .routeArrived,
    .objectReleased, .deliveryCompleted, .taskCompleted]

/-- `SIMULATION_TIMESTAMP_BASE`. -/
def simulationTimestampBase : DateTime := utcTime 2026 7 2 12

/-- `SIMULATION_SOURCE`. -/
def simulationSource : PyStr := py "valera.sim_executor"

/-- `_arrival_target`. -/
def arrivalTarget (task : Task) (sequence : ℤ) : Zone :=
  if sequence < 10 then task.pickupZone else task.deliveryZone

/-- `_payload_for_event`. -/
def simulationPayload (task : Task) (eventType : EventType) (sequence : ℤ) : PyPairs K :=
  match eventType with
  | .taskCreated => statusPayload task "created" none
  | .planCreated => planPayload task
  | .taskAccepted => statusPayload task "accepted" none
  | .routeStarted => statusPayload task "in_transit" (some task.pickupZone)
  | .routeArrived => statusPayload task "arrived" (some (arrivalTarget task sequence))
  | .objectSearchStarted => statusPayload task "searching" (some task.pickupZone)
  | .objectFound => statusPayload task "found" (some task.pickupZone)
  | .graspStarted => statusPayload task "grasping" (some task.pickupZone)
  | .objectGrasped => statusPayload task "secured" (some task.pickupZone)
  | .deliveryStarted => statusPayload task "delivering" (some task.deliveryZone)
  | .objectReleased => statusPayload task "released" (some task.deliveryZone)
  | .deliveryCompleted => statusPayload task "delivered" (some task.deliveryZone)
  | .taskCompleted => statusPayload task "completed" (some task.deliveryZone)
  | _ => statusPayload task "simulated" none

/-- What the events of a simulation have in common. -/
def simulationStamp (task : Task) : MissionStamp where
  timestampBase := simulationTimestampBase
  source := simulationSource
  mode := .simulation
  taskId := task.taskId
  correlationId := task.taskId ++ py "-simulation-mission"

/-- The loop of `run_simulated_mission`. -/
def appendSimulated (task : Task) (eventLog : TaskEventLog K) (sequence : ℤ) :
    List EventType → Except Exception (TaskEventLog K)
  | [] => .ok eventLog
  | eventType :: eventTypes => do
      let event ← numberedEvent (simulationStamp task) sequence eventType
        (simulationPayload task eventType sequence)
      let eventLog ← eventLog.append event
      appendSimulated task eventLog (sequence + 1) eventTypes

/-- `run_simulated_mission`. -/
def runSimulatedMission (task : Task) : Except Exception (TaskEventLog K) := do
  if task.mode ≠ .simulation then
    let code := if task.mode = .hardware then .hardwareModeNotEnabled else .invalidTask
    throw (.validationError (py "simulator only accepts simulation mode tasks") code)
  let eventLog ← appendSimulated task ⟨task.taskId, []⟩ 1 approvedSuccessEventSequence
  eventLog.validate
  return eventLog

/-! ## The log of a simulation -/

section Runs

open TaskEventLog

variable {task : Task} {log : TaskEventLog K} {types : List EventType}

theorem fits_simulationStamp (task : Task) : (simulationStamp task).Fits where
  hasSource := by
    change simulationSource ≠ []
    decide
  enabled := nofun
  hasTaskId := task.hasTaskId
  hasCorrelationId := by simp [simulationStamp, task.hasTaskId]

theorem inTime_simulationStamp {sequence : ℤ} (early : sequence ≤ 86400) :
    (simulationStamp task).InTime sequence := by
  have start : simulationTimestampBase.clock + 86400 * 1000000 ≤ datetimeMax := by decide
  change simulationTimestampBase.clock + _ ≤ _
  omega

theorem appendSimulated_append (first second : List EventType) (sequence : ℤ) :
    appendSimulated task log sequence (first ++ second) =
      appendSimulated task log sequence first >>= fun log =>
        appendSimulated task log (sequence + first.length) second := by
  induction first generalizing log sequence with
  | nil => simp [appendSimulated, bind, Except.bind]
  | cons eventType first inductionHypothesis =>
      simp only [List.cons_append, appendSimulated, bind, Except.bind]
      cases numberedEvent (simulationStamp task) sequence eventType
        (simulationPayload task eventType sequence) with
      | error exception => rfl
      | ok event =>
          dsimp only
          cases log.append event with
          | error exception => rfl
          | ok longer =>
              have count : sequence + ((eventType :: first).length : ℤ) =
                  sequence + 1 + (first.length : ℤ) := by
                rw [List.length_cons]
                omega
              rw [count]
              exact inductionHypothesis (sequence + 1)

/-- An event of a simulation and its place among the types. -/
def Placed (task : Task) (types : List EventType) (event : EventEnvelope K) : Prop :=
  event.correlationId = (simulationStamp task).correlationId ∧
    ∃ index : ℕ, types[index]? = some event.eventType ∧ event.sequence = index + 1

theorem Placed.weaken {event : EventEnvelope K} (placed : Placed task types event)
    (later : List EventType) : Placed task (types ++ later) event := by
  obtain ⟨correlated, index, typed, numbered⟩ := placed
  have inside := (List.getElem?_eq_some_iff.mp typed).1
  exact ⟨correlated, index, (List.getElem?_append_left inside).trans typed, numbered⟩

theorem placed_of_makes {event : EventEnvelope K} {eventType : EventType}
    {error : Option EventError}
    (makes : Makes (simulationStamp task) (types.length + 1) eventType error event) :
    Placed task (types ++ [eventType]) event := by
  refine ⟨makes.correlated, types.length, ?_, makes.numbered⟩
  rw [makes.typed, List.getElem?_concat_length]

/-- The places stay when an event is appended. -/
theorem placed_concat {longer : TaskEventLog K} {event : EventEnvelope K} {eventType : EventType}
    {error : Option EventError} (placed : ∀ event ∈ log.events, Placed task types event)
    (appended : log.append event = .ok longer)
    (makes : Makes (simulationStamp task) (types.length + 1) eventType error event) :
    ∀ event ∈ longer.events, Placed task (types ++ [eventType]) event := by
  rw [(append_eq_ok.mp appended).2]
  intro other membership
  rcases List.mem_append.mp membership with earlier | isLast
  · exact (placed other earlier).weaken [eventType]
  · rw [List.mem_singleton.mp isLast]
    exact placed_of_makes makes

/-- The events of a simulation are appended. -/
theorem appendSimulated_ok (eventTypes : List EventType)
    (recording : Recording log task.taskId types types.length)
    (placed : ∀ event ∈ log.events, Placed task types event)
    (short : types.length + eventTypes.length < 86400)
    (goOn : ∀ eventType ∈ eventTypes, eventType.isTerminal = false) :
    ∃ longer, appendSimulated task log (types.length + 1) eventTypes = .ok longer ∧
      Recording longer task.taskId (types ++ eventTypes) (types ++ eventTypes).length ∧
      ∀ event ∈ longer.events, Placed task (types ++ eventTypes) event := by
  induction eventTypes generalizing log types with
  | nil => exact ⟨log, rfl, by simpa using recording, by simpa using placed⟩
  | cons eventType eventTypes inductionHypothesis =>
      rw [List.length_cons] at short
      obtain ⟨event, next, made, appended, nextRecording, makes⟩ :=
        @Recording.next K (simulationStamp task) eventType _ _ _ recording
          (fits_simulationStamp task)
          (by omega) (inTime_simulationStamp (by omega)) (goOn eventType List.mem_cons_self)
          (simulationPayload task eventType (types.length + 1)) none
      have counted : ((types ++ [eventType]).length : ℤ) = types.length + 1 := by simp
      rw [← counted] at nextRecording
      obtain ⟨longer, rest, longerRecording, longerPlaced⟩ := inductionHypothesis nextRecording
        (placed_concat placed appended makes)
        (by rw [List.length_append, List.length_singleton]; omega)
        fun other membership => goOn other (List.mem_cons_of_mem eventType membership)
      refine ⟨longer, ?_, by simpa using longerRecording, by simpa using longerPlaced⟩
      rw [appendSimulated, made]
      change (log.append event >>= fun _ => _) = _
      rw [appended]
      rw [counted] at rest
      exact rest

/-- The types of a simulation up to the last one. -/
def simulatedTypes : List EventType :=
  [.taskCreated, .planCreated, .taskAccepted, .routeStarted, .routeArrived, .objectSearchStarted,
    .objectFound, .graspStarted, .objectGrasped, .deliveryStarted, .routeArrived,
    .objectReleased, .deliveryCompleted]

theorem approvedSuccessEventSequence_eq :
    approvedSuccessEventSequence = simulatedTypes ++ [.taskCompleted] := rfl

/-- A simulated mission completes. -/
theorem runSimulatedMission_ok (simulation : task.mode = .simulation) :
    ∃ (log : TaskEventLog K) (final : EventEnvelope K), runSimulatedMission task = .ok log ∧
      log.taskId = task.taskId ∧ log.Finished simulatedTypes final ∧
      final.eventType = .taskCompleted ∧
      ∀ event ∈ log.events, Placed task approvedSuccessEventSequence event := by
  have empty : Recording (⟨task.taskId, []⟩ : TaskEventLog K) task.taskId []
      ([] : List EventType).length := .new task.taskId
  obtain ⟨simulated, ran, recording, placed⟩ :=
    appendSimulated_ok simulatedTypes empty (by simp) (by decide) (by decide)
  obtain ⟨final, log, made, appended, finished, makes⟩ :=
    @Recording.finishNext K (simulationStamp task) .taskCompleted _ _ _ recording
      (fits_simulationStamp task) (by omega) (inTime_simulationStamp (by decide)) rfl
      (simulationPayload task .taskCompleted 14) none
  refine ⟨log, final, ?_, ?_, finished, makes.typed, placed_concat placed appended makes⟩
  · unfold runSimulatedMission
    rw [if_neg (not_not.mpr simulation), approvedSuccessEventSequence_eq, appendSimulated_append]
    change appendSimulated task (⟨task.taskId, []⟩ : TaskEventLog K) 1 simulatedTypes = _ at ran
    rw [ran]
    change (numberedEvent (simulationStamp task) 14 .taskCompleted
      (simulationPayload task .taskCompleted 14) none >>= fun event =>
        simulated.append event >>= fun log => .ok log) >>= (fun log =>
          log.validate >>= fun _ => .ok log) = _
    change numberedEvent (simulationStamp task) 14 .taskCompleted
      (simulationPayload task .taskCompleted 14) none = _ at made
    rw [made]
    change (simulated.append final >>= fun log => .ok log) >>= (fun log =>
        log.validate >>= fun _ => .ok log) = _
    rw [appended]
    change (log.validate >>= fun _ => .ok log) = _
    rw [finished.validates]
    rfl
  · rw [(append_eq_ok.mp appended).2]
    exact recording.owner

end Runs

end Robot

end ValeraControlTower

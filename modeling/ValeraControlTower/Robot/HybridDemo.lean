import ValeraControlTower.Robot.SimExecutor
import ValeraControlTower.Robot.Vision

/-!
# `robot/hybrid_demo.py`

The event of a detection takes the place of the simulated one, and the simulated grasp and
delivery follow it, whatever was detected.
-/

namespace ValeraControlTower

namespace Robot

variable {Image K : Type} [Min K] [Max K] [Sub K] [One K]

/-! ## The mission -/

section Splice

omit [Min K] [Max K] [Sub K] [One K]

/-- The event of a hybrid log in the place of a simulated one. -/
def spliced (visionEvent event : EventEnvelope K) : EventEnvelope K :=
  if event.eventType = .objectFound then visionEvent else event

/-- The loop of `run_hybrid_fixture_mission`. -/
def appendHybrid (visionEvent : EventEnvelope K) (hybridLog : TaskEventLog K) :
    List (EventEnvelope K) → Except Exception (TaskEventLog K)
  | [] => .ok hybridLog
  | event :: events => do
      let hybridLog ← hybridLog.append (spliced visionEvent event)
      appendHybrid visionEvent hybridLog events

end Splice

/-- `run_hybrid_fixture_mission`. -/
def runHybridFixtureMission (host : VisionHost Image K)
    (taskId objectId evidenceBasePath fixturePath : PyStr) :
    Except Exception (TaskEventLog K) := do
  let simulationTask ← Task.new taskId objectId .pickupZone .deliveryZone .simulation
    (py "Hybrid fixture mission with simulated movement and real vision")
  let simulatedLog ← runSimulatedMission simulationTask
  match simulatedLog.events.find? (·.eventType = .objectFound) with
  | none => throw .stopIteration
  | some objectFoundEvent =>
      let visionTask ← Task.new taskId objectId .pickupZone .deliveryZone .realVision
        (py "Hybrid fixture object detection")
      let visionEvent ← runFixtureDetection host [] visionTask fixturePath objectFoundEvent.sequence
        objectFoundEvent.correlationId evidenceBasePath (some objectFoundEvent.occurredAt)
      let hybridLog ← appendHybrid visionEvent ⟨taskId, []⟩ simulatedLog.events
      hybridLog.validate
      return hybridLog

/-! ## The spliced log -/

section Splice

omit [Min K] [Max K] [Sub K] [One K]

open TaskEventLog

variable {task : Task} {visionEvent event : EventEnvelope K} {log : TaskEventLog K}

/-- The types of a hybrid log. -/
def hybridTypes (visionType : EventType) : List EventType :=
  approvedSuccessEventSequence.map fun eventType =>
    if eventType = .objectFound then visionType else eventType

theorem eventType_spliced : (spliced visionEvent event).eventType =
    if event.eventType = .objectFound then visionEvent.eventType else event.eventType := by
  unfold spliced
  split <;> rfl

theorem appendHybrid_ok {events : List (EventEnvelope K)}
    (grows : AppendLog.Grows (AppendLog.Follows view log.taskId 0) log.events
      (events.map (spliced visionEvent))) :
    appendHybrid visionEvent log events =
      .ok { log with events := log.events ++ events.map (spliced visionEvent) } := by
  induction events generalizing log with
  | nil => simp [appendHybrid]
  | cons event events inductionHypothesis =>
      obtain ⟨follows, grows⟩ := grows
      unfold appendHybrid
      rw [append_ok follows]
      apply (inductionHypothesis grows).trans
      simp

/-- The seventh event of a simulation, and only that one, finds the object. -/
theorem Placed.sequence_eq (placed : Placed task approvedSuccessEventSequence event)
    (found : event.eventType = .objectFound) : event.sequence = 7 := by
  obtain ⟨_, index, typed, numbered⟩ := placed
  rw [found] at typed
  have inside := (List.getElem?_eq_some_iff.mp typed).1
  have only : ∀ other < approvedSuccessEventSequence.length,
      approvedSuccessEventSequence[other]? = some .objectFound → other = 6 := by decide
  rw [numbered, only index inside typed]
  rfl

/-- A detection of the same number takes the place of the simulated one. -/
theorem appendHybrid_simulated {simulated : TaskEventLog K} (ordered : simulated.Ordered)
    (owner : simulated.taskId = task.taskId)
    (recorded : simulated.types = approvedSuccessEventSequence)
    (placed : ∀ event ∈ simulated.events, Placed task approvedSuccessEventSequence event)
    (owned : visionEvent.taskId = task.taskId) (numbered : visionEvent.sequence = 7)
    (goesOn : visionEvent.eventType.isTerminal = false) :
    ∃ log, appendHybrid visionEvent ⟨task.taskId, []⟩ simulated.events = .ok log ∧
      log.validate = .ok () ∧ log.types = hybridTypes visionEvent.eventType := by
  have hybrid :
      (⟨task.taskId, simulated.events.map (spliced visionEvent)⟩ : TaskEventLog K).Ordered := by
    unfold TaskEventLog.Ordered
    rw [← owner]
    apply AppendLog.Ordered.map ordered
    · intro event membership
      change (spliced visionEvent event).taskId = event.taskId
      unfold spliced
      split
      · exact owned.trans (owner.symm.trans (ordered.owned event membership).symm)
      · rfl
    · intro event membership
      change (spliced visionEvent event).sequence = event.sequence
      unfold spliced
      split
      · next found => rw [numbered, (placed event membership).sequence_eq found]
      · rfl
    · intro event membership
      change (spliced visionEvent event).eventType.isTerminal = event.eventType.isTerminal
      unfold spliced
      split
      · next found => rw [goesOn, found]; rfl
      · rfl
  refine ⟨_, appendHybrid_ok (AppendLog.built_iff_ordered.mpr hybrid),
    validate_eq_ok.mpr hybrid, ?_⟩
  unfold hybridTypes
  rw [← recorded]
  simp [TaskEventLog.types, eventType_spliced]

end Splice

/-! ## How a hybrid mission ends -/

variable {host : VisionHost Image K} {taskId objectId evidenceBasePath fixturePath : PyStr}

/-- The correlation of a simulated mission. -/
def hybridCorrelation (taskId : PyStr) : PyStr := taskId ++ py "-simulation-mission"

/-- A hybrid mission is as good as its detection. -/
theorem runHybridFixtureMission_eq (host : VisionHost Image K) (hasTask : taskId ≠ [])
    (hasObject : objectId ≠ []) (evidenceBasePath fixturePath : PyStr) :
    ∃ (visionTask : Task) (occurredAt : DateTime) (simulated : List (EventEnvelope K)),
      visionTask.taskId = taskId ∧ visionTask.mode = .realVision ∧
      (runHybridFixtureMission host taskId objectId evidenceBasePath fixturePath =
        runFixtureDetection host [] visionTask fixturePath 7 (hybridCorrelation taskId)
          evidenceBasePath (some occurredAt) >>= fun visionEvent =>
            appendHybrid visionEvent ⟨taskId, []⟩ simulated >>= fun log =>
              log.validate >>= fun _ => .ok log) ∧
      ∀ visionEvent : EventEnvelope K, visionEvent.taskId = taskId → visionEvent.sequence = 7 →
        visionEvent.eventType.isTerminal = false →
          ∃ log, appendHybrid visionEvent ⟨taskId, []⟩ simulated = .ok log ∧
            log.validate = .ok () ∧ log.types = hybridTypes visionEvent.eventType := by
  let simulationTask : Task := {
    taskId, objectId
    pickupZone := .pickupZone
    deliveryZone := .deliveryZone
    mode := .simulation
    description := py "Hybrid fixture mission with simulated movement and real vision"
    hasTaskId := hasTask
    hasObjectId := hasObject
    enabled := by simp }
  let visionTask : Task := {
    taskId, objectId
    pickupZone := .pickupZone
    deliveryZone := .deliveryZone
    mode := .realVision
    description := py "Hybrid fixture object detection"
    hasTaskId := hasTask
    hasObjectId := hasObject
    enabled := realVision_enabled }
  have madeSimulation : Task.new taskId objectId .pickupZone .deliveryZone .simulation
      simulationTask.description = .ok simulationTask := simulationTask.new_self
  have madeVision : Task.new taskId objectId .pickupZone .deliveryZone .realVision
      visionTask.description = .ok visionTask := visionTask.new_self
  obtain ⟨simulated, final, ran, owner, finished, completed, placed⟩ :=
    @runSimulatedMission_ok K simulationTask rfl
  have recorded : simulated.types = approvedSuccessEventSequence := by
    rw [finished.types_eq, completed]
    rfl
  have hasFound : EventType.objectFound ∈ simulated.types := by
    rw [recorded]
    decide
  obtain ⟨event, membership, isFound⟩ := List.mem_map.mp hasFound
  cases search : simulated.events.find? (·.eventType = .objectFound) with
  | none => exact absurd (decide_eq_true isFound) (List.find?_eq_none.mp search event membership)
  | some objectFoundEvent =>
      have found := placed objectFoundEvent (List.mem_of_find?_eq_some search)
      have typed := List.find?_some search
      simp only [decide_eq_true_eq] at typed
      refine ⟨visionTask, objectFoundEvent.occurredAt, simulated.events, rfl, rfl, ?_, ?_⟩
      · have numbered := found.sequence_eq typed
        have correlated : objectFoundEvent.correlationId = hybridCorrelation taskId := found.1
        unfold runHybridFixtureMission
        change (Task.new taskId objectId .pickupZone .deliveryZone .simulation
          simulationTask.description >>= fun _ => _) = _
        rw [madeSimulation]
        change (runSimulatedMission simulationTask >>= fun _ => _) = _
        rw [ran]
        dsimp only [bind, Except.bind]
        rw [search]
        dsimp only
        rw [madeVision, numbered, correlated]
        rfl
      · exact fun visionEvent owned numbered goesOn => appendHybrid_simulated
          (TaskEventLog.validate_eq_ok.mp finished.validates) owner recorded placed owned
            numbered goesOn

/-! ## A hybrid mission completes only behind a detection -/

/-- An event of the grasp or the delivery, or the completion. -/
def EventType.needsObject : EventType → Bool
  | graspStarted | objectGrasped | graspFailed | deliveryStarted | objectReleased
  | deliveryCompleted | taskCompleted => true
  | _ => false

/-- The log that is returned is valid, it speaks of a grasp or a delivery only if the object
was found, and it ends with a failure if the image has no marker. -/
def CompletesOnlyFound (host : VisionHost Image K)
    (taskId objectId evidenceBasePath fixturePath : PyStr) : Prop :=
  ∀ log, runHybridFixtureMission host taskId objectId evidenceBasePath fixturePath = .ok log →
    log.validate = .ok () ∧
    ((∃ eventType ∈ log.types, eventType.needsObject = true) → .objectFound ∈ log.types) ∧
    (Unmarked host [] fixturePath → log.types.getLast? = some .taskFailed)

/-- The event id of the detection in a hybrid mission. -/
def hybridVisionId (taskId : PyStr) : PyStr := hybridCorrelation taskId ++ py "-007-vision"

theorem runHybridFixtureMission_ids {log : TaskEventLog K}
    (ran : runHybridFixtureMission host taskId objectId evidenceBasePath fixturePath = .ok log) :
    taskId ≠ [] ∧ objectId ≠ [] := by
  obtain ⟨task, made, _⟩ := bind_eq_ok ran
  unfold Task.new at made
  split at made
  · cases made
  · next hasTask =>
      split at made
      · cases made
      · next hasObject => exact ⟨hasTask, hasObject⟩

/-- The number of the detection in a hybrid mission. -/
theorem paddedNumber_seven : paddedNumber 7 = .ok (py "007") := by
  decide

theorem visionSource_ne_nil : visionSource ≠ [] := by
  decide

/-- If the detection finds nothing, the mission completes all the same. -/
theorem runHybridFixtureMission_notFound (hasTask : taskId ≠ []) (hasObject : objectId ≠ [])
    (nothing : FindsNothing host [] taskId fixturePath (hybridVisionId taskId) evidenceBasePath) :
    ∃ log, runHybridFixtureMission host taskId objectId evidenceBasePath fixturePath = .ok log ∧
      log.types = hybridTypes .objectNotFound := by
  obtain ⟨visionTask, occurredAt, simulated, rfl, realVision, isRun, splices⟩ :=
    runHybridFixtureMission_eq host hasTask hasObject evidenceBasePath fixturePath
  have hasCorrelation : hybridCorrelation visionTask.taskId ≠ [] := by
    simp [hybridCorrelation, hasTask]
  have isId : hybridCorrelation visionTask.taskId ++ py "-" ++ py "007" ++ py "-vision" =
      hybridVisionId visionTask.taskId := by
    unfold hybridVisionId
    rw [List.append_assoc, List.append_assoc]
    rfl
  rw [← isId] at nothing
  obtain ⟨visionEvent, detected, typed⟩ :=
    (runFixtureDetection_notFound_iff realVision paddedNumber_seven (by decide) hasCorrelation
      visionSource_ne_nil).mpr nothing
  have reported := runFixtureDetection_reports detected
  obtain ⟨log, appended, validates, recorded⟩ :=
    splices visionEvent reported.1 reported.2.1 (by rw [typed]; rfl)
  refine ⟨log, ?_, by rw [recorded, typed]⟩
  rw [isRun, detected]
  change (appendHybrid visionEvent _ simulated >>= fun log => log.validate >>= fun _ => .ok log) = _
  rw [appended]
  change (log.validate >>= fun _ => .ok log) = _
  rw [validates]
  rfl

/-- A log that is returned, and the event of its detection. -/
theorem runHybridFixtureMission_reports {log : TaskEventLog K}
    (ran : runHybridFixtureMission host taskId objectId evidenceBasePath fixturePath = .ok log) :
    log.validate = .ok () ∧
      (¬Unmarked host [] fixturePath ∧ log.types = hybridTypes .objectFound ∨
        FindsNothing host [] taskId fixturePath (hybridVisionId taskId) evidenceBasePath) := by
  obtain ⟨hasTask, hasObject⟩ := runHybridFixtureMission_ids ran
  obtain ⟨visionTask, occurredAt, simulated, rfl, realVision, isRun, splices⟩ :=
    runHybridFixtureMission_eq host hasTask hasObject evidenceBasePath fixturePath
  rw [isRun] at ran
  obtain ⟨visionEvent, detected, ran⟩ := bind_eq_ok ran
  obtain ⟨hybridLog, appended, ran⟩ := bind_eq_ok ran
  obtain ⟨_, validates, ran⟩ := bind_eq_ok ran
  cases ran
  refine ⟨validates, ?_⟩
  obtain ⟨owned, numbered, reports⟩ := runFixtureDetection_reports detected
  cases reports with
  | found marked typed =>
      obtain ⟨other, otherAppended, _, recorded⟩ :=
        splices visionEvent owned numbered (by rw [typed]; rfl)
      cases appended.symm.trans otherAppended
      rw [typed] at recorded
      exact .inl ⟨marked, recorded⟩
  | notFound unmarked typed =>
      have hasCorrelation : hybridCorrelation visionTask.taskId ≠ [] := by
        simp [hybridCorrelation, hasTask]
      have nothing := (runFixtureDetection_notFound_iff realVision paddedNumber_seven (by decide)
        hasCorrelation visionSource_ne_nil).mp ⟨visionEvent, detected, typed⟩
      unfold hybridVisionId
      rw [List.append_assoc, List.append_assoc] at nothing
      exact .inr nothing

/-- A hybrid mission completes only behind a detection, exactly if the detection is not one
that finds nothing. -/
theorem completesOnlyFound_iff (host : VisionHost Image K)
    (taskId objectId evidenceBasePath fixturePath : PyStr) :
    CompletesOnlyFound host taskId objectId evidenceBasePath fixturePath ↔
      ¬(taskId ≠ [] ∧ objectId ≠ [] ∧
        FindsNothing host [] taskId fixturePath (hybridVisionId taskId) evidenceBasePath) := by
  constructor
  · rintro completes ⟨hasTask, hasObject, nothing⟩
    obtain ⟨log, ran, recorded⟩ := runHybridFixtureMission_notFound hasTask hasObject nothing
    have onlyFound := (completes log ran).2.1
    rw [recorded] at onlyFound
    revert onlyFound
    decide
  · intro something log ran
    obtain ⟨validates, ⟨marked, recorded⟩ | nothing⟩ := runHybridFixtureMission_reports ran
    · refine ⟨validates, fun _ => ?_, fun unmarked => absurd unmarked marked⟩
      rw [recorded]
      decide
    · have ids := runHybridFixtureMission_ids ran
      exact absurd ⟨ids.1, ids.2, nothing⟩ something

/-! ## An image without a marker -/

/-- A host with one image, on which there is no marker. -/
def unmarkedHost : VisionHost Unit ℚ where
  hasOpenCv := true
  hasAruco := true
  isFile _ _ := .ok true
  imread _ _ := .ok (some ())
  detectMarkers _ := .ok ([], none)
  drawDetectedMarkers _ _ _ := .ok ()
  makeParent _ := .ok ()
  imwrite _ _ := .ok true
  sha256 _ _ := .ok (py "0")
  round value := .ok (round value)
  now := simulationTimestampBase

theorem findsNothing_unmarkedHost : FindsNothing unmarkedHost [] (py "hybrid-task-001")
    (py "fixture.png") (hybridVisionId (py "hybrid-task-001")) (py ".") where
  hasOpenCv := rfl
  hasAruco := rfl
  isFile := rfl
  inside := ⟨by decide, by decide⟩
  insideFile := ⟨by decide, by decide⟩
  unmarked := ⟨(), rfl, rfl, rfl, rfl, _, rfl⟩

/-- The object is grasped and delivered without having been found. -/
theorem not_always_completesOnlyFound :
    ¬∀ (host : VisionHost Unit ℚ) (taskId objectId evidenceBasePath fixturePath : PyStr),
      CompletesOnlyFound host taskId objectId evidenceBasePath fixturePath := by
  intro always
  have hasObject : py "cube" ≠ [] := by decide
  obtain ⟨log, ran, recorded⟩ :=
    runHybridFixtureMission_notFound (by decide) hasObject findsNothing_unmarkedHost
  have onlyFound := (always _ _ _ _ _ log ran).2.1
  rw [recorded] at onlyFound
  revert onlyFound
  decide

end Robot

end ValeraControlTower

import ValeraControlTower.Scripts.DemoReplay

/-!
# What a physical demo reports

The dashboard of a demo, its status and the exit code of the script agree with what the camera has
seen and the operator has confirmed.
-/

namespace ValeraControlTower

open Unicode Json LexicalPath Robot Traced Dashboard

namespace Scripts

namespace RunPhysicalDemo

variable {Image K : Type} [Min K] [Max K] [Sub K] [One K] {host : DemoHost Image K}
  {cameraIndex : ℤ} {event probe : EventEnvelope K} {log : TaskEventLog K}
  {questions : List Question}

/-! ## The probe -/

theorem detected_of_liveProbe {request : ProbeRequest}
    (probed : liveProbe host request = .ok event) :
    ∃ task, task.taskId = request.taskId ∧ task.objectId = request.objectId ∧
      ∃ frame, WroteFrame host.cameras host.vision [] request.cameraIndex liveCameraMode
          (framePath request.outputRoot) frame ∧
      ∃ image, host.vision.imread [(framePath request.outputRoot, frame)]
          (framePath request.outputRoot) = .ok (some image) ∧
        DetectedEvent host.vision [(framePath request.outputRoot, frame)] image task
          request.sequence
          (if request.correlationId = [] then task.taskId else request.correlationId)
          request.outputRoot Robot.liveCameraSource (py "live camera frame")
          (some request.occurredAt) event := by
  obtain ⟨_, frame, wrote, detected⟩ := runLiveCameraMarkerProbe_returned (Prod.ext probed rfl)
  obtain ⟨task, made, detected⟩ := bind_eq_ok detected
  obtain ⟨isTask, isObject, _⟩ := fields_of_taskNew made
  exact ⟨task, isTask, isObject, frame, wrote, detected_of_run detected⟩

/-- The correlation id of the demo. -/
def correlationId : PyStr := taskId ++ py "-physical-demo"

/-- The frame of the camera is written to the file of the demo, and the image is what is then read
from the file. -/
def Took (host : DemoHost Image K) (cameraIndex : ℤ) (frame image : Image) : Prop :=
  WroteFrame host.cameras host.vision [] cameraIndex liveCameraMode (framePath host.projectRoot)
      frame ∧
    host.vision.imread [(framePath host.projectRoot, frame)] (framePath host.projectRoot) =
      .ok (some image)

/-- What the probe of the demo has detected. -/
def Probed (host : DemoHost Image K) (cameraIndex : ℤ) (probe : EventEnvelope K) : Prop :=
  ∃ task occurredAt, (demo host cameraIndex).stamp.timestampBase.addSeconds 6 = .ok occurredAt ∧
    task.taskId = taskId ∧ task.objectId = objectId ∧
    ∃ frame image, Took host cameraIndex frame image ∧
      DetectedEvent host.vision [(framePath host.projectRoot, frame)] image task 7 correlationId
        host.projectRoot Robot.liveCameraSource (py "live camera frame") (some occurredAt) probe

theorem probed_of_probes (probed : (demo host cameraIndex).Probes probe) :
    Probed host cameraIndex probe := by
  obtain ⟨occurredAt, isTime, probed⟩ := probed
  obtain ⟨task, isTask, isObject, frame, wrote, image, read, detected⟩ :=
    detected_of_liveProbe probed
  have named : (demo host cameraIndex).correlation ≠ [] := by
    change taskId ++ py "-physical-demo" ≠ []
    decide
  change DetectedEvent _ _ _ _ _ (if (demo host cameraIndex).correlation = [] then _ else _) _ _ _ _
    _ at detected
  rw [if_neg named] at detected
  exact ⟨task, occurredAt, isTime, isTask, isObject, frame, image, ⟨wrote, read⟩, detected⟩

theorem Probed.numbered (probed : Probed host cameraIndex probe) :
    probe.sequence = 7 ∧ probe.eventType ≠ .taskFailed := by
  obtain ⟨_, _, _, _, _, _, _, _, detected⟩ := probed
  cases detected with
  | found _ _ _ _ _ _ _ _ _ _ _ fields =>
      rw [fields]
      exact ⟨rfl, nofun⟩
  | notFound _ _ _ _ _ _ _ _ fields =>
      rw [fields]
      exact ⟨rfl, nofun⟩

/-- The frame that the camera gives, opened and set as the demo does it, has these markers. -/
def Sees (host : DemoHost Image K) (cameraIndex : ℤ) (detections : List MarkerDetection) : Prop :=
  ∃ frame, host.cameras.read (.opened cameraIndex :: configured liveCameraMode) =
      .ok (true, some frame) ∧ detectMarkers host.vision frame = .ok detections

/-- The camera shows a marker. -/
def SeesMarker (host : DemoHost Image K) (cameraIndex : ℤ) : Prop :=
  ∃ detection others, Sees host cameraIndex (detection :: others)

omit [One K] in
theorem Sees.unique {detections others : List MarkerDetection}
    (sees : Sees host cameraIndex detections) (again : Sees host cameraIndex others) :
    detections = others := by
  obtain ⟨frame, read, detected⟩ := sees
  obtain ⟨other, isOther, otherDetected⟩ := again
  cases read.symm.trans isOther
  exact Except.ok.inj (detected.symm.trans otherDetected)

omit [One K] in
/-- What is read from the file is the frame, if the file keeps it. -/
theorem Took.sees {frame image : Image} {detections : List MarkerDetection}
    (readsBack : ReadsBack host.cameras host.vision (framePath host.projectRoot))
    (took : Took host cameraIndex frame image)
    (detected : detectMarkers host.vision image = .ok detections) :
    Sees host cameraIndex detections := by
  obtain ⟨wrote, read⟩ := took
  cases read.symm.trans (readsBack _ frame wrote.read wrote.written)
  exact ⟨frame, wrote.read, detected⟩

theorem Probed.reports (probed : Probed host cameraIndex probe)
    (readsBack : ReadsBack host.cameras host.vision (framePath host.projectRoot)) :
    probe.eventType = .objectFound ↔ SeesMarker host cameraIndex := by
  obtain ⟨_, _, _, _, _, frame, image, took, detected⟩ := probed
  cases detected with
  | found detection others _ _ _ _ detected _ _ _ _ fields =>
      rw [fields]
      exact iff_of_true rfl ⟨detection, others, took.sees readsBack detected⟩
  | notFound _ _ _ unmarked _ _ _ _ fields =>
      rw [fields]
      refine iff_of_false nofun ?_
      intro marked
      obtain ⟨detection, others, sees⟩ := marked
      exact List.cons_ne_nil _ _ (sees.unique (took.sees readsBack unmarked))

/-! ## The log -/

section Log

variable (digests : PlainDigests host.vision)
  (one : FloatReturns host.interpreter.math (.float (.finite 1)))

include digests one in
theorem lasting_of_run (ran : runPhysicalDemo (demo host cameraIndex) = .ok (log, questions)) :
    ∀ event ∈ log.events, LastingEvent host.interpreter.math event.toEventFields := by
  obtain ⟨task, probe, logged⟩ := PhysicalDemo.logged_of_run ran
  have probed := probed_of_probes logged.probed
  refine @Chronicle.forall_mem K _ _ _ _ (fun event => LastingEvent host.interpreter.math
    event.toEventFields) (logged.chronicle probed.numbered.1) ?_ ?_
  · obtain ⟨task, occurredAt, _, isTask, isObject, _, _, _, detected⟩ := probed
    apply lasting_detected digests one _ _ _ _ _ detected
    · rw [isTask]
      exact .py _
    · rw [isObject]
      exact .py _
    · exact plainText_append.mpr ⟨.py _, .py _⟩
    · exact .py _
    · exact .py _
  · intro sequence event own
    apply lasting_own _ _ _ _ logged.description own
    · exact .py _
    · exact plainText_append.mpr ⟨.py _, .py _⟩
    · exact .py _
    · rw [logged.objectId]
      exact .py _

end Log

omit [Min K] [Max K] [Sub K] [One K] in
theorem not_saysCompleted_of_own {stamp : MissionStamp} {task : Task} {sequence : ℤ}
    (own : Own stamp task sequence event) (failed : event.eventType = .taskFailed) :
    ¬SaysCompleted event := by
  have differs : (literal "failed" : PyJson K) ≠ literal "completed" := by
    intro same
    have texts : py "failed" = py "completed" := Tree.str.inj same
    revert texts
    decide
  cases own with
  | step eventType made =>
      obtain ⟨_, _, _, _, fields⟩ := fields_of_numberedEvent made
      rw [fields] at failed
      cases failed
      have status : event.payload.lookup (py "status") = some (literal "task.failed") := by
        rw [fields]
        rfl
      intro completed
      have same := Option.some.inj (status.symm.trans completed)
      have texts : py "task.failed" = py "completed" := Tree.str.inj same
      revert texts
      decide
  | failure error plain made =>
      obtain ⟨_, _, _, _, fields⟩ := fields_of_numberedEvent made
      have status : event.payload.lookup (py "status") = some (literal "failed") := by
        rw [fields]
        rfl
      intro completed
      exact differs (Option.some.inj (status.symm.trans completed))

omit [Min K] [Max K] [Sub K] [One K] in
theorem last_of_types {types : List EventType} {final : EventType}
    (same : log.types = types ++ [final]) :
    ∃ last, log.events.getLast? = some last ∧ last.eventType = final := by
  have lastType := congrArg List.getLast? same
  rw [List.getLast?_concat, TaskEventLog.types, List.getLast?_map] at lastType
  exact Option.map_eq_some_iff.mp lastType

/-- The status on the dashboard of a demo is that of its log. -/
theorem status_of_run
    (readsBack : ReadsBack host.cameras host.vision (framePath host.projectRoot))
    (ran : runPhysicalDemo (demo host cameraIndex) = .ok (log, questions))
    {summary : DashboardSummary}
    (summarized : summarizeEvents host.interpreter (serialized log) = .ok summary) :
    (summary.finalStatus = py "completed" ∨ summary.finalStatus = py "failed") ∧
      (summary.finalStatus = py "completed" ↔ log.terminalEventType = some .taskCompleted) ∧
      (log.terminalEventType = some .taskCompleted ↔ SeesMarker host cameraIndex ∧
        confirmedSteps host.confirm [] operatorConfirmations = operatorConfirmations) := by
  obtain ⟨task, probe, logged⟩ := PhysicalDemo.logged_of_run ran
  have probed := probed_of_probes logged.probed
  obtain ⟨isSeventh, goesOn⟩ := probed.numbered
  have sees := probed.reports readsBack
  obtain ⟨final, types, terminal, verdict⟩ := logged.ends
  have succeeds : (demo host cameraIndex).Succeeds probe.eventType ↔ SeesMarker host cameraIndex ∧
      confirmedSteps host.confirm [] operatorConfirmations = operatorConfirmations := by
    rw [PhysicalDemo.succeeds_iff, sees]
    rfl
  obtain ⟨last, isLast, isFinal⟩ := last_of_types types
  obtain ⟨other, again, isStatus⟩ := summarizeEvents_serialized host.interpreter log
  cases again.symm.trans summarized
  rw [isLast] at isStatus
  rw [terminal, isStatus, Option.some_inj, ← succeeds]
  rcases verdict with ⟨succeeded, rfl⟩ | ⟨failing, rfl⟩
  · have completed : Dashboard.finalStatus last.toDict = py "completed" :=
      finalStatus_eq_completed.mpr (.inl isFinal)
    exact ⟨.inl completed, iff_of_true completed rfl, iff_of_true rfl succeeded⟩
  · have silent : last.eventType = .taskFailed → ¬SaysCompleted last :=
      (logged.chronicle isSeventh).forall_mem (fun failed => absurd failed goesOn)
        (fun _ _ own failed => not_saysCompleted_of_own own failed) last
        (List.mem_of_getLast? isLast)
    have failed : Dashboard.finalStatus last.toDict = py "failed" :=
      finalStatus_eq_failed isFinal (silent isFinal)
    have differ : EventType.taskFailed ≠ .taskCompleted := by decide
    refine ⟨.inr failed, iff_of_false ?_ differ, iff_of_false differ failing⟩
    intro completed
    have texts : py "failed" = py "completed" := failed.symm.trans completed
    revert texts
    decide

/-! ## The script -/

omit [Min K] [Max K] [Sub K] [One K] in
theorem eventsOf_replayEvents (log : TaskEventLog K) :
    eventsOf (replayEvents log) = .ok (serialized log) := by
  unfold eventsOf replayEvents serialized
  dsimp only
  induction log.events with
  | nil => rfl
  | cons event events inductionHypothesis =>
      rw [List.map_cons, dictionaries, inductionHypothesis]
      rfl

/-- Outcomes whose exceptions are put under another class return alike. -/
theorem mapError_eq_ok {Raised Error α : Type} {raise : Raised → Error} {outcome : Except Raised α}
    {value : α} : outcome.mapError raise = .ok value ↔ outcome = .ok value := by
  cases outcome with
  | ok other =>
      change Except.ok other = .ok value ↔ _
      rw [Except.ok.injEq, Except.ok.injEq]
  | error exception =>
      have raised : Except.mapError raise (.error exception : Except Raised α) ≠ .ok value := nofun
      have failed : (.error exception : Except Raised α) ≠ .ok value := nofun
      exact iff_of_false raised failed

/-- What the script has done when it returns with the camera enabled. -/
structure Ran (host : DemoHost Image K) (cameraIndex : ℤ) (log : TaskEventLog K)
    (questions : List Question) (replay html : PyStr) (summary : DashboardSummary)
    [Zero K] [DecidableEq K] : Prop where
  ran : runPhysicalDemo (demo host cameraIndex) = .ok (log, questions)
  written : writePhysicalDemoReplay host.interpreter host.room log = .ok replay
  loaded : ∃ value, loads host.interpreter.math host.stackLevels replay = .ok value ∧
    ∃ events, eventsOf value = .ok events ∧
      summarizeEvents host.interpreter events = .ok summary ∧
      renderHtml host.interpreter events summary
        (parse posix (runFile host.projectRoot taskId "dashboard.html")) = .ok html

variable [Zero K] [DecidableEq K] {output : Output} {enabled : Bool}

theorem ran_of_main (ran : main host enabled cameraIndex = .ok output) :
    (enabled = false ∧ output.exitCode = 2 ∧ output.replay = none ∧ output.dashboard = none) ∨
      ∃ log questions replay html summary, Ran host cameraIndex log questions replay html summary ∧
        enabled = true ∧
        output.exitCode = (if log.terminalEventType = some .taskCompleted then 0 else 1) ∧
        output.summary = some summary ∧ output.replay = some replay ∧
        output.dashboard = some html := by
  unfold main at ran
  by_cases disabled : enabled = false
  · rw [if_pos disabled] at ran
    cases ran
    exact .inl ⟨disabled, rfl, rfl, rfl⟩
  · rw [if_neg disabled] at ran
    obtain ⟨⟨log, questions⟩, isRun, ran⟩ := bind_eq_ok ran
    obtain ⟨_, _, ran⟩ := bind_eq_ok ran
    obtain ⟨replay, written, ran⟩ := bind_eq_ok ran
    obtain ⟨_, _, ran⟩ := bind_eq_ok ran
    obtain ⟨⟨summary, html⟩, rendered, ran⟩ := bind_eq_ok ran
    cases ran
    obtain ⟨value, isValue, rendered⟩ := bind_eq_ok rendered
    obtain ⟨events, isEvents, rendered⟩ := bind_eq_ok rendered
    obtain ⟨other, summarized, rendered⟩ := bind_eq_ok rendered
    obtain ⟨_, _, rendered⟩ := bind_eq_ok rendered
    obtain ⟨text, isText, rendered⟩ := bind_eq_ok rendered
    obtain ⟨_, _, rendered⟩ := bind_eq_ok rendered
    cases rendered
    refine .inr
      ⟨log, questions, replay, html, summary, ?_, Bool.not_eq_false _ ▸ disabled, rfl, rfl,
      rfl, rfl⟩
    exact {
      ran := mapError_eq_ok.mp isRun
      written := mapError_eq_ok.mp written
      loaded := ⟨value, mapError_eq_ok.mp isValue, events, mapError_eq_ok.mp isEvents,
        mapError_eq_ok.mp summarized, mapError_eq_ok.mp isText⟩ }

/-- The dashboard is rendered from the log itself. -/
theorem Ran.serialized {replay html : PyStr} {summary : DashboardSummary}
    (ran : Ran host cameraIndex log questions replay html summary)
    (digests : PlainDigests host.vision)
    (one : FloatReturns host.interpreter.math (.float (.finite 1))) :
    loads host.interpreter.math host.stackLevels replay = .ok (replayEvents log) ∧
      summarizeEvents host.interpreter (serialized log) = .ok summary ∧
      renderHtml host.interpreter (serialized log) summary
        (parse posix (runFile host.projectRoot taskId "dashboard.html")) = .ok html := by
  obtain ⟨value, isValue, events, isEvents, summarized, rendered⟩ := ran.loaded
  have loaded := loads_replayText ran.written (lasting_of_run digests one ran.ran) host.stackLevels
  rw [isValue] at loaded
  by_cases deep : host.stackLevels < (replayEvents log).nesting
  · rw [if_pos deep] at loaded
    cases loaded
  · rw [if_neg deep] at loaded
    cases loaded
    rw [eventsOf_replayEvents] at isEvents
    cases isEvents
    exact ⟨isValue, summarized, rendered⟩

/-- Whatever the camera, the operator and the file system do: when the script returns, its replay
is read back as the log of the demo, its dashboard is that of the log, and the status of the
dashboard and the exit code tell whether the camera showed a marker and every step was confirmed. -/
theorem reports_of_main (host : DemoHost Image K) (cameraIndex : ℤ) (enabled : Bool)
    (readsBack : ReadsBack host.cameras host.vision (framePath host.projectRoot))
    (digests : PlainDigests host.vision)
    (one : FloatReturns host.interpreter.math (.float (.finite 1)))
    (ran : main host enabled cameraIndex = .ok output) :
    (enabled = false ∧ output.exitCode = 2 ∧ output.replay = none ∧ output.dashboard = none) ∨
      ∃ log questions replay summary html,
        runPhysicalDemo (demo host cameraIndex) = .ok (log, questions) ∧
        output.replay = some replay ∧
        loads host.interpreter.math host.stackLevels replay = .ok (replayEvents log) ∧
        output.summary = some summary ∧
        summarizeEvents host.interpreter (serialized log) = .ok summary ∧
        output.dashboard = some html ∧
        renderHtml host.interpreter (serialized log) summary
          (parse posix (runFile host.projectRoot taskId "dashboard.html")) = .ok html ∧
        (output.exitCode = 0 ∧ summary.finalStatus = py "completed" ∧
            SeesMarker host cameraIndex ∧
            confirmedSteps host.confirm [] operatorConfirmations = operatorConfirmations ∨
          output.exitCode = 1 ∧ summary.finalStatus = py "failed" ∧
            ¬(SeesMarker host cameraIndex ∧
            confirmedSteps host.confirm [] operatorConfirmations = operatorConfirmations)) := by
  rcases ran_of_main ran with disabled | ⟨log, questions, replay, html, summary, isRun, _, isCode,
    isSummary, isReplay, isDashboard⟩
  · exact .inl disabled
  · obtain ⟨loaded, summarized, rendered⟩ := isRun.serialized digests one
    obtain ⟨either, agrees, reason⟩ := status_of_run readsBack isRun.ran summarized
    refine .inr ⟨log, questions, replay, summary, html, isRun.ran, isReplay, loaded, isSummary,
      summarized, isDashboard, rendered, ?_⟩
    by_cases completed : log.terminalEventType = some .taskCompleted
    · rw [if_pos completed] at isCode
      exact .inl ⟨isCode, agrees.mpr completed, reason.mp completed⟩
    · rw [if_neg completed] at isCode
      have notCompleted : summary.finalStatus ≠ py "completed" := mt agrees.mp completed
      exact .inr ⟨isCode, either.resolve_left notCompleted, mt reason.mpr completed⟩

/-- A camera that shows one marker, and an operator who confirms every step. -/
def markedHost : DemoHost Bool ℚ where
  projectRoot := py "/project"
  cameras := markedCameras
  vision := markedVision
  confirm _ := true
  now := markedVision.now
  interpreter := Host.ascii (py "/project")
  room := 10
  stackLevels := 10
  makeParent _ := .ok ()
  writeText _ _ := .ok ()

theorem exists_output_markedHost :
    ∃ output, main markedHost true 0 = .ok output ∧ output.exitCode = 0 := by
  have isCode : (main markedHost true 0).toOption.map Output.exitCode = some 0 := by
    decide +kernel
  cases outcome : main markedHost true 0 with
  | error exception =>
      rw [outcome] at isCode
      cases isCode
  | ok output =>
      rw [outcome] at isCode
      exact ⟨output, rfl, Option.some.inj isCode⟩

theorem plainDigests_marked : PlainDigests markedVision := by
  intro written path digest isDigest
  cases isDigest
  exact .ofChars _

theorem reports_of_main_marked :
    ∃ output log questions replay summary, main markedHost true 0 = .ok output ∧
      runPhysicalDemo (demo markedHost 0) = .ok (log, questions) ∧
      output.replay = some replay ∧ loads FloatMath.axis 10 replay = .ok (replayEvents log) ∧
      output.exitCode = 0 ∧ output.summary = some summary ∧
      summary.finalStatus = py "completed" ∧ SeesMarker markedHost 0 := by
  obtain ⟨output, ran, isCode⟩ := exists_output_markedHost
  rcases reports_of_main markedHost 0 true (readsBack_marked _) plainDigests_marked
    floatReturns_one ran with
    ⟨disabled, _⟩ |
      ⟨log, questions, replay, summary, _, isRun, isReplay, loaded, isSummary, _, _, _, ends⟩
  · cases disabled
  · rcases ends with ⟨_, isStatus, sees, _⟩ | ⟨failed, _⟩
    · exact ⟨output, log, questions, replay, summary, ran, isRun, isReplay, loaded, isCode,
        isSummary, isStatus, sees⟩
    · cases isCode.symm.trans failed

end RunPhysicalDemo

end Scripts

end ValeraControlTower

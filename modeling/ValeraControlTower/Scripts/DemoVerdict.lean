import ValeraControlTower.Dashboard.Shown
import ValeraControlTower.Scripts.CheckPassed
import ValeraControlTower.Scripts.DemoReports

/-!
# The verdict on a physical demo

What `check_physical_demo_output.py` says of the files that `run_physical_demo.py` has written.
-/

namespace ValeraControlTower

open Unicode Json LexicalPath Robot

namespace Scripts

namespace RunPhysicalDemo

/-! ## Evidence -/

section Evidence

/-- The path of an evidence file of the demo. -/
def evidenceOf (variant : String) : PyStr :=
  evidencePath taskId (correlationId ++ py "-" ++ py "007" ++ py "-vision" ++ py "-evidence")
    (py variant)

theorem paddedNumber_seven : paddedNumber 7 = .ok (py "007") := by
  rfl

example : evidenceOf "raw" = py ("data/evidence/physical-demo-001/" ++
    "physical-demo-001-physical-demo-007-vision-evidence-raw.png") := by
  decide

theorem right_evidenceOf {variant : String} (either : variant = "raw" ∨ variant = "annotated") :
    (parse posix (evidenceOf variant)).isAbsolute = false ∧
      py ".." ∉ (parse posix (evidenceOf variant)).parts ∧
      (parse posix (evidenceOf variant)).isRelativeTo (parse posix (py "data/evidence")) = true ∧
      suffixOf (parse posix (evidenceOf variant)) = py ".png" := by
  rcases either with rfl | rfl
  · decide +kernel
  · decide +kernel

theorem count_evidenceOf :
    ([evidenceOf "raw", evidenceOf "annotated"].filter fun path =>
        endswith (nameOf (parse posix path)) "-raw.png").length = 1 ∧
      ([evidenceOf "raw", evidenceOf "annotated"].filter fun path =>
        endswith (nameOf (parse posix path)) "-annotated.png").length = 1 := by
  decide +kernel

variable {Image K : Type} {host : VisionHost Image K} {written : List (PyStr × Image)}
  {eventId evidenceBasePath : PyStr}
  {image : Image} {ref : EvidenceRef} {variant : String}

theorem right_of_storedRef (either : variant = "raw" ∨ variant = "annotated")
    (stored : StoredRef host written taskId
      (correlationId ++ py "-" ++ py "007" ++ py "-vision" ++ py "-evidence") (py variant)
      Robot.liveCameraSource eventId evidenceBasePath image ref) :
    ref.relativePath = evidenceOf variant ∧ ref.mediaType = py "image/png" ∧
      RightRef (.obj ref.toDict : PyJson K) (evidenceOf variant) := by
  obtain ⟨digest, _, isRef⟩ := stored.isRef
  obtain ⟨isRelative, noParent, below, isPng⟩ := right_evidenceOf either
  rw [isRef]
  refine ⟨rfl, rfl, ?_⟩
  exact {
    isObject := ⟨_, rfl⟩
    sourceAdapter := Dashboard.isText_str.mpr rfl
    mediaType := Dashboard.isText_str.mpr rfl
    path := rfl
    isRelative, noParent, below, isPng }

end Evidence

variable {Image K : Type} [Min K] [Max K] [AddGroupWithOne K] {host : DemoHost Image K}
  {cameraIndex : ℤ} {probe : EventEnvelope K} {log : TaskEventLog K} {questions : List Question}

/-! ## The events -/

/-- The events of a log, as they are read back. -/
def readBack (log : TaskEventLog K) : List (PyJson K) :=
  log.events.map fun event => .obj event.toDict

/-- The types of a demo that went well. -/
def completedTypes : List EventType :=
  physicalSearchTypes ++ [.objectFound] ++ operatorConfirmations.map (·.eventType) ++
    [.taskCompleted]

omit [Min K] [Max K] [AddGroupWithOne K] in
theorem succeeds_of_completed {detected final : EventType} {demo : PhysicalDemo K}
    (terminal : log.terminalEventType = some final)
    (verdict : demo.Succeeds detected ∧ final = .taskCompleted ∨
      ¬demo.Succeeds detected ∧ final = .taskFailed)
    (completed : log.terminalEventType = some .taskCompleted) : demo.Succeeds detected := by
  rcases verdict with ⟨succeeded, _⟩ | ⟨_, failed⟩
  · exact succeeded
  · rw [terminal, failed] at completed
    cases completed

/-- The right events are those of a demo that has completed its task. -/
theorem rightEvents_iff [DecidableEq K]
    (ran : runPhysicalDemo (demo host cameraIndex) = .ok (log, questions)) :
    RightEvents (readBack log) ↔ log.terminalEventType = some .taskCompleted := by
  obtain ⟨task, probe, logged⟩ := PhysicalDemo.logged_of_run ran
  obtain ⟨isSeventh, _⟩ := (probed_of_probes logged.probed).numbered
  obtain ⟨final, types, terminal, verdict⟩ := logged.ends
  constructor
  · intro right
    obtain ⟨last, isLast, isFinal⟩ := last_of_types types
    have completed := right.last.2.1
    rw [readBack, List.getLast?_map, isLast] at completed
    have isCompleted := Dashboard.value_eq_completed.mp (Dashboard.isText_eventType.mp completed)
    rw [terminal, ← isFinal, isCompleted]
  · intro completed
    have succeeded := succeeds_of_completed terminal verdict completed
    rw [terminal, Option.some_inj] at completed
    have isFound := succeeded.1
    have allTypes : log.types = completedTypes := by
      rw [types, succeeded.2, isFound, completed]
      rfl
    have length : log.events.length = 13 := by
      rw [← @List.length_map _ _ _ fun event : EventEnvelope K => event.eventType]
      exact congrArg List.length allTypes
    have sequences := (logged.chronicle isSeventh).numbered
    rw [length] at sequences
    have texts : (readBack log).map (field "event_type") =
        log.types.map fun eventType => (.str eventType.value : PyJson K) := by
      rw [readBack, TaskEventLog.types, List.map_map, List.map_map]
      rfl
    have numbers : (readBack log).map (field "sequence") =
        (log.events.map (·.sequence)).map fun sequence => (.num (.int sequence) : PyJson K) := by
      rw [readBack, List.map_map, List.map_map]
      rfl
    refine ⟨?_, ?_, ?_, ?_⟩
    · rw [readBack, List.length_map, length]
      rfl
    · intro event membership
      obtain ⟨event, _, rfl⟩ := List.mem_map.mp membership
      exact ⟨_, rfl⟩
    · rw [numbers, sequences]
      rfl
    · rw [texts, allTypes]
      rfl

/-! ## The times -/

section Times

variable {check : CheckHost K} {start : DateTime}

/-- `datetime.fromisoformat` reads back what `isoformat` writes for the times of a demo. -/
def ReadsTimes (check : CheckHost K) (start : DateTime) : Prop :=
  ∀ seconds time, 0 ≤ seconds → seconds < 13 → start.addSeconds seconds = .ok time →
    check.fromisoformat time.orUtc.isoformat = some time.orUtc

theorem fields_of_addSeconds {value later : DateTime} {seconds : ℤ}
    (isLater : value.addSeconds seconds = .ok later) :
    later.clock = value.clock + seconds * 1000000 ∧ later.tzinfo = value.tzinfo := by
  unfold DateTime.addSeconds at isLater
  split_ifs at isLater
  cases isLater
  exact ⟨rfl, rfl⟩

theorem inOrder_of_addSeconds {first second : DateTime} {seconds more : ℤ}
    (isFirst : start.addSeconds seconds = .ok first) (isSecond : start.addSeconds more = .ok second)
    (later : seconds ≤ more) : InOrder first.orUtc second.orUtc := by
  obtain ⟨clock, zone⟩ := fields_of_addSeconds isFirst
  obtain ⟨clock', zone'⟩ := fields_of_addSeconds isSecond
  unfold InOrder isBefore DateTime.orUtc
  dsimp only
  rw [clock, clock', zone, zone', decide_eq_false]
  omega

omit [Min K] [Max K] [AddGroupWithOne K] in
theorem timeOf_toDict {stamp : MissionStamp} {event : EventEnvelope K}
    (reads : ReadsTimes check stamp.timestampBase) (timely : Timely stamp event)
    (least : 1 ≤ event.sequence) (most : event.sequence < 14) :
    timeOf check (.obj event.toDict) = some event.occurredAt := by
  obtain ⟨time, isTime, isOccurred⟩ := timely
  have isText : timeOf check (.obj event.toDict) =
      check.fromisoformat (replaceZ event.occurredAt.isoformat) := rfl
  rw [isText, replaceZ_isoformat, isOccurred]
  exact reads _ time (by omega) (by omega) isTime

omit [Min K] [Max K] [AddGroupWithOne K] in
/-- Times of numbered events are in order. -/
theorem allInOrder_of_timely {stamp : MissionStamp} {events : List (EventEnvelope K)} {least : ℕ}
    (numbered : events.map (·.sequence) = (List.range' least events.length).map Int.ofNat)
    (timely : ∀ event ∈ events, Timely stamp event) :
    AllInOrder (events.map fun event => some event.occurredAt) := by
  induction events generalizing least with
  | nil => exact .nil
  | cons first rest inductionHypothesis =>
      rw [List.length_cons, List.range'_succ, List.map_cons, List.map_cons] at numbered
      obtain ⟨isFirst, numbered⟩ := List.cons.inj numbered
      obtain ⟨firstTimely, timely⟩ := List.forall_mem_cons.mp timely
      have inOrder := inductionHypothesis numbered timely
      cases rest with
      | nil => exact .single _
      | cons second rest =>
          refine .cons ?_ inOrder
          rw [List.length_cons, List.range'_succ, List.map_cons, List.map_cons] at numbered
          have isSecond := (List.cons.inj numbered).1
          obtain ⟨time, isTime, isOccurred⟩ := firstTimely
          obtain ⟨time', isTime', isOccurred'⟩ := timely second List.mem_cons_self
          rw [isOccurred, isOccurred']
          refine inOrder_of_addSeconds isTime isTime' ?_
          rw [isFirst, isSecond]
          simp

end Times

omit [Max K] [Min K] in
theorem timely_of_run [Min K] [Max K]
    (ran : runPhysicalDemo (demo host cameraIndex) = .ok (log, questions)) :
    ∀ event ∈ log.events, Timely (demo host cameraIndex).stamp event := by
  obtain ⟨task, probe, logged⟩ := PhysicalDemo.logged_of_run ran
  have probed := probed_of_probes logged.probed
  have ofProbe : Timely (demo host cameraIndex).stamp probe := by
    obtain ⟨_, occurredAt, isTime, _, _, _, _, _, detected⟩ := probed
    cases detected with
    | found _ _ _ _ _ _ _ _ _ _ _ fields =>
        rw [Timely, fields]
        exact ⟨occurredAt, isTime, rfl⟩
    | notFound _ _ _ _ _ _ _ _ fields =>
        rw [Timely, fields]
        exact ⟨occurredAt, isTime, rfl⟩
  exact (logged.chronicle probed.numbered.1).forall_mem ofProbe fun _ _ own => own.timely

/-! ## The object that was found -/

/-- The first marker that is detected in the frame of the camera. -/
def FirstMarker (host : DemoHost Image K) (cameraIndex markerId : ℤ) : Prop :=
  ∃ detection others, Sees host cameraIndex (detection :: others) ∧ detection.markerId = markerId

/-- The evidence refs of the event of the probe, and when the event is right. -/
theorem find_of_probed [DecidableEq K] (probed : Probed host cameraIndex probe)
    (isFound : probe.eventType = .objectFound) :
    ∃ rawRef annotatedRef : EvidenceRef, probe.evidenceRefs = [rawRef, annotatedRef] ∧
      rawRef.relativePath = evidenceOf "raw" ∧ rawRef.mediaType = py "image/png" ∧
      RightRef (.obj rawRef.toDict : PyJson K) (evidenceOf "raw") ∧
      RightRef (.obj annotatedRef.toDict : PyJson K) (evidenceOf "annotated") ∧
      (ReadsBack host.cameras host.vision (framePath host.projectRoot) → ∀ expectedMarkerId,
        RightFind expectedMarkerId (.obj probe.toDict)
          [.obj rawRef.toDict, .obj annotatedRef.toDict] ↔
            FirstMarker host cameraIndex expectedMarkerId) := by
  obtain ⟨task, _, _, isTask, isObject, frame, image, took, detected⟩ := probed
  cases detected with
  | notFound _ _ _ _ _ _ _ _ fields =>
      rw [fields] at isFound
      cases isFound
  | found detection others _ number rawRef annotatedRef detected _ isNumber raw annotated fields =>
      cases paddedNumber_seven.symm.trans isNumber
      rw [isTask] at raw annotated
      obtain ⟨isPath, isPng, rightRaw⟩ := @right_of_storedRef Image K _ _ _ _ _ _ _ (.inl rfl) raw
      obtain ⟨_, _, rightAnnotated⟩ :=
        @right_of_storedRef Image K _ _ _ _ _ _ _ (.inr rfl) annotated
      refine ⟨rawRef, annotatedRef, by rw [fields], isPath, isPng, rightRaw, rightAnnotated, ?_⟩
      intro readsBack expectedMarkerId
      have sees := took.sees readsBack detected
      have isPayload : field "payload" (.obj probe.toDict : PyJson K) =
          .obj (detectionPayload task detection) := by
        change (.obj probe.payload : PyJson K) = _
        rw [fields]
      constructor
      · intro right
        have same := right.markerId
        rw [isPayload] at same
        exact ⟨detection, others, sees, of_decide_eq_true same⟩
      · intro first
        obtain ⟨marker, _, isMarker, isExpected⟩ := first
        cases sees.unique isMarker
        refine ⟨?_, ?_, ?_, ⟨_, isPayload⟩, ?_, ?_, ?_, ?_, ?_, rfl⟩
        · change Dashboard.isText (.str probe.eventType.value) _ = true
          rw [isFound]
          rfl
        · change Dashboard.isText (.str probe.source) _ = true
          rw [fields]
          rfl
        · change Dashboard.isText (.str probe.mode.value) _ = true
          rw [fields]
          rfl
        · rw [isPayload]
          exact Dashboard.isText_str.mpr isObject
        · rw [isPayload]
          exact decide_eq_true isExpected
        · rw [isPayload]
          exact decide_eq_true Int.cast_one.symm
        · rw [isPayload]
          rfl
        · change (.arr (probe.evidenceRefs.map fun ref => .obj ref.toDict) : PyJson K) = _
          rw [fields]
          rfl

omit [AddGroupWithOne K] in
theorem Probed.source [Sub K] [One K] (probed : Probed host cameraIndex probe) :
    probe.source = Robot.liveCameraSource := by
  obtain ⟨_, _, _, _, _, _, _, _, detected⟩ := probed
  cases detected with
  | found _ _ _ _ _ _ _ _ _ _ _ fields => rw [fields]
  | notFound _ _ _ _ _ _ _ _ fields => rw [fields]

/-! ## The replay -/

/-- The evidence files of the demo are there. -/
def EvidenceThere (host : DemoHost Image K) (check : CheckHost K) : Prop :=
  check.isFile (below host.projectRoot (evidenceOf "raw")) = some true ∧
    check.isFile (below host.projectRoot (evidenceOf "annotated")) = some true

/-- A replay passes if the demo has completed its task with the expected marker. -/
theorem passedReplay_iff [DecidableEq K] {check : CheckHost K} {expectedMarkerId : ℤ}
    (readsBack : ReadsBack host.cameras host.vision (framePath host.projectRoot))
    (ran : runPhysicalDemo (demo host cameraIndex) = .ok (log, questions))
    (reads : ReadsTimes check (demo host cameraIndex).stamp.timestampBase) :
    (∃ files, PassedReplay check host.projectRoot expectedMarkerId (readBack log) files) ↔
      log.terminalEventType = some .taskCompleted ∧
        FirstMarker host cameraIndex expectedMarkerId ∧ EvidenceThere host check := by
  obtain ⟨task, probe, logged⟩ := PhysicalDemo.logged_of_run ran
  have probed := probed_of_probes logged.probed
  obtain ⟨final, _, terminal, verdict⟩ := logged.ends
  -- The event of the probe is the one that the check looks at.
  have seventh : (readBack log)[6]?.getD .null = .obj probe.toDict := by
    rw [readBack, List.getElem?_map, logged.seventh]
    rfl
  have isFound (completed : log.terminalEventType = some .taskCompleted) :
      probe.eventType = .objectFound := (succeeds_of_completed terminal verdict completed).1
  constructor
  · intro passed
    obtain ⟨files, right, _, refs, find, validated⟩ := passed
    have completed := (rightEvents_iff ran).mp right
    obtain ⟨rawRef, annotatedRef, isRefs, _, _, rightRaw, rightAnnotated, finds⟩ :=
      find_of_probed probed (isFound completed)
    rw [seventh] at find
    have same : refs = [.obj rawRef.toDict, .obj annotatedRef.toDict] := by
      have isArr : (.arr (probe.evidenceRefs.map fun ref => .obj ref.toDict) : PyJson K) =
        .arr refs := find.evidenceRefs
      rw [isRefs] at isArr
      exact (Tree.arr.inj isArr).symm
    rw [same] at find validated
    refine ⟨completed, (finds readsBack _).mp find, ?_⟩
    exact (validateEvidenceRefs_pair rightRaw rightAnnotated count_evidenceOf.1
      count_evidenceOf.2).mp ⟨files, validated⟩
  · intro ends
    obtain ⟨completed, marker, there⟩ := ends
    obtain ⟨rawRef, annotatedRef, _, _, _, rightRaw, rightAnnotated, finds⟩ :=
      find_of_probed probed (isFound completed)
    obtain ⟨files, validated⟩ := (validateEvidenceRefs_pair rightRaw rightAnnotated
      count_evidenceOf.1 count_evidenceOf.2).mpr there
    have right := (rightEvents_iff ran).mpr completed
    refine ⟨files, right, ?_, [.obj rawRef.toDict, .obj annotatedRef.toDict], ?_, validated⟩
    · have numbered := (logged.chronicle probed.numbered.1).numbered
      have timely := timely_of_run ran
      have length : log.events.length = 13 := by
        rw [← @List.length_map _ _ log.events fun event => (.obj event.toDict : PyJson K)]
        exact right.length
      have times : (readBack log).map (timeOf check) =
          log.events.map fun event => some event.occurredAt := by
        rw [readBack, List.map_map]
        apply List.map_congr_left
        intro event membership
        have isNumber := List.mem_map_of_mem (f := (·.sequence)) membership
        rw [numbered, length] at isNumber
        obtain ⟨number, inRange, same⟩ := List.mem_map.mp isNumber
        rw [List.mem_range'_1] at inRange
        have isSequence : event.sequence = number := same.symm
        apply timeOf_toDict reads (timely event membership) <;> omega
      rw [times]
      exact allInOrder_of_timely numbered timely
    · rw [seventh]
      exact (finds readsBack _).mpr marker

/-! ## The dashboard -/

section Dashboard

open Dashboard

theorem isSafe_evidenceOf : isSafeEvidencePath (evidenceOf "raw") = true := by
  decide +kernel

/-- The dashboard of a demo that has completed its task has all that is looked for. -/
theorem texts_of_completed [DecidableEq K] {summary : DashboardSummary}
    {outputPath : Path CodePoint} {page : PyStr}
    (ran : runPhysicalDemo (demo host cameraIndex) = .ok (log, questions))
    (completed : log.terminalEventType = some .taskCompleted)
    (status : summary.finalStatus = py "completed")
    (rendered : renderHtml host.interpreter (serialized log) summary outputPath = .ok page) :
    ∀ text ∈ dashboardTexts, py text.1 <:+: page := by
  obtain ⟨task, probe, logged⟩ := PhysicalDemo.logged_of_run ran
  have probed := probed_of_probes logged.probed
  obtain ⟨final, types, terminal, verdict⟩ := logged.ends
  have isFound := (succeeds_of_completed terminal verdict completed).1
  obtain ⟨rawRef, annotatedRef, isRefs, isPath, isPng, _⟩ := find_of_probed probed isFound
  obtain ⟨last, isLast, isFinal⟩ := last_of_types types
  rw [terminal, Option.some_inj] at completed
  have probeIn : probe.toDict ∈ serialized log :=
    List.mem_map_of_mem (List.mem_of_getElem? logged.seventh)
  have lastIn : last.toDict ∈ serialized log := List.mem_map_of_mem (List.mem_of_getLast? isLast)
  have refIn : rawRef ∈ probe.evidenceRefs := by
    rw [isRefs]
    exact List.mem_cons_self
  have safe : isSafeEvidencePath rawRef.relativePath = true := by
    rw [isPath]
    exact isSafe_evidenceOf
  have found : py "object.found" <:+: escape probe.eventType.value := by
    rw [isFound]
    decide
  have source : py "valera.live_camera_probe" <:+: escape probe.source := by
    rw [probed.source]
    decide
  have ends : py "task.completed" <:+: escape last.eventType.value := by
    rw [isFinal, completed]
    decide
  have stated : py "completed" <:+: escape summary.finalStatus := by
    rw [status]
    decide
  simp only [dashboardTexts, List.forall_mem_cons]
  refine ⟨shows_label _ rendered, shows_finalStatus stated _ rendered,
    shows_row probeIn (shows_eventType found) _ rendered,
    shows_row probeIn (shows_source source) _ rendered,
    shows_row lastIn (shows_eventType ends) _ rendered,
    shows_details probeIn (shows_link refIn (shows_href safe)) _ rendered,
    shows_details probeIn (shows_link refIn (shows_img safe isPng)) _ rendered,
    shows_previewClass _ rendered, List.forall_mem_nil _⟩

end Dashboard

/-! ## The verdict -/

/-- The check passes what a demo has written exactly if the demo has exited with 0, the camera
showed the expected marker as the first one and the evidence files are there. -/
theorem verdict_of_main [DecidableEq K] (host : DemoHost Image K) (cameraIndex : ℤ)
    (enabled : Bool) (check : CheckHost K) (expectedMarkerId : ℤ) {output : Output}
    (readsBack : ReadsBack host.cameras host.vision (framePath host.projectRoot))
    (digests : PlainDigests host.vision)
    (one : FloatReturns host.interpreter.math (.float (.finite 1)))
    (math : check.math = host.interpreter.math) (room : host.stackLevels ≤ check.stackLevels)
    (replay : check.replay = output.replay) (dashboard : check.dashboard = output.dashboard)
    (reads : ReadsTimes check host.now.orUtc)
    (ran : main host enabled cameraIndex = .ok output) :
    (∃ lines, Scripts.main check host.projectRoot taskId expectedMarkerId = .ok (lines, 0)) ↔
      output.exitCode = 0 ∧ FirstMarker host cameraIndex expectedMarkerId ∧
        EvidenceThere host check := by
  rcases ran_of_main ran with ⟨_, isCode, noReplay, _⟩ |
    ⟨log, questions, text, html, summary, isRun, _, isCode, _, isReplay, isDashboard⟩
  · rw [noReplay] at replay
    rw [isCode]
    apply iff_of_false
    · intro passed
      obtain ⟨_, passed⟩ := passed
      exact main_eq_fail replay passed
    · intro both
      cases both.1
  · obtain ⟨loaded, summarized, rendered⟩ := isRun.serialized digests one
    have lasting := lasting_of_run digests one isRun.ran
    have loads := loads_replayText isRun.written lasting
    -- The dashboard was rendered from the same text with no more stack than the check has.
    have enough : ¬check.stackLevels < (replayEvents log).nesting := by
      intro few
      rw [loads, if_pos (room.trans_lt few)] at loaded
      cases loaded
    have again : Scripts.loads check.math check.stackLevels text = .ok (.arr (readBack log)) := by
      rw [math, loads, if_neg enough]
      rfl
    rw [isReplay] at replay
    rw [isDashboard] at dashboard
    rw [main_eq_pass replay dashboard again, passedReplay_iff readsBack isRun.ran reads]
    obtain ⟨_, agrees, _⟩ := status_of_run readsBack isRun.ran summarized
    constructor
    · intro passed
      obtain ⟨⟨completed, marker, there⟩, _⟩ := passed
      rw [if_pos completed] at isCode
      exact ⟨isCode, marker, there⟩
    · intro ends
      obtain ⟨exited, marker, there⟩ := ends
      have completed : log.terminalEventType = some .taskCompleted := by
        by_contra failed
        rw [if_neg failed, exited] at isCode
        cases isCode
      exact ⟨⟨completed, marker, there⟩,
        texts_of_completed isRun.ran completed (agrees.mpr completed) rendered⟩

/-- The times of the seconds behind a time. -/
def timesFrom (start : DateTime) : List DateTime :=
  (List.range 13).filterMap fun (seconds : ℕ) =>
    (start.addSeconds seconds).toOption.map DateTime.orUtc

theorem mem_timesFrom {start time : DateTime} {seconds : ℤ} (least : 0 ≤ seconds)
    (most : seconds < 13) (isTime : start.addSeconds seconds = .ok time) :
    time.orUtc ∈ timesFrom start := by
  lift seconds to ℕ using least
  have inRange : seconds ∈ List.range 13 := List.mem_range.mpr (by omega)
  unfold timesFrom
  refine List.mem_filterMap.mpr ⟨seconds, inRange, ?_⟩
  rw [isTime]
  rfl

theorem find_of_distinct {times : List DateTime} {time : DateTime}
    (distinct : (times.map DateTime.isoformat).Nodup) (inTimes : time ∈ times) :
    times.find? (fun other => other.isoformat = time.isoformat) = some time := by
  cases found : times.find? (fun other => other.isoformat = time.isoformat) with
  | none => exact absurd (decide_eq_true rfl) (List.find?_eq_none.mp found _ inTimes)
  | some other =>
      have sameText : other.isoformat = time.isoformat := by simpa using List.find?_some found
      have otherIn := List.mem_of_find?_eq_some found
      exact congrArg some (List.inj_on_of_nodup_map distinct otherIn inTimes sameText)

/-- A check with all files, which reads the times of the demo. -/
def markedCheck (output : Output) : CheckHost ℚ where
  math := FloatMath.axis
  stackLevels := 10
  fromisoformat text := (timesFrom markedHost.now.orUtc).find? fun time => time.isoformat = text
  replay := output.replay
  dashboard := output.dashboard
  isFile _ := some true

theorem distinct_timesFrom :
    ((timesFrom markedHost.now.orUtc).map DateTime.isoformat).Nodup := by
  decide +kernel

theorem readsTimes_markedCheck (output : Output) :
    ReadsTimes (markedCheck output) markedHost.now.orUtc := by
  intro seconds time least most isTime
  unfold markedCheck
  dsimp only
  exact find_of_distinct distinct_timesFrom (mem_timesFrom least most isTime)

theorem verdict_of_main_marked :
    ∃ output lines, main markedHost true 0 = .ok output ∧ output.exitCode = 0 ∧
      Scripts.main (markedCheck output) markedHost.projectRoot taskId 7 = .ok (lines, 0) := by
  obtain ⟨output, ran, isCode⟩ := exists_output_markedHost
  have marker : FirstMarker markedHost 0 7 := ⟨_, [], ⟨true, rfl, rfl⟩, rfl⟩
  have there : EvidenceThere markedHost (markedCheck output) := ⟨rfl, rfl⟩
  obtain ⟨lines, passed⟩ := (verdict_of_main markedHost 0 true (markedCheck output) 7
    (readsBack_marked _) plainDigests_marked floatReturns_one rfl le_rfl rfl rfl
      (readsTimes_markedCheck output) ran).mpr
      ⟨isCode, marker, there⟩
  exact ⟨output, lines, ran, isCode, passed⟩

end RunPhysicalDemo

end Scripts

end ValeraControlTower

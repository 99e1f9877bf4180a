import ValeraControlTower.Dashboard.Summary
import ValeraControlTower.VrGateway.DecoderDepth

/-!
# `scripts/check_physical_demo_output.py`

The check of the files a physical demo has written: its replay, its dashboard and the evidence
its replay refers to.
-/

namespace ValeraControlTower

open Unicode Json LexicalPath Robot

namespace Scripts

/-- What the check meets: the interpreter, and the files below the project root. -/
structure CheckHost (K : Type) where
  math : FloatMath K
  /-- The open containers for which the stack of the interpreter has room. -/
  stackLevels : ℕ
  /-- `datetime.fromisoformat`; none where it raises `ValueError`. -/
  fromisoformat : PyStr → Option DateTime
  /-- The text of `replay.json`, if there is such a file. -/
  replay : Option PyStr
  /-- The text of `dashboard.html`, if there is such a file. -/
  dashboard : Option PyStr
  /-- `path.is_file()`; none where it raises `OSError`, as for a name that is too long. -/
  isFile : PyStr → Option Bool

/-- Exceptions by class; that of the script keeps its message. -/
inductive CheckException where
  | physicalDemoOutputError (message : PyStr)
  | attributeError
  | typeError
  | osError
  | raisedByLoads (exception : PyException)

structure PhysicalDemoOutputCheck where
  taskId : PyStr
  eventCount : ℕ
  replayPath : PyStr
  dashboardPath : PyStr
  objectFoundSource : PyStr
  evidenceFiles : List PyStr

variable {K : Type}

/-! ## `json.loads` -/

/-- The hooks of `json.loads`; of the values of a key the last one stays. -/
def loadsHooks (M : FloatMath K) : DecoderHooks K where
  objectPairsHook pairs := .ok (.obj (pairs.foldl setItem []))
  parseConstant text :=
    .ok (.num (.float (if text = "NaN" then .nan else .infinity (text = "-Infinity"))))
  parseInt
  parseFloat := ValeraControlTower.parseFloat M

/-- `json.loads`; it runs out of stack if it has too many containers open. -/
def loads (M : FloatMath K) (stackLevels : ℕ) (text : PyStr) : Except PyException (PyJson K) :=
  let calls := 2 * text.length + 1
  let start := JsonDecoder.skipWhitespace text
  if text.head? = some (CodePoint.ofChar '\uFEFF') then
    .error (.jsonDecodeError "Unexpected UTF-8 BOM (decode using utf-8-sig)")
  else if stackLevels < JsonDecoder.mostOpen (loadsHooks M) calls start then .error .recursionError
  else do
    let (value, rest) ← JsonDecoder.scanOnce (loadsHooks M) calls start
    if JsonDecoder.skipWhitespace rest ≠ [] then throw (.jsonDecodeError "Extra data")
    return value

/-! ## Values -/

/-- `_require`. -/
def require (condition : Bool) (message : PyStr) : Except CheckException Unit :=
  if condition then .ok () else .error (.physicalDemoOutputError message)

/-- `value.get(key)`; only dictionaries have the method. -/
def callGet (value : PyJson K) (key : String) : Except CheckException (PyJson K) :=
  match value with
  | .obj members => .ok (Dashboard.get members key .null)
  | _ => .error .attributeError

/-- `[event.get(key) for event in events]`. -/
def getEach (key : String) : List (PyJson K) → Except CheckException (List (PyJson K))
  | [] => .ok []
  | event :: events => do
      let value ← callGet event key
      let values ← getEach key events
      return value :: values

/-- `_require(isinstance(value, dict), message)`. -/
def requireDict (value : PyJson K) (message : String) : Except CheckException (PyPairs K) :=
  match value with
  | .obj members => .ok members
  | _ => .error (.physicalDemoOutputError (py message))

/-- `_require(isinstance(value, list), message)`. -/
def requireList (value : PyJson K) (message : String) : Except CheckException (List (PyJson K)) :=
  match value with
  | .arr items => .ok items
  | _ => .error (.physicalDemoOutputError (py message))

/-- `values == expected`, of lists. -/
def equalsEach {α : Type} (equals : PyJson K → α → Bool) : List (PyJson K) → List α → Bool
  | [], [] => true
  | value :: values, expected :: rest => equals value expected && equalsEach equals values rest
  | _, _ => false

/-- `value == number`: `True` is one, and a float may be whole. -/
def equalsNumber [IntCast K] [DecidableEq K] (value : PyJson K) (number : ℤ) : Bool :=
  match value with
  | .bool value => (if value then 1 else 0) = number
  | .num (.int value) => value = number
  | .num (.float (.finite value)) => value = (number : K)
  | _ => false

def liveCameraSource : String := "valera.live_camera_probe"

def expectedEventTypes : List String :=
  ["task.created", "task.accepted", "plan.created", "route.started", "route.arrived",
    "object.search_started", "object.found", "grasp.started", "object.grasped", "delivery.started",
    "object.released", "delivery.completed", "task.completed"]

/-! ## Times -/

/-- `raw_value.replace("Z", "+00:00")`. -/
def replaceZ (rawValue : PyStr) : PyStr :=
  rawValue.flatMap fun point => if point = CodePoint.ofChar 'Z' then py "+00:00" else [point]

/-- `first < second`; times with and without a time zone cannot be compared. -/
def isBefore (first second : DateTime) : Except CheckException Bool :=
  match first.tzinfo, second.tzinfo with
  | none, none => .ok (first.clock < second.clock)
  | some zone, some zone' =>
      .ok (first.clock - zone.utcoffset < second.clock - zone'.utcoffset)
  | _, _ => .error .typeError

/-- `_occurred_at_values_are_monotonic`, behind a time. -/
def occurredAtValuesAreMonotonic (host : CheckHost K) (previous : Option DateTime) :
    List (PyJson K) → Except CheckException Bool
  | [] => .ok true
  | event :: events => do
      let rawValue ← callGet event "occurred_at"
      match rawValue with
      | .str rawValue =>
          match host.fromisoformat (replaceZ rawValue) with
          | none => .error (.physicalDemoOutputError (py "occurred_at is invalid: " ++ rawValue))
          | some current =>
              match previous with
              | none => occurredAtValuesAreMonotonic host (some current) events
              | some earlier => do
                  if ← isBefore current earlier then return false
                  else occurredAtValuesAreMonotonic host (some current) events
      | _ => .error (.physicalDemoOutputError (py "occurred_at must be an ISO timestamp string"))

/-! ## Evidence -/

/-- `path.name`. -/
def nameOf (path : Path CodePoint) : PyStr := path.tail.getLast?.getD []

/-- `path.suffix`: the last dot of the name and what is behind it, if it neither starts nor ends
the name. -/
def suffixOf (path : Path CodePoint) : PyStr :=
  let name := nameOf path
  let extension := (name.reverse.takeWhile (· ≠ CodePoint.ofChar '.')).reverse
  if extension ≠ [] ∧ extension.length + 1 < name.length then CodePoint.ofChar '.' :: extension
  else []

/-- `text.endswith(suffix)`. -/
def endswith (text : PyStr) (suffix : String) : Bool := (py suffix).isSuffixOf text

/-- `project_root / relative_path`. -/
def below (projectRoot relativePath : PyStr) : PyStr :=
  (parse posix (join posix projectRoot relativePath)).str posix

/-- The check of the file of a reference; its path and its name. -/
def checkFile (host : CheckHost K) (projectRoot relativePath : PyStr) :
    Except CheckException (PyStr × PyStr) :=
  let evidencePath := below projectRoot relativePath
  match host.isFile evidencePath with
  | none => .error .osError
  | some isFile => do
      require isFile (py "evidence file is missing: " ++ evidencePath)
      return (evidencePath, nameOf (parse posix relativePath))

/-- The checks of one reference: the path of its file, and its name. -/
def validateEvidenceRef (host : CheckHost K) (projectRoot : PyStr) (ref : PyJson K) :
    Except CheckException (PyStr × PyStr) := do
  let ref ← requireDict ref "evidence refs must be structured objects"
  require (Dashboard.isText (Dashboard.get ref "source_adapter" .null) liveCameraSource)
    (py ("evidence source_adapter must be " ++ liveCameraSource))
  require (Dashboard.isText (Dashboard.get ref "media_type" .null) "image/png")
    (py "evidence media_type must be image/png")
  match Dashboard.get ref "relative_path" .null with
  | .str relativePath => do
      let posixPath := parse posix relativePath
      require (!posixPath.isAbsolute) (py "evidence relative_path must be relative")
      require (py ".." ∉ posixPath.parts) (py "evidence relative_path must not contain ..")
      require (posixPath.isRelativeTo (parse posix (py "data/evidence")))
        (py "evidence relative_path must stay under data/evidence")
      require (suffixOf posixPath = py ".png") (py "evidence file must be a PNG")
      checkFile host projectRoot relativePath
  | _ => .error (.physicalDemoOutputError (py "evidence relative_path must be a string"))

/-- The loop of `_validate_evidence_refs`. -/
def validateEach (host : CheckHost K) (projectRoot : PyStr) :
    List (PyJson K) → Except CheckException (List (PyStr × PyStr))
  | [] => .ok []
  | ref :: refs => do
      let file ← validateEvidenceRef host projectRoot ref
      let files ← validateEach host projectRoot refs
      return file :: files

/-- `_validate_evidence_refs`. -/
def validateEvidenceRefs (host : CheckHost K) (projectRoot : PyStr) (refs : List (PyJson K)) :
    Except CheckException (List PyStr) := do
  let files ← validateEach host projectRoot refs
  require ((files.filter fun file => endswith file.2 "-raw.png").length = 1)
    (py "object.found must have one raw PNG evidence ref")
  require ((files.filter fun file => endswith file.2 "-annotated.png").length = 1)
    (py "object.found must have one annotated PNG evidence ref")
  return files.map Prod.fst

/-! ## The dashboard -/

/-- The texts a dashboard must have, and what is missing without them. -/
def dashboardTexts : List (String × String) :=
  [("Final status", "Final status"), ("completed", "completed"), ("object.found", "object.found"),
    (liveCameraSource, liveCameraSource), ("task.completed", "task.completed"),
    ("href=", "evidence hrefs"), ("<img ", "evidence preview imgs"),
    ("evidence-preview", "evidence preview class")]

/-- `_validate_dashboard`. -/
def validateDashboard (html : PyStr) : List (String × String) → Except CheckException Unit
  | [] => .ok ()
  | (text, missing) :: texts => do
      require (py text <:+: html) (py ("dashboard missing " ++ missing))
      validateDashboard html texts

/-! ## The check -/

/-- `_final_status`. -/
def finalStatus (lastEvent : PyJson K) : Except CheckException String := do
  let payload ← callGet lastEvent "payload"
  let payloadStatus :=
    match payload with
    | .obj payload => Dashboard.get payload "status" .null
    | _ => .null
  let eventType ← callGet lastEvent "event_type"
  return if Dashboard.isText eventType "task.completed" ||
      Dashboard.isText payloadStatus "completed"
    then "completed" else "unknown"

variable [IntCast K] [DecidableEq K]

/-- The checks of the `object.found` event; its evidence refs. -/
def checkObjectFound (expectedMarkerId : ℤ) (objectFound : PyJson K) :
    Except CheckException (List (PyJson K)) := do
  let eventType ← callGet objectFound "event_type"
  require (Dashboard.isText eventType "object.found") (py "sequence 7 must be object.found")
  let source ← callGet objectFound "source"
  require (Dashboard.isText source liveCameraSource)
    (py ("object.found source must be " ++ liveCameraSource))
  let mode ← callGet objectFound "mode"
  require (Dashboard.isText mode "real_vision") (py "object.found mode must be real_vision")
  let payload ← requireDict (← callGet objectFound "payload")
    "object.found payload must be an object"
  require (Dashboard.isText (Dashboard.get payload "object_id" .null) "VALERA-CUBE-001")
    (py "object.found object_id is wrong")
  require (equalsNumber (Dashboard.get payload "marker_id" .null) expectedMarkerId)
    (py "object.found marker_id is wrong")
  require (equalsNumber (Dashboard.get payload "detection_score" .null) 1)
    (py "object.found detection_score must be 1.0")
  require (Dashboard.isText (Dashboard.get payload "status" .null) "found")
    (py "object.found status must be found")
  let evidenceRefs ← requireList (← callGet objectFound "evidence_refs")
    "object.found evidence_refs must be a list"
  require (evidenceRefs.length = 2)
    (py ("expected 2 object.found evidence refs, got " ++ toString evidenceRefs.length))
  return evidenceRefs

/-- The checks of the events of the replay, behind those of their sequences and types. -/
def checkEvents (host : CheckHost K) (projectRoot : PyStr) (expectedMarkerId : ℤ)
    (replay : List (PyJson K)) : Except CheckException (List PyStr) := do
  let lastEvent := replay.getLast?.getD .null
  let lastType ← callGet lastEvent "event_type"
  require (Dashboard.isText lastType "task.completed") (py "final event must be task.completed")
  let status ← finalStatus lastEvent
  require (status = "completed") (py "final status must infer as completed")
  let monotonic ← occurredAtValuesAreMonotonic host none replay
  require monotonic (py "occurred_at values must be monotonic")
  let evidenceRefs ← checkObjectFound expectedMarkerId (replay[6]?.getD .null)
  validateEvidenceRefs host projectRoot evidenceRefs

/-- The checks of the replay: the number of its events, and the evidence files. -/
def checkReplay (host : CheckHost K) (projectRoot : PyStr) (expectedMarkerId : ℤ)
    (replay : PyJson K) : Except CheckException (ℕ × List PyStr) := do
  let replay ← requireList replay "replay JSON must be a list"
  require (replay.length = expectedEventTypes.length)
    (py ("expected 13 events, got " ++ toString replay.length))
  let sequences ← getEach "sequence" replay
  require (equalsEach equalsNumber sequences ((List.range' 1 13).map Int.ofNat))
    (py "event sequences must be exactly 1..13")
  let eventTypes ← getEach "event_type" replay
  require (equalsEach Dashboard.isText eventTypes expectedEventTypes)
    (py "event types do not match the expected physical demo success sequence")
  let evidenceFiles ← checkEvents host projectRoot expectedMarkerId replay
  return (replay.length, evidenceFiles)

/-- A file of the run of a task. -/
def runFile (projectRoot taskId : PyStr) (name : String) : PyStr :=
  below (below (below (below projectRoot (py "data")) (py "runs")) taskId) (py name)

/-- `check_physical_demo_output`. -/
def checkPhysicalDemoOutput (host : CheckHost K) (projectRoot taskId : PyStr)
    (expectedMarkerId : ℤ) : Except CheckException PhysicalDemoOutputCheck := do
  let replayPath := runFile projectRoot taskId "replay.json"
  let dashboardPath := runFile projectRoot taskId "dashboard.html"
  match host.replay with
  | none => .error (.physicalDemoOutputError (py "replay JSON is missing: " ++ replayPath))
  | some replayText =>
  match host.dashboard with
  | none => .error (.physicalDemoOutputError (py "dashboard HTML is missing: " ++ dashboardPath))
  | some html =>
  match loads host.math host.stackLevels replayText with
  | .error (.jsonDecodeError message) =>
      .error (.physicalDemoOutputError (py ("replay JSON is invalid: " ++ message)))
  | .error exception => .error (.raisedByLoads exception)
  | .ok replay => do
      let (eventCount, evidenceFiles) ← checkReplay host projectRoot expectedMarkerId replay
      validateDashboard html dashboardTexts
      return {
        taskId, eventCount, replayPath, dashboardPath
        -- `str(object_found.get("source"))`, which has been checked.
        objectFoundSource := py liveCameraSource
        evidenceFiles }

/-- `main`: the lines it prints, and its exit code. -/
def main (host : CheckHost K) (projectRoot taskId : PyStr) (expectedMarkerId : ℤ) :
    Except CheckException (List PyStr × ℕ) :=
  match checkPhysicalDemoOutput host projectRoot taskId expectedMarkerId with
  | .error (.physicalDemoOutputError message) =>
      .ok ([py "FAIL: Physical demo output verification", py "Check failed: " ++ message], 1)
  | .error exception => .error exception
  | .ok result =>
      .ok ([py "PASS: Physical demo output verification", py "Task id: " ++ result.taskId,
        py ("Event count: " ++ toString result.eventCount), py "Replay path: " ++ result.replayPath,
        py "Dashboard path: " ++ result.dashboardPath,
        py "Object found source: " ++ result.objectFoundSource, py "Evidence files:"] ++
          result.evidenceFiles.map (py "- " ++ ·), 0)

end Scripts

end ValeraControlTower

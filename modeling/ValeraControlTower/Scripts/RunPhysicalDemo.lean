import ValeraControlTower.Dashboard.Render
import ValeraControlTower.Robot.LiveCamera
import ValeraControlTower.Robot.PhysicalDemo
import ValeraControlTower.Scripts.ReplayFile

/-!
# `scripts/run_physical_demo.py`

A physical demo with the camera and the operator, its replay, and the dashboard that is rendered
from the replay.
-/

namespace ValeraControlTower

open Unicode Json LexicalPath Robot Dashboard

namespace Scripts

/-- What the script meets. -/
structure DemoHost (Image K : Type) where
  projectRoot : PyStr
  cameras : Cameras ℤ Image
  vision : VisionHost Image K
  /-- `CliConfirmationProvider`: the answers of the operator. -/
  confirm : ConfirmationProvider
  /-- `datetime.now(timezone.utc)`, when the demo starts. -/
  now : DateTime
  interpreter : Host K
  /-- The calls within each other for which the stack has room when a replay is written. -/
  room : ℕ
  /-- The open containers for which the stack has room when a replay is read. -/
  stackLevels : ℕ
  /-- `path.parent.mkdir(parents=True, exist_ok=True)`. -/
  makeParent : PyStr → Except Exception Unit
  /-- `path.write_text(text, encoding="utf-8")`. -/
  writeText : PyStr → PyStr → Except Exception Unit

/-- An exception of the robot's or of the interpreter's. -/
inductive DemoException where
  | robot (exception : Exception)
  | python (exception : PyException)

variable {Image K α : Type}

def robot (outcome : Except Exception α) : Except DemoException α := outcome.mapError .robot

def python (outcome : Except PyException α) : Except DemoException α := outcome.mapError .python

/-! ## The dashboard of a replay -/

/-- The events of a list; what is no dictionary has no `get`. -/
def dictionaries : List (PyJson K) → Except PyException (List (PyPairs K))
  | [] => .ok []
  | .obj event :: values => do
      let events ← dictionaries values
      return event :: events
  | _ :: _ => .error .attributeError

/-- The events of a replay, which must be a list. -/
def eventsOf : PyJson K → Except PyException (List (PyPairs K))
  | .arr values => dictionaries values
  | _ => .error .valueError

section Render

variable [Zero K] [DecidableEq K]

/-- `render_dashboard_from_replay`: the summary, and the text that is written. -/
def renderDashboardFromReplay (host : DemoHost Image K) (replay outputPath : PyStr) :
    Except DemoException (DashboardSummary × PyStr) := do
  let value ← python (loads host.interpreter.math host.stackLevels replay)
  let events ← python (eventsOf value)
  let summary ← python (summarizeEvents host.interpreter events)
  robot (host.makeParent outputPath)
  let html ← python (renderHtml host.interpreter events summary (parse posix outputPath))
  robot (host.writeText outputPath html)
  return (summary, html)

end Render

namespace RunPhysicalDemo

/-- `TASK_ID`. -/
def taskId : PyStr := py "physical-demo-001"

/-- `OBJECT_ID`. -/
def objectId : PyStr := py "VALERA-CUBE-001"

variable [Min K] [Max K] [Sub K] [One K]

/-- The probe of the demo: what happens to the camera stays with the probe. -/
def liveProbe (host : DemoHost Image K) (request : ProbeRequest) :
    Except Exception (EventEnvelope K) :=
  ((runLiveCameraMarkerProbe host.cameras host.vision request.taskId request.objectId
    request.cameraIndex request.enabled request.outputRoot request.sequence
    (some request.correlationId) (some request.occurredAt)).after []).1

/-- The demo that the script runs. -/
def demo (host : DemoHost Image K) (cameraIndex : ℤ) : PhysicalDemo K where
  taskId
  objectId
  cameraIndex
  enableLiveCamera := true
  outputRoot := host.projectRoot
  confirmationProvider := host.confirm
  correlationId := none
  runStartedAt := none
  liveProbeRunner := liveProbe host
  now := host.now

/-- What a run prints and writes. -/
structure Output where
  lines : List PyStr
  exitCode : ℕ
  summary : Option DashboardSummary := none
  replay : Option PyStr := none
  dashboard : Option PyStr := none

/-- The lines before anything is done. -/
def opening : List PyStr :=
  [py ("Valera physical demo: live camera perception plus operator-confirmed " ++
      "manipulation steps."),
    py "This runner does not move the robot, control the arm, or call actuators."]

omit [Min K] [Max K] [Sub K] [One K] in
/-- The paths of the evidence of the object that was found. -/
def evidenceLines (eventLog : TaskEventLog K) : List PyStr :=
  match eventLog.events.find? fun event => event.eventType = .objectFound with
  | none => [py "- none"]
  | some objectFound =>
      if objectFound.evidenceRefs = [] then [py "- none"]
      else objectFound.evidenceRefs.map fun ref => py "- " ++ ref.relativePath

/-- `main`. -/
def main [Zero K] [DecidableEq K] (host : DemoHost Image K) (enableLiveCamera : Bool)
    (cameraIndex : ℤ) : Except DemoException Output := do
  if enableLiveCamera = false then
    return {
      lines := opening ++
        [py "Live camera access is fail-closed; rerun with --enable-live-camera to opt in."]
      exitCode := 2 }
  else
    let replayPath := runFile host.projectRoot taskId "replay.json"
    let dashboardPath := runFile host.projectRoot taskId "dashboard.html"
    let (eventLog, _) ← robot (runPhysicalDemo (demo host cameraIndex))
    robot (host.makeParent replayPath)
    let replay ← python (writePhysicalDemoReplay host.interpreter host.room eventLog)
    robot (host.writeText replayPath replay)
    let (summary, html) ← renderDashboardFromReplay host replay dashboardPath
    return {
      lines := opening ++ [py "Task id: " ++ summary.taskId,
        py "Final status: " ++ summary.finalStatus,
        py ("Event count: " ++ toString summary.eventCount), py "Replay path: " ++ replayPath,
        py "Dashboard path: " ++ dashboardPath, py "Evidence paths:"] ++ evidenceLines eventLog
      exitCode := if eventLog.terminalEventType = some .taskCompleted then 0 else 1
      summary
      replay
      dashboard := html }

end RunPhysicalDemo

end Scripts

end ValeraControlTower

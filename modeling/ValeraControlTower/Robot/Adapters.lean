import ValeraControlTower.Robot.Models

/-!
# `robot/adapters`

The results of the adapters, with the fields a mission reads.  A mission calls each method
once at most, so an adapter is what its methods return.
-/

namespace ValeraControlTower

namespace Robot

inductive AdapterMode where
  | simulation | dryRun | probe | hardware
  deriving DecidableEq

def AdapterMode.value : AdapterMode → PyStr
  | simulation => py "simulation"
  | dryRun => py "dry_run"
  | probe => py "probe"
  | hardware => py "hardware"

inductive AdapterType where
  | arm | camera | vision | baseMotion
  deriving DecidableEq

def AdapterType.value : AdapterType → PyStr
  | arm => py "arm"
  | camera => py "camera"
  | vision => py "vision"
  | baseMotion => py "base_motion"

structure AdapterIdentity where
  adapterId : PyStr
  adapterType : AdapterType
  mode : AdapterMode

/-! ## Cameras -/

inductive CameraRole where
  | frontNav | wrist | overhead | operatorView
  deriving DecidableEq

def CameraRole.value : CameraRole → PyStr
  | frontNav => py "front_nav"
  | wrist => py "wrist"
  | overhead => py "overhead"
  | operatorView => py "operator_view"

structure CameraCapabilities where
  roles : List CameraRole
  supportsFrameCapture : Bool
  supportsDepth : Bool

structure FrameArtifact where
  artifactUri : PyStr
  frameHash : PyStr
  mediaType : PyStr
  width : ℤ
  height : ℤ

structure CameraProbeResult where
  ok : Bool
  identity : AdapterIdentity
  capabilities : CameraCapabilities
  deviceLabel : PyStr

structure FrameCaptureResult where
  ok : Bool
  identity : AdapterIdentity
  cameraRole : CameraRole
  artifact : Option FrameArtifact

structure CameraAdapter where
  probe : CameraProbeResult
  captureFrame : FrameCaptureResult

/-! ## Vision -/

structure BoundingBox where
  x : ℤ
  y : ℤ
  width : ℤ
  height : ℤ

structure VisionDetection (K : Type) where
  objectId : PyStr
  label : PyStr
  confidence : PyFloat K
  boundingBox : Option BoundingBox
  metadata : PyPairs K

structure VisionResult (K : Type) where
  identity : AdapterIdentity
  sourceArtifactUri : PyStr
  detections : List (VisionDetection K)

structure VisionAdapter (K : Type) where
  detect : PyStr → VisionResult K

/-! ## Arms -/

structure ArmCapabilities where
  canReadState : Bool
  canEnableTorque : Bool
  canMove : Bool
  jointCount : ℤ

structure ArmState where
  torqueEnabled : Bool

structure ArmProbeResult where
  ok : Bool
  identity : AdapterIdentity
  capabilities : ArmCapabilities
  runtime : PyStr

structure ArmCommandResult where
  ok : Bool
  identity : AdapterIdentity
  commandName : PyStr
  executed : Bool
  state : Option ArmState

structure ArmAdapter where
  probe : ArmProbeResult
  simulateGrasp : Bool → ArmCommandResult

end Robot

end ValeraControlTower

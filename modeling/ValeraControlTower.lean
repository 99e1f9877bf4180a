import ValeraControlTower.VrGateway.Motion
import ValeraControlTower.VrGateway.Latch
import ValeraControlTower.VrGateway.Sessions
import ValeraControlTower.VrGateway.EventStream
import ValeraControlTower.VrGateway.Rejections
import ValeraControlTower.VrGateway.Replay
import ValeraControlTower.VrGateway.Polling
import ValeraControlTower.VrGateway.FailClosed
import ValeraControlTower.VrGateway.HandleReturns
import ValeraControlTower.VrGateway.EventFailClosed
import ValeraControlTower.VrGateway.Correlation
import ValeraControlTower.VrGateway.MotionStep
import ValeraControlTower.VrGateway.TransportRuns
import ValeraControlTower.VrGateway.NeckRotation
import ValeraControlTower.VrGateway.LowPass
import ValeraControlTower.VrGateway.Recentering
import ValeraControlTower.Contract.HeadMotion
import ValeraControlTower.Unity.StrictJson
import ValeraControlTower.Unity.DecoderTotality
import ValeraControlTower.Unity.WireCodec
import ValeraControlTower.Contract.Commands
import ValeraControlTower.VrGateway.CommandReading
import ValeraControlTower.VrGateway.TextFormat
import ValeraControlTower.Contract.DecoderAgreement
import ValeraControlTower.Library.JsonWriter
import ValeraControlTower.Unity.EncodedCommands
import ValeraControlTower.Unity.WireEvents
import ValeraControlTower.Contract.EventSize
import ValeraControlTower.Contract.Events
import ValeraControlTower.Contract.ClientToGateway
import ValeraControlTower.Contract.GatewayToClient
import ValeraControlTower.Robot.GraspOutcome
import ValeraControlTower.Robot.HybridDemo
import ValeraControlTower.Robot.PhysicalOutcome
import ValeraControlTower.Robot.LogAgreement
import ValeraControlTower.Robot.EvidenceFiles
import ValeraControlTower.VrGateway.DepthLimits
import ValeraControlTower.Dashboard.Markup
import ValeraControlTower.Scripts.CheckOutcome
import ValeraControlTower.Contract.TopicListener
import ValeraControlTower.VrGateway.Provenance
import ValeraControlTower.VrGateway.Timer
import ValeraControlTower.Contract.InOrderDelivery
import ValeraControlTower.Scripts.ReplayFile
import ValeraControlTower.Scripts.ProbeCameras
import ValeraControlTower.Robot.PhysicalLog
import ValeraControlTower.Robot.DetectionEvent
import ValeraControlTower.Scripts.LastingReplay
import ValeraControlTower.Scripts.RunPhysicalDemo
import ValeraControlTower.Scripts.DemoReports
import ValeraControlTower.Scripts.DemoVerdict

import ValeraControlTower.Unity.CSharp

/-!
# `Runtime/Contracts/WireDtos.cs`

The classes of the contract.  References can be null, so they are optional.
-/

namespace ValeraControlTower.Unity

namespace WireValues

def schemaVersion : CsString := cs "0.1"

def sessionStart : CsString := cs "session.start"

def sessionStop : CsString := cs "session.stop"

def modeSet : CsString := cs "mode.set"

def headPose : CsString := cs "head.pose"

def headRecenter : CsString := cs "head.recenter"

def emergencyStop : CsString := cs "emergency_stop"

def gatewayState : CsString := cs "gateway.state"

def neckTarget : CsString := cs "neck.target"

def safetyStop : CsString := cs "safety.stop"

def commandRejected : CsString := cs "command.rejected"

end WireValues

variable {K : Type}

/-! ## Commands -/

structure SessionStartPayloadDto where
  requestedMode : Option CsString

structure ModeSetPayloadDto where
  mode : Option CsString

structure EmptyPayloadDto where

structure QuaternionDto (M : FloatMath K) where
  x : CsDouble M
  y : CsDouble M
  z : CsDouble M
  w : CsDouble M

structure PositionDto (M : FloatMath K) where
  x : CsDouble M
  y : CsDouble M
  z : CsDouble M

structure HeadPosePayloadDto (M : FloatMath K) where
  frame : Option CsString
  orientation : Option (QuaternionDto M)
  position : Option (PositionDto M)

structure HeadRecenterPayloadDto (M : FloatMath K) where
  frame : Option CsString
  orientation : Option (QuaternionDto M)

/-- The fields of each of the six command classes. -/
structure CommandFields (Payload : Type) where
  schemaVersion : Option CsString
  command : Option CsString
  sessionId : Option CsString
  sequence : CsLong
  timestampMs : CsLong
  payload : Option Payload

/-- An object of one of the six command classes. -/
inductive CommandDto (M : FloatMath K) where
  | sessionStart (dto : CommandFields SessionStartPayloadDto)
  | sessionStop (dto : CommandFields EmptyPayloadDto)
  | modeSet (dto : CommandFields ModeSetPayloadDto)
  | headPose (dto : CommandFields (HeadPosePayloadDto M))
  | headRecenter (dto : CommandFields (HeadRecenterPayloadDto M))
  | emergencyStop (dto : CommandFields EmptyPayloadDto)

/-! ## Events -/

/-- A `Correlation`: `Unavailable`, or what the constructor lets pass. -/
inductive Correlation where
  | unavailable
  | available (sessionId : CsString) (sequence : CsLong)
      (visible : CsString.isWhiteSpaceOnly sessionId = false) (positive : 1 ≤ sequence.1)

namespace Correlation

/-- `new Correlation(sessionId, sequence)`. -/
def new (sessionId : CsString) (sequence : CsLong) : Except CsException Correlation :=
  if visible : CsString.isWhiteSpaceOnly sessionId = false then
    if positive : 1 ≤ sequence.1 then .ok (.available sessionId sequence visible positive)
    else .error (.argumentOutOfRangeException (cs "sequence must be at least 1."))
  else
    .error (.argumentException (cs "session_id must be non-empty and non-whitespace."))

def isAvailable : Correlation → Bool
  | unavailable => false
  | available _ _ _ _ => true

/-- `SessionId`, if the correlation is available. -/
def sessionId : Correlation → Option CsString
  | unavailable => none
  | available sessionId _ _ _ => some sessionId

/-- `Sequence`, if the correlation is available. -/
def sequence : Correlation → Option CsLong
  | unavailable => none
  | available _ sequence _ _ => some sequence

end Correlation

structure GatewayStateEventDto where
  schemaVersion : Option CsString
  eventType : Option CsString
  gatewayMonotonicNs : CsLong
  state : Option CsString
  correlation : Correlation

structure NeckTargetEventDto (M : FloatMath K) where
  schemaVersion : Option CsString
  eventType : Option CsString
  gatewayMonotonicNs : CsLong
  correlation : Correlation
  panDegrees : CsDouble M
  tiltDegrees : CsDouble M
  hold : Bool

structure SafetyStopEventDto where
  schemaVersion : Option CsString
  eventType : Option CsString
  gatewayMonotonicNs : CsLong
  reason : Option CsString
  correlation : Correlation
  neckAction : Option CsString
  baseAction : Option CsString
  armAction : Option CsString

structure CommandRejectedEventDto where
  schemaVersion : Option CsString
  eventType : Option CsString
  gatewayMonotonicNs : CsLong
  code : Option CsString
  message : Option CsString
  correlation : Correlation

/-- An object of one of the four event classes. -/
inductive EventDto (M : FloatMath K) where
  | gatewayState (dto : GatewayStateEventDto)
  | neckTarget (dto : NeckTargetEventDto M)
  | safetyStop (dto : SafetyStopEventDto)
  | commandRejected (dto : CommandRejectedEventDto)

end ValeraControlTower.Unity

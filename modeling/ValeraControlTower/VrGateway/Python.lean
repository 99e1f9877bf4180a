import ValeraControlTower.Library.Numeral

/-!
# The Python values the gateway meets

`VrGateway.handle` accepts any object, so the objects it inspects are modelled
with their classes and instance dictionaries.  Floating point is a parameter:
`FloatMath K` names the operations the sources call over a type `K` of exact
values, and the theorems hold for every choice of them.
-/

namespace ValeraControlTower

open Unicode

/-- A `str`: a sequence of code points, lone surrogates allowed. -/
abbrev PyStr := List CodePoint

/-- A string literal of the sources. -/
abbrev py (text : String) : PyStr := points text

/-- Exceptions by class; those the sources raise themselves keep their message. -/
inductive PyException where
  | messageValidationError (message : String)
  | wireError (message : String)
  | attributeError
  | typeError
  | valueError
  | overflowError
  | unicodeEncodeError
  | jsonDecodeError (message : String)
  | recursionError
  deriving DecidableEq

/-- Does `except ValueError` catch the exception? -/
def PyException.isValueError : PyException → Bool
  | messageValidationError _ | wireError _ | valueError
  | unicodeEncodeError | jsonDecodeError _ => true
  | attributeError | typeError | overflowError | recursionError => false

theorem bind_eq_ok {Raised α β : Type} {outcome : Except Raised α}
    {next : α → Except Raised β} {result : β} (returned : outcome >>= next = .ok result) :
    ∃ value, outcome = .ok value ∧ next value = .ok result := by
  cases outcome with
  | error exception => cases returned
  | ok value => exact ⟨value, rfl, returned⟩

theorem map_eq_ok_iff {Raised α β : Type} {next : α → β} {outcome : Except Raised α} {result : β} :
    next <$> outcome = .ok result ↔ ∃ value, outcome = .ok value ∧ next value = result := by
  cases outcome with
  | error exception => simp
  | ok value =>
      constructor
      · intro mapped
        exact ⟨value, rfl, Except.ok.inj mapped⟩
      · rintro ⟨_, ⟨⟩, rfl⟩
        rfl

/-- The floating-point functions the sources call, over a type of exact values. -/
structure FloatMath (K : Type) where
  /-- The float nearest an exact decimal value; none when it overflows. -/
  ofRat : ℚ → Option K
  isfinite : K → Bool
  hypot : List K → K
  atan2 : K → K → K
  degrees : K → K
  exp : K → K
  /-- `repr` of a finite float. -/
  repr : K → List Char

/-- The float nearest `π`. -/
def pi : ℚ := 884279719003555 / 281474976710656

/-- Rational arithmetic for heads that look straight ahead or straight back: `hypot` is
exact when at most one coordinate is nonzero, `atan2` on the first axis, where the other
coordinate of a head that looks back is `-0.0`, `exp` at zero, `repr` for whole numbers below
`10 ^ 16`. -/
def FloatMath.axis : FloatMath ℚ where
  ofRat value := if |value| < 2 ^ 1024 - 2 ^ 970 then some value else none
  isfinite _ := true
  hypot values := (values.map abs).foldr max 0
  atan2 _ x := if x < 0 then -pi else 0
  degrees radians := radians * 180 / pi
  exp _ := 1
  repr value := Numeral.text ⟨value < 0,
    if |value| < 10 ^ 16 then Digit.decimal value.floor.natAbs else [0], some [0], none⟩

inductive PyFloat (K : Type) where
  | finite (value : K)
  | infinity (negative : Bool)
  | nan

/-- Names of the dataclass fields of `messages.py`. -/
inductive PyAttribute where
  | schemaVersion | command | sessionId | sequence | timestampMs | payload
  | requestedMode | mode | frame | orientation | position | x | y | z | w
  | eventType | gatewayMonotonicNs | state | reason | code | message
  | panDegrees | tiltDegrees | hold | neckAction | baseAction | armAction
  deriving DecidableEq

/-- The dataclasses of `messages.py`. -/
inductive PyClass where
  | quaternion | position | sessionStartPayload | modeSetPayload | posePayload
  | emptyPayload | commandEnvelope | gatewayStateEvent | neckTargetEvent
  | safetyStopEvent | commandRejectedEvent
  deriving DecidableEq

inductive CommandName where
  | sessionStart | sessionStop | modeSet | headPose | headRecenter | emergencyStop
  deriving DecidableEq

inductive GatewayState where
  | idle | awaitingRecenter | headActive | safeStopped | estopLatched
  deriving DecidableEq

inductive RejectionCode where
  | staleSequence | staleTimestamp | sessionMismatch | noActiveSession | modeBlocked
  | unknownMode | watchdogActive | invalidPayload | estopLatched
  deriving DecidableEq

inductive StopReason where
  | watchdog | emergencyStop | sessionStopped
  deriving DecidableEq

inductive EventName where
  | gatewayState | neckTarget | safetyStop | commandRejected
  deriving DecidableEq

/-- An object by its exact type.  Instances carry their own dictionary, in which
fields may be missing or hold anything; `other` is any object of another type. -/
inductive PyObject (K : Type) where
  | none
  | bool (value : Bool)
  | int (value : ℤ)
  | float (value : PyFloat K)
  | str (value : PyStr)
  | commandName (member : CommandName)
  | gatewayState (member : GatewayState)
  | rejectionCode (member : RejectionCode)
  | stopReason (member : StopReason)
  | eventName (member : EventName)
  | instanceOf (cls : PyClass) (dict : List (PyAttribute × PyObject K))
  | other

/-- An instance dictionary. -/
abbrev PyDict (K : Type) := List (PyAttribute × PyObject K)

namespace PyDict

variable {K : Type}

/-- `dict.get(name)`. -/
def get? (dict : PyDict K) (name : PyAttribute) : Option (PyObject K) :=
  dict.lookup name

/-- Attribute access on an instance whose class has no default for the field. -/
def getattr (dict : PyDict K) (name : PyAttribute) : Except PyException (PyObject K) :=
  match dict.get? name with
  | some value => .ok value
  | none => .error .attributeError

/-- Attribute access on an instance whose class has a default for the field. -/
def getattrD (dict : PyDict K) (name : PyAttribute) (default : PyObject K) : PyObject K :=
  (dict.get? name).getD default

end PyDict

namespace PyObject

variable {K : Type}

/-- `type(value) in (int, float)`; `True` and `False` are of type `bool`. -/
def isNumber : PyObject K → Bool
  | int _ | float _ => true
  | _ => false

/-- `math.isfinite`: an `int` is converted to `float` first. -/
def isfinite (M : FloatMath K) : PyObject K → Except PyException Bool
  | int value => if (M.ofRat value).isSome then .ok true else .error .overflowError
  | float (.finite _) => .ok true
  | float _ => .ok false
  | _ => .error .typeError

/-- `float(value)` of a finite number. -/
def toFloat [Zero K] (M : FloatMath K) : PyObject K → K
  | int value => (M.ofRat value).getD 0
  | float (.finite value) => value
  | _ => 0

end PyObject

end ValeraControlTower

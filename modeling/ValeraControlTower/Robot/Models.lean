import ValeraControlTower.VrGateway.JsonDecoder

/-!
# `robot/models.py`
-/

namespace ValeraControlTower

open Unicode

namespace Robot

inductive Zone where
  | base | pickupZone | deliveryZone | safeStop
  deriving DecidableEq

def Zone.value : Zone → PyStr
  | base => py "base"
  | pickupZone => py "pickup_zone"
  | deliveryZone => py "delivery_zone"
  | safeStop => py "safe_stop"

inductive ExecutionMode where
  | simulation | realVision | hardware
  deriving DecidableEq

def ExecutionMode.value : ExecutionMode → PyStr
  | simulation => py "simulation"
  | realVision => py "real_vision"
  | hardware => py "hardware"

inductive FailureCode where
  | objectNotFound | markerConfidenceLow | pickupUnreachable | alignmentFailed | graspFailed
  | releaseUncertain | manualCancelled | emergencyStop | hardwareModeNotEnabled | invalidTask
  deriving DecidableEq

/-- Exceptions by class; those of the sources keep their message. -/
inductive Exception where
  | validationError (message : PyStr) (code : FailureCode)
  | liveCameraDisabledError (message : PyStr)
  | fileNotFoundError (message : PyStr)
  | osError (message : PyStr)
  | runtimeError (message : PyStr)
  | valueError (message : PyStr)
  | overflowError
  | stopIteration
  | cv2Error (message : PyStr)
  deriving DecidableEq

/-- A `ValidationError` with the default code. -/
def Exception.invalid (message : PyStr) : Exception := .validationError message .invalidTask

/-- The strings a class requires, with their field names. -/
def requireStrings : List (String × PyStr) → Except Exception Unit
  | [] => .ok ()
  | (fieldName, value) :: fields =>
      if value = [] then .error (.invalid (py fieldName ++ py " is required"))
      else requireStrings fields

theorem requireStrings_eq_ok {fields : List (String × PyStr)} :
    requireStrings fields = .ok () ↔ ∀ field ∈ fields, field.2 ≠ [] := by
  induction fields with
  | nil => simp [requireStrings]
  | cons field fields inductionHypothesis =>
      unfold requireStrings
      by_cases missing : field.2 = []
      · simp [missing]
      · simp [missing, inductionHypothesis]

theorem realVision_enabled : ExecutionMode.realVision ≠ .hardware := nofun

/-- A task that `__post_init__` has passed. -/
structure Task where
  taskId : PyStr
  objectId : PyStr
  pickupZone : Zone
  deliveryZone : Zone
  mode : ExecutionMode
  description : PyStr
  hasTaskId : taskId ≠ []
  hasObjectId : objectId ≠ []
  enabled : mode ≠ .hardware

set_option linter.constructorNameAsVariable false in
/-- `Task(...)`, with its `__post_init__`. -/
def Task.new (taskId objectId : PyStr) (pickupZone deliveryZone : Zone) (mode : ExecutionMode)
    (description : PyStr) : Except Exception Task :=
  if noTaskId : taskId = [] then .error (.invalid (py "task_id is required"))
  else if noObjectId : objectId = [] then .error (.invalid (py "object_id is required"))
  else if hardware : mode = .hardware then
    .error (.validationError (py "hardware mode is not enabled for the MVP")
      .hardwareModeNotEnabled)
  else .ok {
    taskId, objectId, pickupZone, deliveryZone, mode, description,
    hasTaskId := noTaskId, hasObjectId := noObjectId, enabled := hardware }

theorem Task.new_self (task : Task) :
    Task.new task.taskId task.objectId task.pickupZone task.deliveryZone task.mode
      task.description = .ok task := by
  unfold Task.new
  rw [dif_neg task.hasTaskId, dif_neg task.hasObjectId, dif_neg task.enabled]

theorem fields_of_taskNew {taskId objectId description : PyStr} {pickup delivery : Zone}
    {executionMode : ExecutionMode} {task : Task}
    (made : Task.new taskId objectId pickup delivery executionMode description = .ok task) :
    task.taskId = taskId ∧ task.objectId = objectId ∧ task.description = description ∧
      task.pickupZone = pickup ∧ task.deliveryZone = delivery := by
  unfold Task.new at made
  split at made
  · cases made
  · split at made
    · cases made
    · split at made
      · cases made
      · cases made
        exact ⟨rfl, rfl, rfl, rfl, rfl⟩

theorem cube_named : py "VALERA-CUBE-001" ≠ [] := by decide

/-! ## Values of the standard library -/

/-- `f"{number:03d}"`. -/
def paddedNumber (number : ℤ) : Except Exception PyStr :=
  let digits := Digit.decimal number.natAbs
  let sign := if number < 0 then ['-'] else []
  if intMaxStrDigits < digits.length then
    .error (.valueError (py "Exceeds the limit (4300 digits) for integer string conversion"))
  else
    .ok (ofChars (sign ++ List.replicate (3 - sign.length - digits.length) '0' ++
      digits.map Digit.char))

theorem paddedNumber_ok {number : ℤ} (small : number.natAbs < 10 ^ intMaxStrDigits) :
    ∃ text, paddedNumber number = .ok text :=
  ⟨_, if_neg (not_lt.mpr (Digit.length_decimal_le (by decide) small))⟩

/-- A `tzinfo` by its `utcoffset`, in microseconds. -/
structure TzInfo where
  utcoffset : ℤ

def TzInfo.utc : TzInfo := ⟨0⟩

/-- `datetime.max`, in microseconds behind `datetime.min`. -/
def datetimeMax : ℤ := 3652059 * 86400 * 1000000 - 1

/-- A `datetime`: its own clock, in microseconds behind `datetime.min`, and its time zone. -/
structure DateTime where
  clock : ℤ
  tzinfo : Option TzInfo
  inRange : 0 ≤ clock ∧ clock ≤ datetimeMax

/-- `value.replace(tzinfo=timezone.utc)`, if the value has no time zone. -/
def DateTime.orUtc (value : DateTime) : DateTime :=
  { value with tzinfo := some (value.tzinfo.getD .utc) }

/-- `timedelta(seconds=seconds)` and its sum with a `datetime`. -/
def DateTime.addSeconds (value : DateTime) (seconds : ℤ) : Except Exception DateTime :=
  if 999999999 < |seconds / 86400| then .error .overflowError
  else if inRange : 0 ≤ value.clock + seconds * 1000000 ∧
      value.clock + seconds * 1000000 ≤ datetimeMax then
    .ok { clock := value.clock + seconds * 1000000, tzinfo := value.tzinfo, inRange }
  else .error .overflowError

theorem DateTime.addSeconds_ok {value : DateTime} {seconds : ℤ} (nonnegative : 0 ≤ seconds)
    (inRange : value.clock + seconds * 1000000 ≤ datetimeMax) :
    ∃ later, value.addSeconds seconds = .ok later := by
  have start := value.inRange.1
  unfold datetimeMax at inRange
  unfold addSeconds
  rw [if_neg, dif_pos]
  · exact ⟨_, rfl⟩
  · constructor
    · omega
    · exact inRange
  · rw [abs_of_nonneg (by omega)]
    omega

theorem DateTime.addSeconds_beyond {value : DateTime} {seconds : ℤ}
    (beyond : datetimeMax < value.clock + seconds * 1000000) :
    value.addSeconds seconds = .error .overflowError := by
  unfold addSeconds
  split
  · rfl
  · exact dif_neg fun inRange => not_lt.mpr inRange.2 beyond

/-- `date.toordinal` of a year, a month and a day. -/
def ordinal (year month day : ℕ) : ℕ :=
  let leap := decide (year % 4 = 0 ∧ (year % 100 ≠ 0 ∨ year % 400 = 0))
  let before := [0, 31, 59, 90, 120, 151, 181, 212, 243, 273, 304, 334].getD (month - 1) 0
  (year - 1) * 365 + (year - 1) / 4 - (year - 1) / 100 + (year - 1) / 400 + before +
    (if 2 < month ∧ leap then 1 else 0) + day

/-- `datetime(year, month, day, hour, 0, tzinfo=timezone.utc)`. -/
def utcTime (year month day hour : ℕ)
    (inRange : ((ordinal year month day - 1) * 86400 + hour * 3600) * 1000000 ≤
      (3652059 * 86400 * 1000000 - 1 : ℕ) := by decide) : DateTime where
  clock := (((ordinal year month day - 1) * 86400 + hour * 3600) * 1000000 : ℕ)
  tzinfo := some .utc
  inRange := by
    refine ⟨Int.natCast_nonneg _, ?_⟩
    unfold datetimeMax
    omega

/-! ## Dictionaries -/

/-- `pairs[key] = value`. -/
def setItem {K : Type} (pairs : PyPairs K) (member : PyStr × PyJson K) : PyPairs K :=
  if member.1 ∈ pairs.map Prod.fst then
    pairs.map fun other => if other.1 = member.1 then member else other
  else pairs ++ [member]

/-- `pairs | others`. -/
def union {K : Type} (pairs others : PyPairs K) : PyPairs K := others.foldl setItem pairs

/-- A string literal in a payload. -/
def literal {K : Type} (value : String) : PyJson K := .str (py value)

end Robot

end ValeraControlTower

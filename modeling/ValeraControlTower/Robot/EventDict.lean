import ValeraControlTower.Robot.Events

/-!
# Events as dictionaries

`EventEnvelope.to_dict` and what it calls.
-/

namespace ValeraControlTower

open Unicode

namespace Robot

/-! ## `datetime.isoformat` -/

/-- `f"{number:0{width}d}"` of a number that is not negative. -/
def zeroPadded (width number : ℕ) : PyStr :=
  let digits := (Digit.decimal number).map Digit.char
  ofChars (List.replicate (width - digits.length) '0' ++ digits)

def daysInMonth : List ℕ := [31, 28, 31, 30, 31, 30, 31, 31, 30, 31, 30, 31]

def daysBeforeMonth : List ℕ := [0, 31, 59, 90, 120, 151, 181, 212, 243, 273, 304, 334]

/-- `_ord2ymd`: the year, month and day of an ordinal. -/
def ord2ymd (ordinal : ℕ) : ℕ × ℕ × ℕ :=
  let n := ordinal - 1
  let n400 := n / 146097
  let n := n % 146097
  let n100 := n / 36524
  let n := n % 36524
  let n4 := n / 1461
  let n := n % 1461
  let n1 := n / 365
  let n := n % 365
  let year := n400 * 400 + 1 + n100 * 100 + n4 * 4 + n1
  if n1 = 4 ∨ n100 = 4 then (year - 1, 12, 31)
  else
    let leapyear := n1 = 3 ∧ (n4 ≠ 24 ∨ n100 = 3)
    let month := (n + 50) / 32
    let preceding := daysBeforeMonth.getD (month - 1) 0 + if 2 < month ∧ leapyear then 1 else 0
    if n < preceding then
      -- The estimate of the month was one too large.
      let month := month - 1
      let preceding := preceding -
        (daysInMonth.getD (month - 1) 0 + if month = 2 ∧ leapyear then 1 else 0)
      (year, month, n - preceding + 1)
    else (year, month, n - preceding + 1)

/-- `_format_offset`. -/
def formatOffset (offset : ℤ) : PyStr :=
  let sign := if offset < 0 then py "-" else py "+"
  let micros := offset.natAbs
  let seconds := micros / 1000000
  let rest := micros % 1000000
  sign ++ zeroPadded 2 (seconds / 3600) ++ py ":" ++ zeroPadded 2 (seconds / 60 % 60) ++
    if seconds % 60 = 0 ∧ rest = 0 then []
    else py ":" ++ zeroPadded 2 (seconds % 60) ++
      if rest = 0 then [] else py "." ++ zeroPadded 6 rest

/-- `isoformat`. -/
def DateTime.isoformat (value : DateTime) : PyStr :=
  let micros := value.clock.toNat
  let seconds := micros / 1000000
  let (year, month, day) := ord2ymd (seconds / 86400 + 1)
  zeroPadded 4 year ++ py "-" ++ zeroPadded 2 month ++ py "-" ++ zeroPadded 2 day ++ py "T" ++
    zeroPadded 2 (seconds / 3600 % 24) ++ py ":" ++ zeroPadded 2 (seconds / 60 % 60) ++ py ":" ++
    zeroPadded 2 (seconds % 60) ++
    (if micros % 1000000 = 0 then [] else py "." ++ zeroPadded 6 (micros % 1000000)) ++
    match value.tzinfo with
    | none => []
    | some zone => formatOffset zone.utcoffset

example : (utcTime 2026 7 2 12).isoformat = py "2026-07-02T12:00:00+00:00" := by
  decide

/-! ## `to_dict` -/

def FailureCode.value : FailureCode → PyStr
  | objectNotFound => py "object_not_found"
  | markerConfidenceLow => py "marker_confidence_low"
  | pickupUnreachable => py "pickup_unreachable"
  | alignmentFailed => py "alignment_failed"
  | graspFailed => py "grasp_failed"
  | releaseUncertain => py "release_uncertain"
  | manualCancelled => py "manual_cancelled"
  | emergencyStop => py "emergency_stop"
  | hardwareModeNotEnabled => py "hardware_mode_not_enabled"
  | invalidTask => py "invalid_task"

variable {K : Type}

/-- `EvidenceRef.to_dict`. -/
def EvidenceRef.toDict (ref : EvidenceRef) : PyPairs K :=
  [(py "evidence_id", .str ref.evidenceId), (py "relative_path", .str ref.relativePath),
    (py "media_type", .str ref.mediaType), (py "capture_mode", .str ref.captureMode),
    (py "source_adapter", .str ref.sourceAdapter),
      (py "linked_event_id", .str ref.linkedEventId)] ++
  match ref.checksum with
  | none => []
  | some checksum => [(py "checksum", .str checksum)]

/-- `EventEnvelope.to_dict`. -/
def EventEnvelope.toDict (event : EventEnvelope K) : PyPairs K :=
  [(py "event_id", .str event.eventId), (py "task_id", .str event.taskId),
    (py "correlation_id", .str event.correlationId), (py "sequence", .num (.int event.sequence)),
    (py "event_type", .str event.eventType.value),
    (py "occurred_at", .str event.occurredAt.isoformat), (py "source", .str event.source),
    (py "mode", .str event.mode.value), (py "schema_version", .str event.schemaVersion),
    (py "payload", .obj event.payload),
    (py "evidence_refs", .arr (event.evidenceRefs.map fun ref => .obj ref.toDict))] ++
  match event.error with
  | none => []
  | some error =>
      [(py "error", .obj [(py "code", .str error.code.value), (py "message", .str error.message)])]

end Robot

end ValeraControlTower

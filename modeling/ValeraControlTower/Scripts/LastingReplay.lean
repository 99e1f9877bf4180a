import ValeraControlTower.Robot.LiveCamera
import ValeraControlTower.Robot.PhysicalLog
import ValeraControlTower.Scripts.ReplayFile

/-!
# Replays that last

The replay of a physical demo is read back as the log that was written.
-/

namespace ValeraControlTower

open Unicode Json Robot

namespace Scripts

variable {K : Type} {M : FloatMath K}

/-! ## Values -/

/-- A value that comes back as it was, once it is written. -/
structure Lasting (M : FloatMath K) (value : PyJson K) : Prop where
  strings : value.Strings Joined
  numbers : value.Numbers (FloatReturns M)
  distinct : value.DistinctKeys

theorem joined_of_plain {text : PyStr} (plain : PlainText text) : Joined text := by
  obtain ⟨chars, rfl⟩ := plain
  exact codePoints_utf16 chars

@[simp]
theorem lasting_str {text : PyStr} (plain : PlainText text) :
    Lasting M (.str text : PyJson K) :=
  ⟨joined_of_plain plain, trivial, trivial⟩

@[simp]
theorem lasting_literal (text : String) : Lasting M (literal text : PyJson K) :=
  lasting_str (.py text)

@[simp]
theorem lasting_int (number : ℤ) : Lasting M (.num (.int number) : PyJson K) :=
  ⟨trivial, floatReturns_int M number, trivial⟩

@[simp]
theorem lasting_arr {items : List (PyJson K)} :
    Lasting M (.arr items) ↔ ∀ item ∈ items, Lasting M item := by
  induction items with
  | nil => exact iff_of_true ⟨trivial, trivial, trivial⟩ (List.forall_mem_nil _)
  | cons item items inductionHypothesis =>
      rw [List.forall_mem_cons, ← inductionHypothesis]
      constructor
      · intro ⟨strings, numbers, distinct⟩
        exact ⟨⟨strings.1, numbers.1, distinct.1⟩, strings.2, numbers.2, distinct.2⟩
      · intro ⟨first, rest⟩
        exact ⟨⟨first.strings, rest.strings⟩, ⟨first.numbers, rest.numbers⟩, first.distinct,
          rest.distinct⟩

/-- A member with a key that lasts, and a value. -/
def LastingMember (M : FloatMath K) (member : PyStr × PyJson K) : Prop :=
  Joined member.1 ∧ Lasting M member.2

theorem lasting_obj {members : PyPairs K} :
    Lasting M (.obj members) ↔
      (members.map Prod.fst).Nodup ∧ ∀ member ∈ members, LastingMember M member := by
  have each : Tree.StringsMembers Joined members ∧ Tree.NumbersMembers (FloatReturns M) members ∧
      Tree.DistinctKeysMembers members ↔ ∀ member ∈ members, LastingMember M member := by
    induction members with
    | nil => exact iff_of_true ⟨trivial, trivial, trivial⟩ (List.forall_mem_nil _)
    | cons member members inductionHypothesis =>
        rw [List.forall_mem_cons, ← inductionHypothesis]
        constructor
        · intro ⟨⟨key, string, strings⟩, ⟨number, numbers⟩, distinct, others⟩
          exact ⟨⟨key, string, number, distinct⟩, strings, numbers, others⟩
        · intro ⟨⟨key, string, number, distinct⟩, strings, numbers, others⟩
          exact ⟨⟨key, string, strings⟩, ⟨number, numbers⟩, distinct, others⟩
  rw [← each]
  constructor
  · intro ⟨strings, numbers, distinct, others⟩
    exact ⟨distinct, strings, numbers, others⟩
  · intro ⟨distinct, strings, numbers, others⟩
    exact ⟨strings, numbers, distinct, others⟩

/-- A member with a fixed key. -/
@[simp]
theorem lastingMember_py {key : String} {value : PyJson K} :
    LastingMember M (py key, value) ↔ Lasting M value :=
  and_iff_right (joined_of_plain (.py key))

/-- A payload that is put together lasts. -/
theorem lasting_union {pairs others : PyPairs K} (lasting : Lasting M (.obj pairs))
    (each : ∀ member ∈ others, LastingMember M member) :
    Lasting M (.obj (union pairs others)) := by
  unfold union
  induction others generalizing pairs with
  | nil => exact lasting
  | cons member others inductionHypothesis =>
      obtain ⟨lastingMember, each⟩ := List.forall_mem_cons.mp each
      apply inductionHypothesis _ each
      obtain ⟨distinct, members⟩ := lasting_obj.mp lasting
      apply lasting_obj.mpr
      by_cases known : member.1 ∈ pairs.map Prod.fst
      · rw [setItem, if_pos known]
        constructor
        · have sameKeys : (pairs.map fun other => if other.1 = member.1 then member else other).map
              Prod.fst = pairs.map Prod.fst := by
            rw [List.map_map]
            apply List.map_congr_left
            intro other _
            by_cases same : other.1 = member.1 <;> simp [same]
          rw [sameKeys]
          exact distinct
        · intro other membership
          obtain ⟨earlier, inside, rfl⟩ := List.mem_map.mp membership
          split
          · exact lastingMember
          · exact members earlier inside
      · rw [setItem_new known, List.map_append, List.nodup_append]
        refine ⟨⟨distinct, List.nodup_singleton _, ?_⟩,
          List.forall_mem_append.mpr ⟨members, List.forall_mem_singleton.mpr lastingMember⟩⟩
        intro key inside other isOther same
        rw [List.map_singleton, List.mem_singleton] at isOther
        rw [same, isOther] at inside
        exact known inside

/-! ## Events -/

/-- A reference of plain texts. -/
structure PlainRef (ref : EvidenceRef) : Prop where
  evidenceId : PlainText ref.evidenceId
  relativePath : PlainText ref.relativePath
  mediaType : PlainText ref.mediaType
  captureMode : PlainText ref.captureMode
  sourceAdapter : PlainText ref.sourceAdapter
  linkedEventId : PlainText ref.linkedEventId
  checksum : ∀ checksum ∈ ref.checksum, PlainText checksum

theorem PlainRef.lasting {ref : EvidenceRef} (plain : PlainRef ref) :
    Lasting M (.obj ref.toDict : PyJson K) := by
  refine lasting_obj.mpr ⟨(distinctKeys_evidenceRef ref).1, ?_⟩
  unfold EvidenceRef.toDict
  rw [List.forall_mem_append]
  constructor
  · simp [plain.evidenceId, plain.relativePath, plain.mediaType, plain.captureMode,
      plain.sourceAdapter, plain.linkedEventId]
  · cases checked : ref.checksum with
    | none => exact List.forall_mem_nil _
    | some checksum => simp [plain.checksum checksum checked]

/-- An event of plain texts whose payload lasts. -/
structure LastingEvent (M : FloatMath K) (event : EventFields K) : Prop where
  eventId : PlainText event.eventId
  taskId : PlainText event.taskId
  correlationId : PlainText event.correlationId
  source : PlainText event.source
  schemaVersion : PlainText event.schemaVersion
  payload : Lasting M (.obj event.payload)
  evidenceRefs : ∀ ref ∈ event.evidenceRefs, PlainRef ref
  error : ∀ error ∈ event.error, PlainText error.message

theorem lasting_toDict {event : EventEnvelope K} (lasts : LastingEvent M event.toEventFields) :
    Lasting M (.obj event.toDict) := by
  refine lasting_obj.mpr ⟨(distinctKeys_toDict.mpr lasts.payload.distinct).1, ?_⟩
  have refs : ∀ ref ∈ event.evidenceRefs, Lasting M (.obj ref.toDict : PyJson K) :=
    fun ref inside => (lasts.evidenceRefs ref inside).lasting
  unfold EventEnvelope.toDict
  rw [List.forall_mem_append]
  constructor
  · simpa [lasts.eventId, lasts.taskId, lasts.correlationId, lasts.source, lasts.schemaVersion,
      lasts.payload] using refs
  · cases failed : event.error with
    | none => exact List.forall_mem_nil _
    | some error =>
        have pair : ([py "code", py "message"] : List PyStr).Nodup := by decide
        rw [List.forall_mem_singleton, lastingMember_py]
        refine lasting_obj.mpr ⟨pair, ?_⟩
        simp [lasts.error error failed]

/-- The replay of events that last is read back as the log. -/
theorem loads_replayText {host : Dashboard.Host K} {room : ℕ} {eventLog : TaskEventLog K}
    {text : PyStr} (written : replayText host room eventLog = .ok text)
    (lasting : ∀ event ∈ eventLog.events, LastingEvent host.math event.toEventFields)
    (stackLevels : ℕ) :
    loads host.math stackLevels text =
      if stackLevels < (replayEvents eventLog).nesting then .error .recursionError
      else .ok (replayEvents eventLog) := by
  obtain ⟨lines, isText, isEnd⟩ := bind_eq_ok written
  cases isEnd
  have lasts : Lasting host.math (replayEvents eventLog) := by
    apply lasting_arr.mpr
    intro item membership
    obtain ⟨event, inside, rfl⟩ := List.mem_map.mp membership
    exact lasting_toDict (lasting event inside)
  rw [loads_dumps isText lasts.numbers, (reread_eq_iff _).mpr ⟨lasts.strings, lasts.distinct⟩]

end Scripts

end ValeraControlTower

import ValeraControlTower.Library.Failures
import ValeraControlTower.Scripts.PhysicalDemoOutput

/-!
# What the check of a physical demo raises

The check reports a bad replay with its own exception, but for four kinds of them: a text that
trips `json.loads` itself, a list of thirteen values that are not all objects, timestamps of which
only some have a time zone, and an evidence path that the file system does not take.
-/

namespace ValeraControlTower

open Unicode Json LexicalPath Robot Failures

namespace Scripts

variable {K : Type}

/-! ## Reported failures -/

/-- The call returns, or raises the exception of the script. -/
def Reports {α : Type} (outcome : Except CheckException α) : Prop :=
  (∃ value, outcome = .ok value) ∨ ∃ message, outcome = .error (.physicalDemoOutputError message)

instance {α : Type} (outcome : Except CheckException α) : Decidable (Reports outcome) :=
  match outcome with
  | .ok value => .isTrue (.inl ⟨value, rfl⟩)
  | .error (.physicalDemoOutputError message) => .isTrue (.inr ⟨message, rfl⟩)
  | .error .attributeError => .isFalse (by simp [Reports])
  | .error .typeError => .isFalse (by simp [Reports])
  | .error .osError => .isFalse (by simp [Reports])
  | .error (.raisedByLoads _) => .isFalse (by simp [Reports])

/-- The exception of the script. -/
def IsReport : CheckException → Prop
  | .physicalDemoOutputError _ => True
  | _ => False

section Escapes

variable {α β : Type}

theorem reports_iff {outcome : Except CheckException α} :
    Reports outcome ↔ ¬Escapes IsReport outcome := by
  cases outcome with
  | ok value => exact iff_of_true (.inl ⟨value, rfl⟩) (not_escapes_ok value)
  | error exception => cases exception <;> simp [Reports, IsReport]

theorem not_escapes_error (message : PyStr) :
    ¬Escapes IsReport (.error (.physicalDemoOutputError message) : Except CheckException α) := by
  simp [IsReport]

theorem escapes_require_bind {condition : Bool} {message : PyStr}
    {next : Unit → Except CheckException β} :
    Escapes IsReport (require condition message >>= next) ↔
      condition = true ∧ Escapes IsReport (next ()) :=
  escapes_check_bind trivial

theorem require_bind_eq_ok {condition : Bool} {message : PyStr}
    {next : Unit → Except CheckException β} {value : β} :
    (require condition message >>= next) = .ok value ↔ condition = true ∧ next () = .ok value :=
  check_bind_eq_ok

theorem Guarded.require {Named : Type} {Right : Named → Prop}
    {behind : Named → Except CheckException α} {condition : Bool} {message : PyStr}
    {next : Unit → Except CheckException α} (needed : ∀ named, Right named → condition = true)
    (rest : condition = true → Guarded IsReport Right behind (next ())) :
    Guarded IsReport Right behind (Scripts.require condition message >>= next) :=
  .check trivial needed rest

end Escapes

/-! ## Objects -/

/-- A value with the method `get`. -/
def IsObject (value : PyJson K) : Prop := ∃ members, value = .obj members

/-- What an object has for a key. -/
def field (key : String) : PyJson K → PyJson K
  | .obj members => Dashboard.get members key .null
  | _ => .null

theorem callGet_of_isObject {value : PyJson K} (isObject : IsObject value) (key : String) :
    callGet value key = .ok (field key value) := by
  obtain ⟨members, rfl⟩ := isObject
  rfl

theorem callGet_of_not_isObject {value : PyJson K} (noObject : ¬IsObject value) (key : String) :
    callGet value key = .error .attributeError := by
  cases value with
  | obj members => exact absurd ⟨members, rfl⟩ noObject
  | null | bool _ | num _ | str _ | arr _ => rfl

theorem getEach_of_isObject {events : List (PyJson K)} (objects : ∀ event ∈ events, IsObject event)
    (key : String) : getEach key events = .ok (events.map (field key)) := by
  induction events with
  | nil => rfl
  | cons event events inductionHypothesis =>
      obtain ⟨first, rest⟩ := List.forall_mem_cons.mp objects
      rw [getEach, callGet_of_isObject first, inductionHypothesis rest]
      rfl

theorem getEach_of_not_isObject {events : List (PyJson K)}
    (noObject : ¬∀ event ∈ events, IsObject event) (key : String) :
    getEach key events = .error .attributeError := by
  induction events with
  | nil => exact absurd (fun _ => nofun) noObject
  | cons event events inductionHypothesis =>
      rw [getEach]
      by_cases first : IsObject event
      · have rest : ¬∀ event ∈ events, IsObject event := fun rest =>
          noObject (List.forall_mem_cons.mpr ⟨first, rest⟩)
        rw [callGet_of_isObject first, inductionHypothesis rest]
        rfl
      · rw [callGet_of_not_isObject first]
        rfl

/-! ## Times -/

/-- The time of an event, if it has a valid one. -/
def timeOf (host : CheckHost K) (event : PyJson K) : Option DateTime :=
  match field "occurred_at" event with
  | .str rawValue => host.fromisoformat (replaceZ rawValue)
  | _ => none

/-- Only one of the times has a time zone. -/
def Mixed (first second : DateTime) : Prop := ¬(first.tzinfo = none ↔ second.tzinfo = none)

/-- The second time can be compared with the first and is not before it. -/
def InOrder (first second : DateTime) : Prop := isBefore second first = .ok false

/-- All times are valid, and each is in order with the next. -/
inductive AllInOrder : List (Option DateTime) → Prop
  | nil : AllInOrder []
  | single (time : DateTime) : AllInOrder [some time]
  | cons {first second : DateTime} {times : List (Option DateTime)} (inOrder : InOrder first second)
      (rest : AllInOrder (some second :: times)) : AllInOrder (some first :: some second :: times)

/-- The times are in order up to one that cannot be compared with the next. -/
inductive MixesTimes : List (Option DateTime) → Prop
  | here {first second : DateTime} {times : List (Option DateTime)} (mixed : Mixed first second) :
      MixesTimes (some first :: some second :: times)
  | later {first second : DateTime} {times : List (Option DateTime)}
      (inOrder : InOrder first second) (rest : MixesTimes (some second :: times)) :
      MixesTimes (some first :: some second :: times)

theorem isBefore_of_mixed {first second : DateTime} (mixed : Mixed first second) :
    isBefore second first = .error .typeError := by
  unfold Mixed at mixed
  unfold isBefore
  cases noZone : first.tzinfo with
  | none =>
      cases noZone' : second.tzinfo with
      | none => exact absurd (by simp [noZone, noZone']) mixed
      | some _ => rfl
  | some _ =>
      cases noZone' : second.tzinfo with
      | none => rfl
      | some _ => exact absurd (by simp [noZone, noZone']) mixed

theorem isBefore_of_not_mixed {first second : DateTime} (alike : ¬Mixed first second) :
    ∃ before, isBefore second first = .ok before := by
  unfold Mixed at alike
  unfold isBefore
  cases noZone : first.tzinfo with
  | none =>
      cases noZone' : second.tzinfo with
      | none => exact ⟨_, rfl⟩
      | some _ => exact absurd (by simp [noZone, noZone']) alike
  | some _ =>
      cases noZone' : second.tzinfo with
      | none => exact absurd (by simp [noZone, noZone']) alike
      | some _ => exact ⟨_, rfl⟩

/-- One round of the loop over the times. -/
theorem monotonic_cons (host : CheckHost K) (previous : Option DateTime) {event : PyJson K}
    (isObject : IsObject event) (events : List (PyJson K)) :
    (timeOf host event = none ∧
      ∃ message, occurredAtValuesAreMonotonic host previous (event :: events) =
        .error (.physicalDemoOutputError message)) ∨
      ∃ current, timeOf host event = some current ∧
        occurredAtValuesAreMonotonic host previous (event :: events) =
          match previous with
          | none => occurredAtValuesAreMonotonic host (some current) events
          | some earlier => isBefore current earlier >>= fun before =>
              if before then .ok false
              else occurredAtValuesAreMonotonic host (some current) events := by
  rw [occurredAtValuesAreMonotonic, callGet_of_isObject isObject, timeOf]
  cases field "occurred_at" event with
  | str rawValue =>
      cases read : host.fromisoformat (replaceZ rawValue) with
      | none => exact .inl ⟨read, _, by simp [bind, Except.bind, read]; rfl⟩
      | some current => exact .inr ⟨current, read, by simp [bind, Except.bind, read]; rfl⟩
  | null | bool _ | num _ | arr _ | obj _ => exact .inl ⟨rfl, _, rfl⟩

@[simp]
theorem allInOrder_cons_cons {first second : DateTime} {times : List (Option DateTime)} :
    AllInOrder (some first :: some second :: times) ↔
      InOrder first second ∧ AllInOrder (some second :: times) := by
  constructor
  · intro all
    cases all with
    | cons inOrder rest => exact ⟨inOrder, rest⟩
  · intro ⟨inOrder, rest⟩
    exact .cons inOrder rest

@[simp]
theorem mixesTimes_cons_cons {first second : DateTime} {times : List (Option DateTime)} :
    MixesTimes (some first :: some second :: times) ↔
      Mixed first second ∨ InOrder first second ∧ MixesTimes (some second :: times) := by
  constructor
  · intro mixes
    cases mixes with
    | here mixed => exact .inl mixed
    | later inOrder rest => exact .inr ⟨inOrder, rest⟩
  · intro mixes
    rcases mixes with mixed | ⟨inOrder, rest⟩
    · exact .here mixed
    · exact .later inOrder rest

/-- A time that is not valid ends both. -/
theorem not_allInOrder_none (previous : Option DateTime) (times : List (Option DateTime)) :
    ¬AllInOrder (previous.toList.map some ++ none :: times) := by
  intro all
  cases previous with
  | none => cases all
  | some earlier => cases all

theorem not_mixesTimes_none (previous : Option DateTime) (times : List (Option DateTime)) :
    ¬MixesTimes (previous.toList.map some ++ none :: times) := by
  intro mixes
  cases previous with
  | none => cases mixes
  | some earlier => cases mixes

/-- The loop over the times escapes at a time that cannot be compared with the one before. -/
theorem monotonic_run (host : CheckHost K) {events : List (PyJson K)}
    (objects : ∀ event ∈ events, IsObject event) (previous : Option DateTime) :
    (Escapes IsReport (occurredAtValuesAreMonotonic host previous events) ↔
        MixesTimes (previous.toList.map some ++ events.map (timeOf host))) ∧
      (occurredAtValuesAreMonotonic host previous events = .ok true ↔
        AllInOrder (previous.toList.map some ++ events.map (timeOf host))) := by
  induction events generalizing previous with
  | nil =>
      have escapes : ¬Escapes IsReport (occurredAtValuesAreMonotonic host previous []) :=
        not_escapes_ok true
      cases previous with
      | none =>
          have mixes : ¬MixesTimes [] := nofun
          exact ⟨iff_of_false escapes mixes, iff_of_true rfl .nil⟩
      | some earlier =>
          have mixes : ¬MixesTimes [some earlier] := nofun
          exact ⟨iff_of_false escapes mixes, iff_of_true rfl (.single earlier)⟩
  | cons event events inductionHypothesis =>
      obtain ⟨isObject, objects⟩ := List.forall_mem_cons.mp objects
      rw [List.map_cons]
      rcases monotonic_cons host previous isObject events with
        ⟨noTime, message, raised⟩ | ⟨current, time, step⟩
      · rw [noTime, raised]
        exact ⟨iff_of_false (not_escapes_error message) (not_mixesTimes_none previous _),
          iff_of_false nofun (not_allInOrder_none previous _)⟩
      · rw [time, step]
        have rest := inductionHypothesis objects (some current)
        rw [Option.toList_some, List.map_singleton, List.singleton_append] at rest
        cases previous with
        | none => exact rest
        | some earlier =>
            rw [Option.toList_some, List.map_singleton, List.singleton_append,
              mixesTimes_cons_cons, allInOrder_cons_cons]
            by_cases mixed : Mixed earlier current
            · have compared := isBefore_of_mixed mixed
              have notInOrder : ¬InOrder earlier current := by simp [InOrder, compared]
              simp [compared, mixed, notInOrder, IsReport, bind, Except.bind]
            · obtain ⟨before, compared⟩ := isBefore_of_not_mixed mixed
              have inOrder : InOrder earlier current ↔ before = false := by
                simp [InOrder, compared]
              cases before with
              | true => simp [compared, mixed, inOrder, bind, Except.bind]
              | false => simpa [compared, mixed, inOrder, bind, Except.bind] using rest

/-! ## Evidence -/

/-- A reference that passes every check in front of the one of its file. -/
structure RightRef (ref : PyJson K) (relativePath : PyStr) : Prop where
  isObject : IsObject ref
  sourceAdapter : Dashboard.isText (field "source_adapter" ref) liveCameraSource = true
  mediaType : Dashboard.isText (field "media_type" ref) "image/png" = true
  path : field "relative_path" ref = .str relativePath
  isRelative : (parse posix relativePath).isAbsolute = false
  noParent : py ".." ∉ (parse posix relativePath).parts
  below : (parse posix relativePath).isRelativeTo (parse posix (py "data/evidence")) = true
  isPng : suffixOf (parse posix relativePath) = py ".png"

/-- The file system does not take the path of a reference, and no reference before it is refused. -/
inductive MeetsOsError (host : CheckHost K) (projectRoot : PyStr) : List (PyJson K) → Prop
  | here {ref : PyJson K} {relativePath : PyStr} {refs : List (PyJson K)}
      (right : RightRef ref relativePath)
      (raised : host.isFile (Scripts.below projectRoot relativePath) = none) :
      MeetsOsError host projectRoot (ref :: refs)
  | later {ref : PyJson K} {relativePath : PyStr} {refs : List (PyJson K)}
      (right : RightRef ref relativePath)
      (isFile : host.isFile (Scripts.below projectRoot relativePath) = some true)
      (rest : MeetsOsError host projectRoot refs) : MeetsOsError host projectRoot (ref :: refs)

theorem validateEvidenceRef_guarded (host : CheckHost K) (projectRoot : PyStr) (ref : PyJson K) :
    Guarded IsReport (RightRef ref) (checkFile host projectRoot)
      (validateEvidenceRef host projectRoot ref) := by
  cases ref with
  | null | bool _ | num _ | str _ | arr _ =>
      exact .refuses (fun _ right => (nomatch right.isObject)) trivial
  | obj members =>
      unfold validateEvidenceRef
      rw [requireDict, ok_bind]
      apply Guarded.require fun _ right => right.sourceAdapter
      intro sourceAdapter
      apply Guarded.require fun _ right => right.mediaType
      intro mediaType
      cases path : Dashboard.get members "relative_path" .null with
      | null | bool _ | num _ | arr _ | obj _ =>
          refine .refuses (fun _ right => ?_) trivial
          cases path.symm.trans right.path
      | str relativePath =>
          have same (other : PyStr) (right : RightRef (.obj members) other) :
              relativePath = other := by
            cases path.symm.trans right.path
            rfl
          apply Guarded.require fun other right => by simp [same other right, right.isRelative]
          intro isRelative
          apply Guarded.require fun other right => by simp [same other right, right.noParent]
          intro noParent
          apply Guarded.require fun other right => by simp [same other right, right.below]
          intro below
          apply Guarded.require fun other right => by simp [same other right, right.isPng]
          intro isPng
          refine @Guarded.passes _ _ _ IsReport _ _ relativePath ?_
          exact {
            isObject := ⟨members, rfl⟩
            sourceAdapter, mediaType, path
            isRelative := by simpa using isRelative
            noParent := by simpa using noParent
            below
            isPng := by simpa using isPng }

theorem RightRef.unique {ref : PyJson K} (relativePath other : PyStr)
    (right : RightRef ref relativePath) (right' : RightRef ref other) : relativePath = other := by
  cases right.path.symm.trans right'.path
  rfl

theorem escapes_checkFile {host : CheckHost K} {projectRoot relativePath : PyStr} :
    Escapes IsReport (checkFile host projectRoot relativePath) ↔
      host.isFile (below projectRoot relativePath) = none := by
  simp only [checkFile]
  cases host.isFile (below projectRoot relativePath) with
  | none => exact iff_of_true (escapes_error.mpr id) rfl
  | some isFile =>
      refine iff_of_false (fun escapes => ?_) nofun
      exact not_escapes_ok _ (escapes_require_bind.mp escapes).2

theorem checkFile_eq_ok {host : CheckHost K} {projectRoot relativePath : PyStr} :
    (∃ file, checkFile host projectRoot relativePath = .ok file) ↔
      host.isFile (below projectRoot relativePath) = some true := by
  simp only [checkFile]
  cases host.isFile (below projectRoot relativePath) with
  | none => exact iff_of_false (fun ⟨_, returned⟩ => nomatch returned) nofun
  | some isFile =>
      rw [Option.some.injEq]
      constructor
      · intro ⟨_, returned⟩
        exact (require_bind_eq_ok.mp returned).1
      · intro isFile
        exact ⟨_, require_bind_eq_ok.mpr ⟨isFile, rfl⟩⟩

theorem escapes_validateEach {host : CheckHost K} {projectRoot : PyStr} {refs : List (PyJson K)} :
    Escapes IsReport (validateEach host projectRoot refs) ↔ MeetsOsError host projectRoot refs := by
  induction refs with
  | nil => exact iff_of_false (not_escapes_ok []) nofun
  | cons ref refs inductionHypothesis =>
      have guarded := validateEvidenceRef_guarded host projectRoot ref
      rw [validateEach, escapes_bind, guarded.escapes RightRef.unique]
      simp only [escapes_map, escapes_checkFile, inductionHypothesis,
        guarded.eq_ok RightRef.unique]
      constructor
      · intro escapes
        rcases escapes with ⟨_, right, raised⟩ | ⟨file, ⟨_, right, returned⟩, rest⟩
        · exact .here right raised
        · exact .later right (checkFile_eq_ok.mp ⟨file, returned⟩) rest
      · intro meets
        cases meets with
        | here right raised => exact .inl ⟨_, right, raised⟩
        | later right isFile rest =>
            obtain ⟨file, returned⟩ := checkFile_eq_ok.mpr isFile
            exact .inr ⟨file, ⟨_, right, returned⟩, rest⟩

theorem escapes_validateEvidenceRefs {host : CheckHost K} {projectRoot : PyStr}
    {refs : List (PyJson K)} :
    Escapes IsReport (validateEvidenceRefs host projectRoot refs) ↔
      MeetsOsError host projectRoot refs := by
  unfold validateEvidenceRefs
  rw [escapes_bind, escapes_validateEach]
  constructor
  · intro escapes
    rcases escapes with meets | ⟨files, _, escapes⟩
    · exact meets
    · have counted := (escapes_require_bind.mp escapes).2
      exact absurd (escapes_require_bind.mp counted).2 (not_escapes_ok _)
  · exact .inl

theorem not_escapes_validateDashboard (html : PyStr) (texts : List (String × String)) :
    ¬Escapes IsReport (validateDashboard html texts) := by
  induction texts with
  | nil => exact not_escapes_ok ()
  | cons text texts inductionHypothesis =>
      intro escapes
      exact inductionHypothesis (escapes_require_bind.mp escapes).2

/-! ## The replay -/

theorem equalsEach_getLast {α : Type} {equals : PyJson K → α → Bool} {values : List (PyJson K)}
    {expected : List α} {last : α} (same : equalsEach equals values expected = true)
    (isLast : expected.getLast? = some last) :
    ∃ value, values.getLast? = some value ∧ equals value last = true := by
  induction values generalizing expected with
  | nil =>
      cases expected with
      | nil => cases isLast
      | cons _ _ => cases same
  | cons value values inductionHypothesis =>
      cases expected with
      | nil => cases same
      | cons first rest =>
          rw [equalsEach, Bool.and_eq_true] at same
          cases rest with
          | nil =>
              cases isLast
              cases values with
              | nil => exact ⟨value, rfl, same.1⟩
              | cons _ _ => cases same.2
          | cons second rest =>
              rw [List.getLast?_cons_cons] at isLast
              obtain ⟨found, isLast, equal⟩ := inductionHypothesis same.2 isLast
              refine ⟨found, ?_, equal⟩
              cases values with
              | nil => cases isLast
              | cons _ _ => rw [List.getLast?_cons_cons, isLast]

theorem mem_of_getElem?_six {events : List (PyJson K)}
    (length : events.length = expectedEventTypes.length) : events[6]?.getD .null ∈ events := by
  have short : 6 < events.length := by
    rw [length]
    decide
  rw [List.getElem?_eq_getElem short]
  exact List.getElem_mem short

variable [IntCast K] [DecidableEq K]

/-- An `object.found` event that passes the checks of its members. -/
structure RightFind (expectedMarkerId : ℤ) (event : PyJson K) (refs : List (PyJson K)) : Prop where
  eventType : Dashboard.isText (field "event_type" event) "object.found" = true
  source : Dashboard.isText (field "source" event) liveCameraSource = true
  mode : Dashboard.isText (field "mode" event) "real_vision" = true
  payload : IsObject (field "payload" event)
  objectId : Dashboard.isText (field "object_id" (field "payload" event)) "VALERA-CUBE-001" = true
  markerId : equalsNumber (field "marker_id" (field "payload" event)) expectedMarkerId = true
  detectionScore : equalsNumber (field "detection_score" (field "payload" event)) 1 = true
  status : Dashboard.isText (field "status" (field "payload" event)) "found" = true
  evidenceRefs : field "evidence_refs" event = .arr refs
  two : refs.length = 2

theorem RightFind.unique {expectedMarkerId : ℤ} {event : PyJson K} (refs other : List (PyJson K))
    (right : RightFind expectedMarkerId event refs)
    (right' : RightFind expectedMarkerId event other) : refs = other := by
  cases right.evidenceRefs.symm.trans right'.evidenceRefs
  rfl

theorem checkObjectFound_guarded (expectedMarkerId : ℤ) {event : PyJson K}
    (isObject : IsObject event) :
    Guarded IsReport (RightFind expectedMarkerId event) .ok
      (checkObjectFound expectedMarkerId event) := by
  unfold checkObjectFound
  simp only [callGet_of_isObject isObject, ok_bind]
  apply Guarded.require fun _ right => right.eventType
  intro eventType
  apply Guarded.require fun _ right => right.source
  intro source
  apply Guarded.require fun _ right => right.mode
  intro mode
  cases payload : field "payload" event with
  | null | bool _ | num _ | str _ | arr _ =>
      refine .refuses (fun _ right => ?_) trivial
      obtain ⟨_, isObject⟩ := right.payload
      cases payload.symm.trans isObject
  | obj members =>
      have inside (key : String) :
          field key (field "payload" event) = Dashboard.get members key .null := by
        rw [payload]
        rfl
      rw [requireDict, ok_bind]
      apply Guarded.require fun _ right => inside _ ▸ right.objectId
      intro objectId
      apply Guarded.require fun _ right => inside _ ▸ right.markerId
      intro markerId
      apply Guarded.require fun _ right => inside _ ▸ right.detectionScore
      intro detectionScore
      apply Guarded.require fun _ right => inside _ ▸ right.status
      intro status
      cases evidenceRefs : field "evidence_refs" event with
      | null | bool _ | num _ | str _ | obj _ =>
          refine .refuses (fun _ right => ?_) trivial
          cases evidenceRefs.symm.trans right.evidenceRefs
      | arr refs =>
          rw [requireList, ok_bind]
          refine Guarded.require (fun other right => ?_) fun two => ?_
          · cases evidenceRefs.symm.trans right.evidenceRefs
            exact decide_eq_true right.two
          · refine @Guarded.passes _ _ _ IsReport _ _ refs ?_
            exact {
              eventType, source, mode, evidenceRefs
              payload := ⟨members, payload⟩
              objectId := inside _ ▸ objectId
              markerId := inside _ ▸ markerId
              detectionScore := inside _ ▸ detectionScore
              status := inside _ ▸ status
              two := of_decide_eq_true two }

/-- Thirteen objects with the sequences and the types of a run that went well. -/
structure RightEvents (events : List (PyJson K)) : Prop where
  length : events.length = expectedEventTypes.length
  objects : ∀ event ∈ events, IsObject event
  sequences : equalsEach equalsNumber (events.map (field "sequence"))
    ((List.range' 1 13).map Int.ofNat) = true
  eventTypes :
    equalsEach Dashboard.isText (events.map (field "event_type")) expectedEventTypes = true

/-- The last event of a run that went well is a completion, so that its status is completed. -/
theorem RightEvents.last {events : List (PyJson K)} (right : RightEvents events) :
    callGet (events.getLast?.getD .null) "event_type" =
        .ok (field "event_type" (events.getLast?.getD .null)) ∧
      Dashboard.isText (field "event_type" (events.getLast?.getD .null)) "task.completed" = true ∧
      finalStatus (events.getLast?.getD .null) = .ok "completed" := by
  have isLast : expectedEventTypes.getLast? = some "task.completed" := rfl
  obtain ⟨eventType, isLast, completed⟩ := equalsEach_getLast right.eventTypes isLast
  rw [List.getLast?_map] at isLast
  cases found : events.getLast? with
  | none =>
      rw [found] at isLast
      cases isLast
  | some event =>
      rw [found] at isLast
      cases isLast
      have isObject := right.objects event (List.mem_of_getLast? found)
      refine ⟨callGet_of_isObject isObject _, completed, ?_⟩
      simp only [finalStatus, Option.getD_some, callGet_of_isObject isObject, ok_bind, completed,
        Bool.true_or, if_true]
      rfl

/-- Behind the types of the events, a check escapes at the times or at an evidence path. -/
theorem escapes_checkEvents {host : CheckHost K} {projectRoot : PyStr} {expectedMarkerId : ℤ}
    {events : List (PyJson K)} (right : RightEvents events) :
    Escapes IsReport (checkEvents host projectRoot expectedMarkerId events) ↔
      MixesTimes (events.map (timeOf host)) ∨
        AllInOrder (events.map (timeOf host)) ∧ ∃ refs,
          RightFind expectedMarkerId (events[6]?.getD .null) refs ∧
            MeetsOsError host projectRoot refs := by
  obtain ⟨lastType, completed, status⟩ := right.last
  have times := monotonic_run host right.objects none
  rw [Option.toList_none, List.map_nil, List.nil_append] at times
  obtain ⟨escapes, inOrder⟩ := times
  have isObject := right.objects _ (mem_of_getElem?_six right.length)
  have guarded := checkObjectFound_guarded expectedMarkerId isObject
  have found : Escapes IsReport (checkObjectFound expectedMarkerId (events[6]?.getD .null) >>=
      validateEvidenceRefs host projectRoot) ↔ ∃ refs,
        RightFind expectedMarkerId (events[6]?.getD .null) refs ∧
          MeetsOsError host projectRoot refs := by
    simp [escapes_bind, guarded.escapes RightFind.unique, guarded.eq_ok RightFind.unique,
      escapes_validateEvidenceRefs]
  simp only [checkEvents]
  rw [lastType, ok_bind, escapes_require_bind, status, ok_bind, escapes_require_bind,
    escapes_bind]
  simp only [escapes_require_bind, found, completed, decide_true, true_and]
  rw [escapes, ← inOrder]
  constructor
  · intro escapes
    rcases escapes with mixes | ⟨_, returned, rfl, meets⟩
    · exact .inl mixes
    · exact .inr ⟨returned, meets⟩
  · intro escapes
    rcases escapes with mixes | ⟨returned, meets⟩
    · exact .inl mixes
    · exact .inr ⟨true, returned, rfl, meets⟩

/-- A list of events that makes the check raise an exception of Python. -/
inductive MeetsException (host : CheckHost K) (projectRoot : PyStr) (expectedMarkerId : ℤ)
    (events : List (PyJson K)) : Prop
  | noObject (length : events.length = expectedEventTypes.length)
      (noObject : ¬∀ event ∈ events, IsObject event)
  | mixedTimes (right : RightEvents events) (mixes : MixesTimes (events.map (timeOf host)))
  | evidencePath (right : RightEvents events) (inOrder : AllInOrder (events.map (timeOf host)))
      (refs : List (PyJson K)) (found : RightFind expectedMarkerId (events[6]?.getD .null) refs)
      (meets : MeetsOsError host projectRoot refs)

theorem escapes_checkReplay {host : CheckHost K} {projectRoot : PyStr} {expectedMarkerId : ℤ}
    {events : List (PyJson K)} :
    Escapes IsReport (checkReplay host projectRoot expectedMarkerId (.arr events)) ↔
      MeetsException host projectRoot expectedMarkerId events := by
  unfold checkReplay
  rw [requireList, ok_bind, escapes_require_bind, decide_eq_true_iff]
  by_cases objects : ∀ event ∈ events, IsObject event
  · simp only [getEach_of_isObject objects, ok_bind, escapes_require_bind, escapes_map]
    constructor
    · intro ⟨length, sequences, eventTypes, escapes⟩
      have right : RightEvents events := ⟨length, objects, sequences, eventTypes⟩
      rcases (escapes_checkEvents right).mp escapes with mixes | ⟨inOrder, refs, found, meets⟩
      · exact .mixedTimes right mixes
      · exact .evidencePath right inOrder refs found meets
    · intro meets
      cases meets with
      | noObject _ noObject => exact absurd objects noObject
      | mixedTimes right mixes =>
          exact ⟨right.length, right.sequences, right.eventTypes,
            (escapes_checkEvents right).mpr (.inl mixes)⟩
      | evidencePath right inOrder refs found meets =>
          exact ⟨right.length, right.sequences, right.eventTypes,
            (escapes_checkEvents right).mpr (.inr ⟨inOrder, refs, found, meets⟩)⟩
  · rw [getEach_of_not_isObject objects, escapes_bind]
    constructor
    · intro ⟨length, _⟩
      exact .noObject length objects
    · intro meets
      cases meets with
      | noObject length _ => exact ⟨length, .inl (escapes_error.mpr id)⟩
      | mixedTimes right _ => exact absurd right.objects objects
      | evidencePath right _ _ _ _ => exact absurd right.objects objects

/-! ## The check -/

/-- The stored replay that makes the check of a demo raise an exception of Python. -/
inductive Stumbles (host : CheckHost K) (projectRoot : PyStr) (expectedMarkerId : ℤ) : Prop
  | loads (replayText html : PyStr) (exception : PyException)
      (replay : host.replay = some replayText) (dashboard : host.dashboard = some html)
      (raised : Scripts.loads host.math host.stackLevels replayText = .error exception)
      (other : ∀ message, exception ≠ .jsonDecodeError message)
  | events (replayText html : PyStr) (events : List (PyJson K))
      (replay : host.replay = some replayText) (dashboard : host.dashboard = some html)
      (loaded : Scripts.loads host.math host.stackLevels replayText = .ok (.arr events))
      (meets : MeetsException host projectRoot expectedMarkerId events)

theorem not_stumbles_of_no_replay {host : CheckHost K} {projectRoot : PyStr}
    {expectedMarkerId : ℤ} (missing : host.replay = none) :
    ¬Stumbles host projectRoot expectedMarkerId := by
  intro stumbles
  cases stumbles with
  | loads _ _ _ replay => cases missing.symm.trans replay
  | events _ _ _ replay => cases missing.symm.trans replay

theorem not_stumbles_of_no_dashboard {host : CheckHost K} {projectRoot : PyStr}
    {expectedMarkerId : ℤ} (missing : host.dashboard = none) :
    ¬Stumbles host projectRoot expectedMarkerId := by
  intro stumbles
  cases stumbles with
  | loads _ _ _ _ dashboard => cases missing.symm.trans dashboard
  | events _ _ _ _ dashboard => cases missing.symm.trans dashboard

theorem stumbles_iff {host : CheckHost K} {projectRoot replayText html : PyStr}
    {expectedMarkerId : ℤ} (replay : host.replay = some replayText)
    (dashboard : host.dashboard = some html) :
    Stumbles host projectRoot expectedMarkerId ↔
      (∃ exception, loads host.math host.stackLevels replayText = .error exception ∧
        ∀ message, exception ≠ .jsonDecodeError message) ∨
      ∃ events, loads host.math host.stackLevels replayText = .ok (.arr events) ∧
        MeetsException host projectRoot expectedMarkerId events := by
  constructor
  · intro stumbles
    cases stumbles with
    | loads _ _ exception stored _ raised other =>
        cases replay.symm.trans stored
        exact .inl ⟨exception, raised, other⟩
    | events _ _ events stored _ loaded meets =>
        cases replay.symm.trans stored
        exact .inr ⟨events, loaded, meets⟩
  · intro stumbles
    rcases stumbles with ⟨exception, raised, other⟩ | ⟨events, loaded, meets⟩
    · exact .loads replayText html exception replay dashboard raised other
    · exact .events replayText html events replay dashboard loaded meets

theorem escapes_checkPhysicalDemoOutput {host : CheckHost K} {projectRoot taskId : PyStr}
    {expectedMarkerId : ℤ} :
    Escapes IsReport (checkPhysicalDemoOutput host projectRoot taskId expectedMarkerId) ↔
      Stumbles host projectRoot expectedMarkerId := by
  simp only [checkPhysicalDemoOutput]
  cases replay : host.replay with
  | none => exact iff_of_false (not_escapes_error _) (not_stumbles_of_no_replay replay)
  | some replayText =>
  cases dashboard : host.dashboard with
  | none => exact iff_of_false (not_escapes_error _) (not_stumbles_of_no_dashboard dashboard)
  | some html =>
  rw [stumbles_iff replay dashboard]
  dsimp only
  cases loaded : loads host.math host.stackLevels replayText with
  | error exception =>
      have noEvents : ¬∃ events, (.error exception : Except PyException (PyJson K)) =
          .ok (.arr events) ∧ MeetsException host projectRoot expectedMarkerId events := by
        simp
      rw [or_iff_left noEvents]
      cases exception with
      | jsonDecodeError message =>
          apply iff_of_false (not_escapes_error _)
          intro ⟨_, raised, other⟩
          exact other message (Except.error.inj raised).symm
      | messageValidationError _ | wireError _ | attributeError | typeError | valueError
      | overflowError | unicodeEncodeError | recursionError =>
          exact iff_of_true (escapes_error.mpr id) ⟨_, rfl, fun _ => nofun⟩
  | ok value =>
      have noException : ¬∃ exception, (.ok value : Except PyException (PyJson K)) =
          .error exception ∧ ∀ message, exception ≠ .jsonDecodeError message := by
        simp
      rw [or_iff_right noException]
      have rest : Escapes IsReport (checkReplay host projectRoot expectedMarkerId value) ↔
          ∃ events, (.ok value : Except PyException (PyJson K)) = .ok (.arr events) ∧
            MeetsException host projectRoot expectedMarkerId events := by
        cases value with
        | arr events => simp [escapes_checkReplay]
        | null | bool _ | num _ | str _ | obj _ =>
            exact iff_of_false (not_escapes_error _) fun ⟨_, isList, _⟩ => (nomatch isList)
      rw [← rest]
      constructor
      · intro escapes
        rcases escapes_bind.mp escapes with escapes | ⟨_, _, escapes⟩
        · exact escapes
        · exact absurd (escapes_map.mp escapes) (not_escapes_validateDashboard html dashboardTexts)
      · exact fun escapes => escapes_bind.mpr (.inl escapes)

/-- A line that tells the result is printed. -/
def PrintsVerdict (outcome : Except CheckException (List PyStr × ℕ)) : Prop :=
  ∃ lines code, outcome = .ok (py "PASS: Physical demo output verification" :: lines, code) ∨
    outcome = .ok (py "FAIL: Physical demo output verification" :: lines, code)

theorem main_printsVerdict {host : CheckHost K} {projectRoot taskId : PyStr}
    {expectedMarkerId : ℤ} :
    PrintsVerdict (main host projectRoot taskId expectedMarkerId) ↔
      Reports (checkPhysicalDemoOutput host projectRoot taskId expectedMarkerId) := by
  unfold main
  cases checkPhysicalDemoOutput host projectRoot taskId expectedMarkerId with
  | ok result => exact iff_of_true ⟨_, _, .inl rfl⟩ (.inl ⟨result, rfl⟩)
  | error exception =>
      cases exception with
      | physicalDemoOutputError message =>
          exact iff_of_true ⟨_, _, .inr rfl⟩ (.inr ⟨message, rfl⟩)
      | attributeError | typeError | osError | raisedByLoads _ =>
          apply iff_of_false _ fun reports => reports_iff.mp reports (escapes_error.mpr id)
          intro ⟨_, _, printed⟩
          rcases printed with printed | printed
          · cases printed
          · cases printed

/-- The check returns or reports, and `main` tells which, unless the stored replay stumbles. -/
theorem checkPhysicalDemoOutput_reports_iff (host : CheckHost K) (projectRoot taskId : PyStr)
    (expectedMarkerId : ℤ) :
    (Reports (checkPhysicalDemoOutput host projectRoot taskId expectedMarkerId) ∧
        PrintsVerdict (main host projectRoot taskId expectedMarkerId)) ↔
      ¬Stumbles host projectRoot expectedMarkerId := by
  rw [main_printsVerdict, and_self,
    ← @escapes_checkPhysicalDemoOutput K _ _ host projectRoot taskId]
  exact reports_iff

/-- A replay of thirteen numbers. -/
def numbersHost : CheckHost ℚ where
  math := FloatMath.axis
  stackLevels := 1000
  fromisoformat _ := none
  replay := some (py "[1,1,1,1,1,1,1,1,1,1,1,1,1]")
  dashboard := some []
  isFile _ := some false

/-- Numbers have no method `get`. -/
theorem not_always_reports :
    ¬∀ (host : CheckHost ℚ) (projectRoot taskId : PyStr) (expectedMarkerId : ℤ),
      Reports (checkPhysicalDemoOutput host projectRoot taskId expectedMarkerId) ∧
        PrintsVerdict (main host projectRoot taskId expectedMarkerId) := by
  intro always
  have reports := (always numbersHost (py "/project") (py "physical-demo-001") 7).1
  exact absurd reports (by decide +kernel)

end Scripts

end ValeraControlTower

import ValeraControlTower.Library.LexicalPath
import ValeraControlTower.Robot.Models

/-!
# `robot/evidence.py`

A reference lies in the evidence directory of its task, unless the task id or the evidence
id has a root or a parent segment; then it is refused.
-/

namespace ValeraControlTower

open Unicode LexicalPath

namespace Robot

/-! ## Paths -/

/-- The alphabet of `PurePosixPath`. -/
def posix : Alphabet CodePoint := ⟨CodePoint.ofChar '/', CodePoint.ofChar '.', by decide⟩

/-- `EVIDENCE_ROOT`. -/
def evidenceRoot : PyStr := py "data/evidence"

/-- `f"{evidence_id}-{variant}.png"`. -/
def evidenceFile (evidenceId variant : PyStr) : PyStr :=
    evidenceId ++ py "-" ++ variant ++ py ".png"

/-- The path of an evidence file. -/
def evidencePath (taskId evidenceId variant : PyStr) : PyStr :=
  (parse posix (join posix (join posix evidenceRoot taskId) (evidenceFile evidenceId variant))).str
    posix

/-! ## References -/

structure EvidenceRef where
  evidenceId : PyStr
  relativePath : PyStr
  mediaType : PyStr
  captureMode : PyStr
  sourceAdapter : PyStr
  linkedEventId : PyStr
  checksum : Option PyStr

namespace EvidenceRef

/-- The strings `__post_init__` requires. -/
def requiredStrings (ref : EvidenceRef) : List (String × PyStr) :=
  [("evidence_id", ref.evidenceId), ("relative_path", ref.relativePath),
    ("media_type", ref.mediaType), ("capture_mode", ref.captureMode),
    ("source_adapter", ref.sourceAdapter), ("linked_event_id", ref.linkedEventId)]

/-- `EvidenceRef(...)`, with its `__post_init__`. -/
def new (ref : EvidenceRef) : Except Exception EvidenceRef := do
  requireStrings ref.requiredStrings
  let path := parse posix ref.relativePath
  if path.isAbsolute then throw (.invalid (py "relative_path must be relative"))
  if py ".." ∈ path.parts then
    throw (.invalid (py "relative_path must not contain parent traversal"))
  return ref

/-- `validate_for_task`. -/
def validateForTask (ref : EvidenceRef) (taskId : PyStr) : Except Exception Unit :=
  let expectedPrefix := parse posix (join posix evidenceRoot taskId)
  if (parse posix ref.relativePath).isRelativeTo expectedPrefix then .ok ()
  else .error (.invalid (py "relative_path must stay under " ++ expectedPrefix.str posix))

/-- `local_path`. -/
def localPath (ref : EvidenceRef) (basePath : PyStr) : PyStr :=
  (parse posix (join posix basePath ref.relativePath)).str posix

end EvidenceRef

/-- `create_evidence_ref`, without a checksum. -/
def createEvidenceRef (taskId evidenceId variant mediaType captureMode sourceAdapter
    linkedEventId : PyStr) : Except Exception EvidenceRef := do
  if taskId = [] then throw (.invalid (py "task_id is required"))
  if variant = [] then throw (.invalid (py "variant is required"))
  if posix.separator ∈ variant ∨ CodePoint.ofChar '\\' ∈ variant ∨ variant = py ".." then
    throw (.invalid (py "variant must be a simple filename segment"))
  let evidence ← EvidenceRef.new {
    evidenceId
    relativePath := evidencePath taskId evidenceId variant
    mediaType, captureMode, sourceAdapter, linkedEventId
    checksum := none }
  evidence.validateForTask taskId
  return evidence

/-! ## Which references are made -/

/-- A relative path without parent segments. -/
structure StaysInside (path : PyStr) : Prop where
  relative : path.head? ≠ some posix.separator
  noParent : py ".." ∉ segments posix path

theorem segments_evidenceRoot : segments posix evidenceRoot = [py "data", py "evidence"] := by
  decide

/-- The path of an evidence file whose ids are relative. -/
theorem parse_evidencePath {taskId evidenceId variant : PyStr}
    (relative : taskId.head? ≠ some posix.separator)
    (relativeFile : (evidenceFile evidenceId variant).head? ≠ some posix.separator) :
    parse posix (evidencePath taskId evidenceId variant) =
      ⟨[], segments posix evidenceRoot ++ segments posix taskId ++
        segments posix (evidenceFile evidenceId variant)⟩ := by
  have starts : (join posix evidenceRoot taskId).head? = some (CodePoint.ofChar 'd') :=
    head?_join (by decide) relative
  have nonempty : join posix evidenceRoot taskId ≠ [] := by
    intro empty
    rw [empty] at starts
    cases starts
  have isRelative : splitRoot posix (join posix (join posix evidenceRoot taskId)
      (evidenceFile evidenceId variant)) = [] := by
    rw [splitRoot_eq_nil, head?_join nonempty relativeFile, starts]
    decide
  unfold evidencePath
  rw [parse_str_parse]
  unfold parse
  rw [isRelative, segments_join relativeFile, segments_join relative]

theorem isAbsolute_evidencePath {taskId evidenceId variant : PyStr}
    (rooted : taskId.head? = some posix.separator ∨
      (evidenceFile evidenceId variant).head? = some posix.separator) :
    (parse posix (evidencePath taskId evidenceId variant)).isAbsolute = true := by
  apply isAbsolute_parse_str
  by_cases rootedFile : (evidenceFile evidenceId variant).head? = some posix.separator
  · unfold join
    rw [if_pos rootedFile, rootedFile]
  · have rootedTask := rooted.resolve_right rootedFile
    have isTask : join posix evidenceRoot taskId = taskId := if_pos rootedTask
    have nonempty : taskId ≠ [] := by
      rintro rfl
      cases rootedTask
    rw [isTask, head?_join nonempty rootedFile, rootedTask]

/-- The reference that is made. -/
def madeRef (taskId evidenceId variant mediaType captureMode sourceAdapter
    linkedEventId : PyStr) : EvidenceRef where
  evidenceId
  relativePath := evidencePath taskId evidenceId variant
  mediaType
  captureMode
  sourceAdapter
  linkedEventId
  checksum := none

section Made

variable {taskId evidenceId variant mediaType captureMode sourceAdapter linkedEventId : PyStr}

/-- The strings of a reference are there. -/
theorem EvidenceRef.new_eq_ok {ref made : EvidenceRef}
    (hasStrings : ∀ field ∈ ref.requiredStrings, field.2 ≠ []) :
    EvidenceRef.new ref = .ok made ↔ ref = made ∧ (parse posix ref.relativePath).root = [] ∧
      py ".." ∉ (parse posix ref.relativePath).tail := by
  unfold EvidenceRef.new
  rw [requireStrings_eq_ok.mpr hasStrings]
  change (if (parse posix ref.relativePath).isAbsolute = true then _ else _) = _ ↔ _
  unfold Path.isAbsolute Path.parts
  by_cases relative : (parse posix ref.relativePath).root = []
  · by_cases parent : py ".." ∈ (parse posix ref.relativePath).tail
    · simp [relative, parent, throw, throwThe, MonadExceptOf.throw, bind, Except.bind]
    · simp [relative, parent, pure, Except.pure]
  · simp [relative, throw, throwThe, MonadExceptOf.throw, bind, Except.bind]

theorem validateForTask_made (task : StaysInside taskId)
    (file : StaysInside (evidenceFile evidenceId variant)) :
    (madeRef taskId evidenceId variant mediaType captureMode sourceAdapter
      linkedEventId).validateForTask taskId = .ok () := by
  have isPrefix : parse posix (join posix evidenceRoot taskId) =
      ⟨[], segments posix evidenceRoot ++ segments posix taskId⟩ := by
    unfold parse
    rw [segments_join task.relative, splitRoot_eq_nil.mpr]
    rw [head?_join (by decide) task.relative]
    decide
  have inside : (parse posix (evidencePath taskId evidenceId variant)).isRelativeTo
      (parse posix (join posix evidenceRoot taskId)) = true := by
    rw [parse_evidencePath task.relative file.relative, isPrefix]
    simp [Path.isRelativeTo]
  exact if_pos inside

/-- The references that are made are those whose ids stay inside. -/
theorem createEvidenceRef_eq_ok {made : EvidenceRef} (hasTask : taskId ≠ [])
    (hasVariant : variant ≠ [])
    (plainVariant : ¬(posix.separator ∈ variant ∨ CodePoint.ofChar '\\' ∈ variant ∨
      variant = py ".."))
    (hasStrings : ∀ field ∈ (madeRef taskId evidenceId variant mediaType captureMode sourceAdapter
      linkedEventId).requiredStrings, field.2 ≠ []) :
    createEvidenceRef taskId evidenceId variant mediaType captureMode sourceAdapter linkedEventId =
        .ok made ↔
      made = madeRef taskId evidenceId variant mediaType captureMode sourceAdapter linkedEventId ∧
        StaysInside taskId ∧ StaysInside (evidenceFile evidenceId variant) := by
  unfold createEvidenceRef
  rw [if_neg hasTask, if_neg hasVariant, if_neg plainVariant]
  change (EvidenceRef.new (madeRef taskId evidenceId variant mediaType captureMode sourceAdapter
    linkedEventId) >>= fun evidence => evidence.validateForTask taskId >>= fun _ => .ok evidence) =
      .ok made ↔ _
  constructor
  · intro returned
    obtain ⟨evidence, isNew, returned⟩ := bind_eq_ok returned
    obtain ⟨_, _, returned⟩ := bind_eq_ok returned
    obtain ⟨rfl, noRoot, noParent⟩ := (EvidenceRef.new_eq_ok hasStrings).mp isNew
    cases returned
    have relative : ¬(taskId.head? = some posix.separator ∨
        (evidenceFile evidenceId variant).head? = some posix.separator) := fun rooted =>
      of_decide_eq_true (isAbsolute_evidencePath rooted) noRoot
    rw [not_or] at relative
    change py ".." ∉ (parse posix (evidencePath taskId evidenceId variant)).tail at noParent
    rw [parse_evidencePath relative.1 relative.2] at noParent
    simp only [List.mem_append, not_or] at noParent
    exact ⟨rfl, ⟨relative.1, noParent.1.2⟩, relative.2, noParent.2⟩
  · rintro ⟨rfl, task, file⟩
    have isPath := parse_evidencePath task.relative file.relative
    have made : EvidenceRef.new (madeRef taskId evidenceId variant mediaType captureMode
        sourceAdapter linkedEventId) = .ok (madeRef taskId evidenceId variant mediaType
          captureMode sourceAdapter linkedEventId) := by
      refine (EvidenceRef.new_eq_ok hasStrings).mpr ⟨rfl, ?_, ?_⟩
      · exact congrArg Path.root isPath
      · change py ".." ∉ (parse posix (evidencePath taskId evidenceId variant)).tail
        rw [isPath]
        simp only [List.mem_append, not_or]
        exact ⟨⟨by decide, task.noParent⟩, file.noParent⟩
    rw [made]
    change (EvidenceRef.validateForTask _ taskId >>= fun _ => _) = _
    rw [validateForTask_made task file]
    rfl

end Made

end Robot

end ValeraControlTower

import ValeraControlTower.Dashboard.EvidenceLinks

/-!
# Where evidence files lie

A reference that is made lies in the directory of its task, and the dashboard links it.  Its
file is named by the directories and the name its ids end up with, so that ids which divide
one path differently share a file.
-/

namespace ValeraControlTower

open Unicode LexicalPath

namespace Robot

variable {taskId evidenceId variant mediaType captureMode sourceAdapter linkedEventId : PyStr}
  {made : EvidenceRef}

/-! ## References that are made -/

/-- What the arguments of a reference that is made are like. -/
structure Accepted (taskId evidenceId variant : PyStr) : Prop where
  hasTask : taskId ≠ []
  whole : posix.separator ∉ variant
  insideTask : StaysInside taskId
  insideFile : StaysInside (evidenceFile evidenceId variant)

theorem EvidenceRef.hasStrings_of_new {ref : EvidenceRef}
    (isNew : EvidenceRef.new ref = .ok made) : ∀ field ∈ ref.requiredStrings, field.2 ≠ [] := by
  obtain ⟨_, strings, _⟩ := bind_eq_ok isNew
  exact requireStrings_eq_ok.mp strings

/-- A reference that is returned. -/
theorem accepted_of_createEvidenceRef (returned : createEvidenceRef taskId evidenceId variant
      mediaType captureMode sourceAdapter linkedEventId = .ok made) :
    Accepted taskId evidenceId variant ∧
      made =
        madeRef taskId evidenceId variant mediaType captureMode sourceAdapter linkedEventId := by
  have again := returned
  unfold createEvidenceRef at again
  by_cases hasTask : taskId = []
  · simp [hasTask, throw, throwThe, MonadExceptOf.throw, bind, Except.bind] at again
  · by_cases hasVariant : variant = []
    · simp [hasTask, hasVariant, throw, throwThe, MonadExceptOf.throw, bind, Except.bind] at again
    · by_cases special : posix.separator ∈ variant ∨ CodePoint.ofChar '\\' ∈ variant ∨
          variant = py ".."
      · simp only [hasTask, hasVariant, special, throw, throwThe, MonadExceptOf.throw, bind,
          Except.bind, if_true, if_false] at again
        cases again
      · rw [if_neg hasTask, if_neg hasVariant, if_neg special] at again
        obtain ⟨_, isNew, _⟩ := bind_eq_ok again
        have hasStrings := EvidenceRef.hasStrings_of_new isNew
        obtain ⟨isMade, insideTask, insideFile⟩ :=
          (createEvidenceRef_eq_ok hasTask hasVariant special hasStrings).mp returned
        exact ⟨⟨hasTask, fun slash => special (.inl slash), insideTask, insideFile⟩, isMade⟩

/-- The path of an accepted reference. -/
theorem Accepted.parse_eq (accepted : Accepted taskId evidenceId variant) :
    parse posix (evidencePath taskId evidenceId variant) =
      ⟨[], segments posix evidenceRoot ++ segments posix taskId ++
        segments posix (evidenceFile evidenceId variant)⟩ :=
  parse_evidencePath accepted.insideTask.relative accepted.insideFile.relative

/-! ## The name of the file -/

/-- What the variant puts behind an evidence id. -/
def fileEnd (variant : PyStr) : PyStr := py "-" ++ variant ++ py ".png"

theorem evidenceFile_eq (evidenceId variant : PyStr) :
    evidenceFile evidenceId variant = evidenceId ++ fileEnd variant := by
  unfold evidenceFile fileEnd
  rw [List.append_assoc, List.append_assoc, List.append_assoc]

/-- The directories in front of the last piece of an id. -/
def folderOf (evidenceId : PyStr) : PyStr :=
  (evidenceId.reverse.dropWhile (· ≠ posix.separator)).reverse

/-- The last piece of an id. -/
def nameOf (evidenceId : PyStr) : PyStr :=
  (evidenceId.reverse.takeWhile (· ≠ posix.separator)).reverse

theorem folderOf_append_nameOf (evidenceId : PyStr) :
    folderOf evidenceId ++ nameOf evidenceId = evidenceId := by
  unfold folderOf nameOf
  rw [← List.reverse_append, List.takeWhile_append_dropWhile, List.reverse_reverse]

theorem whole_nameOf (evidenceId : PyStr) : posix.separator ∉ nameOf evidenceId := by
  intro slash
  have kept := List.mem_takeWhile_imp (List.mem_reverse.mp slash)
  simp at kept

/-- The folder of an id is empty or ends with a separator. -/
theorem folderOf_ends (evidenceId : PyStr) : folderOf evidenceId = [] ∨
    ∃ before, folderOf evidenceId = before ++ [posix.separator] := by
  unfold folderOf
  cases rest : evidenceId.reverse.dropWhile (· ≠ posix.separator) with
  | nil => exact .inl rfl
  | cons symbol others =>
      have stops := List.head?_dropWhile_not (· ≠ posix.separator) evidenceId.reverse
      rw [rest] at stops
      have isSlash : symbol = posix.separator := by simpa using stops
      exact .inr ⟨others.reverse, by rw [isSlash, List.reverse_cons]⟩

/-- The last segment of an evidence file. -/
theorem isSegment_name (whole : posix.separator ∉ variant) (evidenceId : PyStr) :
    IsSegment posix (nameOf evidenceId ++ fileEnd variant) := by
  have long : 5 ≤ (nameOf evidenceId ++ fileEnd variant).length := by
    have short : (py ".png").length = 4 := by decide
    have hyphen : (py "-").length = 1 := by decide
    simp only [fileEnd, List.length_append, short, hyphen]
    omega
  have ending : posix.separator ∉ py ".png" := by decide
  have hyphen : posix.separator ∉ py "-" := by decide
  refine ⟨?_, ?_, ?_⟩
  · intro empty
    rw [empty] at long
    cases long
  · intro dot
    rw [dot] at long
    simp at long
  · simp only [fileEnd, List.mem_append, not_or]
    exact ⟨whole_nameOf evidenceId, ⟨hyphen, whole⟩, ending⟩

/-- The segments of an evidence file: its folders and its name. -/
theorem segments_evidenceFile (whole : posix.separator ∉ variant) (evidenceId : PyStr) :
    segments posix (evidenceFile evidenceId variant) =
      segments posix (folderOf evidenceId) ++ [nameOf evidenceId ++ fileEnd variant] := by
  have name := isSegment_name whole evidenceId
  have cut : evidenceFile evidenceId variant =
      folderOf evidenceId ++ (nameOf evidenceId ++ fileEnd variant) := by
    rw [evidenceFile_eq, ← List.append_assoc, folderOf_append_nameOf]
  rw [cut]
  rcases folderOf_ends evidenceId with empty | ⟨before, ends⟩
  · rw [empty, List.nil_append, segments_nil, List.nil_append, segments_single name]
  · rw [ends, List.append_assoc, List.singleton_append, segments_append_separator,
      segments_append_separator, segments_nil, List.append_nil, segments_single name]

/-! ## Evidence stays in the directory of its task -/

/-- The file of a reference lies in the directory of its task, below every base path, and the
dashboard takes it for safe. -/
structure LiesInside (made : EvidenceRef) (taskId : PyStr) : Prop where
  relative : (parse posix made.relativePath).isAbsolute = false
  noParent : py ".." ∉ (parse posix made.relativePath).parts
  parts : ∃ rest, rest ≠ [] ∧ (parse posix made.relativePath).parts =
    [py "data", py "evidence"] ++ (parse posix taskId).parts ++ rest
  inside : ∀ basePath, (parse posix (made.localPath basePath)).isRelativeTo
    (parse posix (join posix (join posix basePath evidenceRoot) taskId)) = true
  safe : Dashboard.isSafeEvidencePath made.relativePath = true

/-- Every reference that is returned lies inside. -/
theorem createEvidenceRef_liesInside (returned : createEvidenceRef taskId evidenceId variant
      mediaType captureMode sourceAdapter linkedEventId = .ok made) : LiesInside made taskId := by
  obtain ⟨accepted, rfl⟩ := accepted_of_createEvidenceRef returned
  have isPath := accepted.parse_eq
  change parse posix (madeRef taskId evidenceId variant mediaType captureMode sourceAdapter
    linkedEventId).relativePath = _ at isPath
  generalize madeRef taskId evidenceId variant mediaType captureMode sourceAdapter
    linkedEventId = made at isPath returned ⊢
  have relative : made.relativePath.head? ≠ some posix.separator :=
    splitRoot_eq_nil.mp (congrArg LexicalPath.Path.root isPath)
  have isSegments : segments posix made.relativePath = segments posix evidenceRoot ++
      segments posix taskId ++ segments posix (evidenceFile evidenceId variant) :=
    congrArg LexicalPath.Path.tail isPath
  have noParent : py ".." ∉ segments posix made.relativePath := by
    rw [isSegments]
    simp only [List.mem_append, not_or]
    exact ⟨⟨by decide, accepted.insideTask.noParent⟩, accepted.insideFile.noParent⟩
  have taskParts : (parse posix taskId).parts = segments posix taskId :=
    if_pos (splitRoot_eq_nil.mpr accepted.insideTask.relative)
  have isParts : (parse posix made.relativePath).parts = segments posix made.relativePath :=
    if_pos (splitRoot_eq_nil.mpr relative)
  have relativeRoot : evidenceRoot.head? ≠ some posix.separator := by decide
  refine ⟨?_, ?_, ⟨segments posix (evidenceFile evidenceId variant), ?_, ?_⟩, ?_, ?_⟩
  · rw [isPath]
    rfl
  · rw [isParts]
    exact noParent
  · rw [segments_evidenceFile accepted.whole]
    simp
  · rw [isParts, taskParts, isSegments, segments_evidenceRoot]
  · intro basePath
    unfold EvidenceRef.localPath
    rw [parse_str_parse]
    unfold parse
    rw [splitRoot_join relative, segments_join relative,
      splitRoot_join accepted.insideTask.relative, segments_join accepted.insideTask.relative,
      splitRoot_join relativeRoot, segments_join relativeRoot, isSegments]
    simp [Path.isRelativeTo, List.append_assoc]
  · rw [Dashboard.isSafeEvidencePath_iff, isSegments]
    rw [isSegments] at noParent
    exact ⟨relative, noParent, by rw [List.append_assoc]; exact List.prefix_append _ _⟩

/-- The reference of a detection, for a variant. -/
def visionRef (variant : PyStr) : EvidenceRef :=
  madeRef (py "task-001") (py "task-001-vision") variant (py "image/png") (py "real_vision")
    (py "valera") (py "task-001-event")

theorem createEvidenceRef_raw : createEvidenceRef (py "task-001") (py "task-001-vision") (py "raw")
    (py "image/png") (py "real_vision") (py "valera") (py "task-001-event") =
      .ok (visionRef (py "raw")) :=
  (createEvidenceRef_eq_ok (by decide) (by decide) (by decide) (by decide)).mpr
    ⟨rfl, ⟨by decide, by decide⟩, by decide, by decide⟩

theorem createEvidenceRef_annotated : createEvidenceRef (py "task-001") (py "task-001-vision")
    (py "annotated") (py "image/png") (py "real_vision") (py "valera") (py "task-001-event") =
      .ok (visionRef (py "annotated")) :=
  (createEvidenceRef_eq_ok (by decide) (by decide) (by decide) (by decide)).mpr
    ⟨rfl, ⟨by decide, by decide⟩, by decide, by decide⟩

theorem createEvidenceRef_liesInside_raw : LiesInside (visionRef (py "raw")) (py "task-001") :=
  createEvidenceRef_liesInside createEvidenceRef_raw

/-! ## Which ids share a file -/

section Shared

variable
  {taskId' evidenceId' variant' mediaType' captureMode' sourceAdapter' linkedEventId' : PyStr}
  {made' : EvidenceRef}

/-- The relative paths of two references denote one file. -/
def SameFile (made made' : EvidenceRef) : Prop :=
  parse posix made.relativePath = parse posix made'.relativePath

/-- Two triples of ids that divide one path: the folders agree, and so do the names. -/
def SharesFile (taskId evidenceId variant taskId' evidenceId' variant' : PyStr) : Prop :=
  segments posix taskId ++ segments posix (folderOf evidenceId) =
      segments posix taskId' ++ segments posix (folderOf evidenceId') ∧
    nameOf evidenceId ++ py "-" ++ variant = nameOf evidenceId' ++ py "-" ++ variant'

/-- Ids that are single segments, and a variant without a hyphen. -/
structure Plain (taskId evidenceId variant : PyStr) : Prop where
  task : IsSegment posix taskId
  evidence : IsSegment posix evidenceId
  noHyphen : CodePoint.ofChar '-' ∉ variant

theorem Accepted.sameFile_iff (accepted : Accepted taskId evidenceId variant)
    (accepted' : Accepted taskId' evidenceId' variant') :
    parse posix (evidencePath taskId evidenceId variant) =
        parse posix (evidencePath taskId' evidenceId' variant') ↔
      SharesFile taskId evidenceId variant taskId' evidenceId' variant' := by
  have folder : ∀ first second third : List PyStr, ∀ name : PyStr,
      first ++ second ++ (third ++ [name]) = first ++ (second ++ third ++ [name]) := by
    intro first second third name
    simp only [List.append_assoc]
  have names : ∀ name word : PyStr, name ++ fileEnd word = name ++ py "-" ++ word ++ py ".png" := by
    intro name word
    simp only [fileEnd, List.append_assoc]
  rw [accepted.parse_eq, accepted'.parse_eq, segments_evidenceFile accepted.whole,
    segments_evidenceFile accepted'.whole, LexicalPath.Path.mk.injEq, and_iff_right rfl, folder,
    folder, List.append_cancel_left_eq, List.append_singleton_inj, names, names,
    List.append_cancel_right_eq]
  rfl

/-- A single segment has no folder. -/
theorem folderOf_single {evidenceId : PyStr} (whole : posix.separator ∉ evidenceId) :
    folderOf evidenceId = [] ∧ nameOf evidenceId = evidenceId := by
  have noSlash : ∀ symbol ∈ evidenceId.reverse, decide (symbol ≠ posix.separator) = true := by
    intro symbol membership
    apply decide_eq_true
    rintro rfl
    exact whole (List.mem_reverse.mp membership)
  unfold folderOf nameOf
  constructor
  · rw [List.dropWhile_eq_nil_iff.mpr noSlash]
    rfl
  · rw [List.takeWhile_eq_self_iff.mpr noSlash, List.reverse_reverse]

/-- What stands behind the last hyphen. -/
theorem hyphen_inj {first second word word' : PyStr} (clean : CodePoint.ofChar '-' ∉ word)
    (clean' : CodePoint.ofChar '-' ∉ word')
    (same : first ++ py "-" ++ word = second ++ py "-" ++ word') :
    first = second ∧ word = word' := by
  have cut : ∀ {first word : PyStr}, CodePoint.ofChar '-' ∉ word →
      (first ++ py "-" ++ word).splitOn (CodePoint.ofChar '-') =
        first.splitOn (CodePoint.ofChar '-') ++ [word] := by
    intro first word clean
    have middle : first ++ py "-" ++ word = first ++ CodePoint.ofChar '-' :: word := by
      rw [List.append_assoc]
      rfl
    rw [middle, List.splitOn_append_cons_self, List.splitOn_eq_singleton clean]
  have pieces := congrArg (List.splitOn (CodePoint.ofChar '-')) same
  rw [cut clean, cut clean', List.append_singleton_inj] at pieces
  obtain ⟨_, rfl⟩ := pieces
  simpa using same

theorem Plain.eq_of_sharesFile (plain : Plain taskId evidenceId variant)
    (plain' : Plain taskId' evidenceId' variant')
    (shares : SharesFile taskId evidenceId variant taskId' evidenceId' variant') :
    (taskId, evidenceId, variant) = (taskId', evidenceId', variant') := by
  obtain ⟨folders, names⟩ := shares
  obtain ⟨noFolder, isName⟩ := folderOf_single plain.evidence.whole
  obtain ⟨noFolder', isName'⟩ := folderOf_single plain'.evidence.whole
  rw [noFolder, noFolder', segments_nil, List.append_nil, List.append_nil,
    segments_single plain.task, segments_single plain'.task, List.singleton_inj] at folders
  rw [isName, isName'] at names
  obtain ⟨rfl, rfl⟩ := hyphen_inj plain.noHyphen plain'.noHyphen names
  rw [folders]

/-- Two references denote one file exactly if their ids divide one path; plain ids that differ
never do. -/
theorem sameFile_iff_sharesFile (returned : createEvidenceRef taskId evidenceId variant
      mediaType captureMode sourceAdapter linkedEventId = .ok made)
    (returned' : createEvidenceRef taskId' evidenceId' variant' mediaType' captureMode'
      sourceAdapter' linkedEventId' = .ok made') :
    (SameFile made made' ↔
      SharesFile taskId evidenceId variant taskId' evidenceId' variant') ∧
    (Plain taskId evidenceId variant → Plain taskId' evidenceId' variant' →
      (taskId, evidenceId, variant) ≠ (taskId', evidenceId', variant') →
        ¬SameFile made made') := by
  obtain ⟨accepted, rfl⟩ := accepted_of_createEvidenceRef returned
  obtain ⟨accepted', rfl⟩ := accepted_of_createEvidenceRef returned'
  have same := accepted.sameFile_iff accepted'
  refine ⟨same, fun plain plain' differ sameFile => differ ?_⟩
  exact plain.eq_of_sharesFile plain' (same.mp sameFile)

theorem sameFile_iff_sharesFile_raw :
    ¬SameFile (visionRef (py "raw")) (visionRef (py "annotated")) :=
  (sameFile_iff_sharesFile createEvidenceRef_raw createEvidenceRef_annotated).2
    ⟨⟨by decide, by decide, by decide⟩, ⟨by decide, by decide, by decide⟩, by decide⟩
    ⟨⟨by decide, by decide, by decide⟩, ⟨by decide, by decide, by decide⟩, by decide⟩ (by decide)

/-- A hyphen in the variant can be one of the evidence id. -/
theorem not_always_differentFiles : ¬∀ (taskId evidenceId variant taskId' evidenceId' variant'
      mediaType captureMode sourceAdapter linkedEventId : PyStr) (made made' : EvidenceRef),
    createEvidenceRef taskId evidenceId variant mediaType captureMode sourceAdapter
      linkedEventId = .ok made →
    createEvidenceRef taskId' evidenceId' variant' mediaType captureMode sourceAdapter
      linkedEventId = .ok made' →
    (taskId, evidenceId, variant) ≠ (taskId', evidenceId', variant') → ¬SameFile made made' := by
  intro always
  have first : createEvidenceRef (py "t") (py "a-b") (py "c") (py "image/png") (py "real_vision")
      (py "valera") (py "e") = .ok (madeRef (py "t") (py "a-b") (py "c") (py "image/png")
        (py "real_vision") (py "valera") (py "e")) :=
    (createEvidenceRef_eq_ok (by decide) (by decide) (by decide) (by decide)).mpr
      ⟨rfl, ⟨by decide, by decide⟩, by decide, by decide⟩
  have second : createEvidenceRef (py "t") (py "a") (py "b-c") (py "image/png") (py "real_vision")
      (py "valera") (py "e") = .ok (madeRef (py "t") (py "a") (py "b-c") (py "image/png")
        (py "real_vision") (py "valera") (py "e")) :=
    (createEvidenceRef_eq_ok (by decide) (by decide) (by decide) (by decide)).mpr
      ⟨rfl, ⟨by decide, by decide⟩, by decide, by decide⟩
  exact always _ _ _ _ _ _ _ _ _ _ _ _ first second (by decide) rfl

end Shared

end Robot

end ValeraControlTower

import ValeraControlTower.Library.PathNormal
import ValeraControlTower.Robot.Evidence

/-!
# Evidence links of `dashboard/render.py`

The link of an evidence file is the path to it from the dashboard, below a project root that
is guessed from the last segment `data` in front of the dashboard.
-/

namespace ValeraControlTower

open Unicode LexicalPath Robot

namespace Dashboard

/-! ## Paths -/

/-- `parent`. -/
def parentOf (path : Path CodePoint) : Path CodePoint := ⟨path.root, path.tail.dropLast⟩

/-- `path.joinpath(*parts)`. -/
def joinpath (path : Path CodePoint) (parts : List PyStr) : Path CodePoint :=
  parse posix (parts.foldl (join posix) (path.str posix))

/-- `Path(*parts)`. -/
def ofParts (parts : List PyStr) : Path CodePoint := parse posix (parts.foldl (join posix) [])

/-- `os.path.normpath`. -/
def normpath (path : PyStr) : PyStr := (normalise posix (parse posix path)).str posix

/-- `os.path.abspath`. -/
def abspath (cwd path : PyStr) : PyStr :=
  if path.head? = some posix.separator then normpath path else normpath (join posix cwd path)

/-- `os.path.relpath`. -/
def relpath (cwd path start : PyStr) : PyStr :=
  Path.str posix ⟨[], leads posix (segments posix (abspath cwd start))
    (segments posix (abspath cwd path))⟩

/-! ## Links -/

/-- `_is_safe_evidence_path`. -/
def isSafeEvidencePath (relativePath : PyStr) : Bool :=
  let path := parse posix relativePath
  !path.isAbsolute && py ".." ∉ path.parts && path.isRelativeTo (parse posix (py "data/evidence"))

/-- `_dashboard_root`. -/
def dashboardRoot (outputPath : Path CodePoint) : Path CodePoint :=
  let parts := outputPath.parts.dropLast
  if py "data" ∉ parts then parentOf outputPath
  else
    let dataIndex := parts.length - 1 - parts.reverse.idxOf (py "data")
    if dataIndex = 0 then ofParts [py "."] else ofParts (parts.take dataIndex)

/-- `_relative_href_from_dashboard`. -/
def relativeHrefFromDashboard (cwd relativePath : PyStr) (outputPath : Path CodePoint) : PyStr :=
  let evidencePath := joinpath (dashboardRoot outputPath) (parse posix relativePath).parts
  relpath cwd (evidencePath.str posix) ((parentOf outputPath).str posix)

/-! ## The layout of a project -/

/-- A single ordinary path segment. -/
structure Ordinary (segment : PyStr) : Prop where
  isSegment : IsSegment posix segment
  notParent : segment ≠ parent posix

/-- The dashboard of a task, `root/data/runs/{task_id}/dashboard.html`. -/
def dashboardPath (root taskId : PyStr) : Path CodePoint :=
  parse posix ([py "data", py "runs", taskId, py "dashboard.html"].foldl (join posix) root)

/-- A link leads from the directory of the dashboard to the evidence file. -/
def LeadsToEvidence (cwd root taskId relativePath : PyStr) : Prop :=
  normpath (join posix ((parentOf (dashboardPath root taskId)).str posix)
    (relativeHrefFromDashboard cwd relativePath (dashboardPath root taskId))) =
      normpath (join posix root relativePath)

variable {cwd root taskId relativePath : PyStr}

theorem isSegment_data : IsSegment posix (py "data") := ⟨by decide, by decide, by decide⟩

theorem isSegment_runs : IsSegment posix (py "runs") := ⟨by decide, by decide, by decide⟩

theorem isSegment_dashboard : IsSegment posix (py "dashboard.html") :=
  ⟨by decide, by decide, by decide⟩

theorem dashboardPath_eq (ordinary : Ordinary taskId) : dashboardPath root taskId =
    ⟨splitRoot posix root,
      segments posix root ++ [py "data", py "runs", taskId, py "dashboard.html"]⟩ := by
  apply parse_foldl_join
  intro segment membership
  simp only [List.mem_cons, List.not_mem_nil, or_false] at membership
  rcases membership with rfl | rfl | rfl | rfl
  · exact isSegment_data
  · exact isSegment_runs
  · exact ordinary.isSegment
  · exact isSegment_dashboard

/-- A safe path is a relative one below the evidence root, without parents. -/
theorem isSafeEvidencePath_iff : isSafeEvidencePath relativePath = true ↔
    relativePath.head? ≠ some posix.separator ∧ py ".." ∉ segments posix relativePath ∧
      segments posix evidenceRoot <+: segments posix relativePath := by
  have root : parse posix (py "data/evidence") = ⟨[], segments posix evidenceRoot⟩ := rfl
  unfold isSafeEvidencePath
  rw [root]
  by_cases relative : relativePath.head? = some posix.separator
  · have rooted : splitRoot posix relativePath ≠ [] := fun none => splitRoot_eq_nil.mp none relative
    simp [Path.isAbsolute, parse, relative, rooted]
  · have unrooted : splitRoot posix relativePath = [] := splitRoot_eq_nil.mpr relative
    simp [Path.isAbsolute, Path.parts, Path.isRelativeTo, parse, relative, unrooted]

/-! ## The guessed root -/

/-- The parts of a rooted path. -/
theorem ofParts_rooted {segs : List PyStr} (rooted : root.head? = some posix.separator)
    (clean : ∀ segment ∈ segs, IsSegment posix segment) :
    ofParts (splitRoot posix root :: segs) = ⟨splitRoot posix root, segs⟩ := by
  have isRoot : join posix [] (splitRoot posix root) = splitRoot posix root :=
    if_pos (head?_splitRoot rooted)
  unfold ofParts
  rw [List.foldl_cons, isRoot, parse_foldl_join clean, splitRoot_splitRoot, segments_splitRoot,
    List.nil_append]

theorem idxOf_data (segs : List PyStr) :
    (segs ++ [py "data", py "runs", taskId]).reverse.idxOf (py "data") =
      if taskId = py "data" then 0 else 2 := by
  rw [List.reverse_append]
  by_cases isData : taskId = py "data"
  · rw [if_pos isData, isData]
    rfl
  · rw [if_neg isData]
    have notRuns : py "runs" ≠ py "data" := by decide
    simp [List.idxOf_cons_ne _ isData, List.idxOf_cons_ne _ notRuns]

/-- The root is found, unless the task is called `data`. -/
theorem dashboardRoot_eq (rooted : root.head? = some posix.separator) (ordinary : Ordinary taskId) :
    dashboardRoot (dashboardPath root taskId) = ⟨splitRoot posix root,
      if taskId = py "data" then segments posix root ++ [py "data", py "runs"]
      else segments posix root⟩ := by
  have hasRoot : splitRoot posix root ≠ [] := fun none => splitRoot_eq_nil.mp none rooted
  have isParts : (dashboardPath root taskId).parts.dropLast =
      (splitRoot posix root :: segments posix root) ++ [py "data", py "runs", taskId] := by
    rw [dashboardPath_eq ordinary, Path.parts, if_neg hasRoot, List.cons_append]
    simp only
    rw [List.dropLast_cons_of_ne_nil (by simp), List.dropLast_append_of_ne_nil (by simp)]
    rfl
  have hasData : py "data" ∈ (dashboardPath root taskId).parts.dropLast := by
    rw [isParts]
    simp
  have cleanRoot : ∀ segment ∈ segments posix root, IsSegment posix segment :=
    fun _ => isSegment_of_mem
  unfold dashboardRoot
  dsimp only
  rw [if_neg (not_not.mpr hasData), isParts, idxOf_data, List.length_append, List.length_cons]
  by_cases isData : taskId = py "data"
  · rw [if_pos isData, if_pos isData, if_neg (by simp)]
    have isTake : ((splitRoot posix root :: segments posix root) ++
        [py "data", py "runs", taskId]).take ((segments posix root).length + 1 + 3 - 1 - 0) =
          splitRoot posix root :: (segments posix root ++ [py "data", py "runs"]) := by
      have count : (segments posix root).length + 1 + 3 - 1 - 0 =
          (splitRoot posix root :: segments posix root).length + 2 := by
        rw [List.length_cons]
        omega
      rw [count, List.take_length_add_append]
      rfl
    refine (congrArg ofParts isTake).trans (ofParts_rooted rooted ?_)
    intro segment membership
    simp only [List.mem_append, List.mem_cons, List.not_mem_nil, or_false] at membership
    rcases membership with inRoot | rfl | rfl
    · exact cleanRoot segment inRoot
    · exact isSegment_data
    · exact isSegment_runs
  · rw [if_neg isData, if_neg isData, if_neg (by simp)]
    have isTake : ((splitRoot posix root :: segments posix root) ++
        [py "data", py "runs", taskId]).take ((segments posix root).length + 1 + 3 - 1 - 2) =
          splitRoot posix root :: segments posix root := by
      have count : (segments posix root).length + 1 + 3 - 1 - 2 =
          (splitRoot posix root :: segments posix root).length := by
        rw [List.length_cons]
        omega
      rw [count, List.take_left']
      rfl
    exact (congrArg ofParts isTake).trans (ofParts_rooted rooted cleanRoot)

/-! ## Where the link leads -/

/-- A clean path below the root of another text. -/
def below (root : PyStr) (tail : List PyStr) : Path CodePoint := ⟨splitRoot posix root, tail⟩

theorem parse_str_normalise {tail : List PyStr}
    (clean : ∀ segment ∈ tail, IsSegment posix segment) :
    parse posix ((normalise posix (below root tail)).str posix) =
      normalise posix (below root tail) := by
  have isRoot : splitRoot posix root = (normalise posix (below root tail)).root := rfl
  apply parse_str isRoot
  intro segment membership
  exact isSegment_foldl tail (by simp) clean segment (List.mem_reverse.mp membership)

/-- The text of a path below a root, made absolute and normal. -/
theorem segments_abspath {tail : List PyStr} (rooted : root.head? = some posix.separator)
    (clean : ∀ segment ∈ tail, IsSegment posix segment) :
    segments posix (abspath cwd ((below root tail).str posix)) =
      (normalise posix (below root tail)).tail := by
  have hasRoot : splitRoot posix root ≠ [] := fun none => splitRoot_eq_nil.mp none rooted
  have isRoot : splitRoot posix root = (below root tail).root := rfl
  have rootedText : ((below root tail).str posix).head? = some posix.separator := by
    rw [str_eq_join isRoot hasRoot clean]
    exact (head?_join hasRoot (head?_intercalate clean)).trans (head?_splitRoot rooted)
  unfold abspath normpath
  rw [if_pos rootedText, parse_str isRoot clean]
  exact congrArg LexicalPath.Path.tail (parse_str_normalise clean)

theorem str_inj_normalise {tail tail' : List PyStr}
    (clean : ∀ segment ∈ tail, IsSegment posix segment)
    (clean' : ∀ segment ∈ tail', IsSegment posix segment) :
    (normalise posix (below root tail)).str posix = (normalise posix (below root tail')).str posix ↔
      (normalise posix (below root tail)).tail = (normalise posix (below root tail')).tail := by
  constructor
  · intro same
    have parsed := congrArg (parse posix) same
    rw [parse_str_normalise clean, parse_str_normalise clean'] at parsed
    exact congrArg LexicalPath.Path.tail parsed
  · intro same
    have whole : normalise posix (below root tail) = normalise posix (below root tail') :=
      congrArg (LexicalPath.Path.mk (splitRoot posix root)) same
    rw [whole]

/-- What a path below the root of another is made of, from one of its places to another. -/
theorem relpath_below {start target : List PyStr} (rooted : root.head? = some posix.separator)
    (cleanStart : ∀ segment ∈ start, IsSegment posix segment)
    (cleanTarget : ∀ segment ∈ target, IsSegment posix segment) :
    parse posix (relpath cwd ((below root target).str posix) ((below root start).str posix)) =
      ⟨[], leads posix (normalise posix (below root start)).tail
        (normalise posix (below root target)).tail⟩ := by
  unfold relpath
  rw [segments_abspath rooted cleanStart, segments_abspath rooted cleanTarget]
  have isRoot : splitRoot posix ([] : PyStr) = [] := rfl
  apply parse_str isRoot
  apply isSegment_leads
  intro segment membership
  exact isSegment_foldl target (by simp) cleanTarget segment (List.mem_reverse.mp membership)

/-- A relative path followed from a place below a root. -/
theorem normpath_join_relpath {start target : List PyStr}
    (rooted : root.head? = some posix.separator)
    (cleanStart : ∀ segment ∈ start, IsSegment posix segment)
    (cleanTarget : ∀ segment ∈ target, IsSegment posix segment) :
    normpath (join posix ((below root start).str posix)
        (relpath cwd ((below root target).str posix) ((below root start).str posix))) =
      (normalise posix (below root target)).str posix := by
  have hasRoot : splitRoot posix root ≠ [] := fun none => splitRoot_eq_nil.mp none rooted
  have isStart : parse posix ((below root start).str posix) = below root start :=
    parse_str rfl cleanStart
  have isLink := @relpath_below cwd root start target rooted cleanStart cleanTarget
  have relative := splitRoot_eq_nil.mp (congrArg LexicalPath.Path.root isLink)
  have joined : parse posix (join posix ((below root start).str posix)
      (relpath cwd ((below root target).str posix) ((below root start).str posix))) =
        below root (start ++ leads posix (normalise posix (below root start)).tail
          (normalise posix (below root target)).tail) := by
    have rootKept := congrArg LexicalPath.Path.root isStart
    have startKept := congrArg LexicalPath.Path.tail isStart
    have linkKept := congrArg LexicalPath.Path.tail isLink
    unfold parse at rootKept startKept linkKept ⊢
    rw [splitRoot_join relative, segments_join relative]
    exact congrArg₂ LexicalPath.Path.mk rootKept (congrArg₂ (· ++ ·) startKept linkKept)
  unfold normpath
  rw [joined]
  exact congrArg (Path.str posix) (normalise_leads hasRoot start target)

/-! ## Links of a project -/

/-- The link of a safe path leads to the file below the guessed root. -/
theorem leadsToEvidence_iff_tail (rooted : root.head? = some posix.separator)
    (ordinary : Ordinary taskId) (safe : isSafeEvidencePath relativePath = true) :
    LeadsToEvidence cwd root taskId relativePath ↔
      (normalise posix (below root ((if taskId = py "data" then
          segments posix root ++ [py "data", py "runs"] else segments posix root) ++
            segments posix relativePath))).tail =
        (normalise posix (below root
          (segments posix root ++ segments posix relativePath))).tail := by
  obtain ⟨relative, _, _⟩ := isSafeEvidencePath_iff.mp safe
  have cleanRoot : ∀ segment ∈ segments posix root, IsSegment posix segment :=
    fun _ => isSegment_of_mem
  have cleanRelative : ∀ segment ∈ segments posix relativePath, IsSegment posix segment :=
    fun _ => isSegment_of_mem
  have isParent : parentOf (dashboardPath root taskId) =
      below root (segments posix root ++ [py "data", py "runs", taskId]) := by
    rw [dashboardPath_eq ordinary]
    unfold parentOf
    rw [List.dropLast_append_of_ne_nil (by simp)]
    rfl
  have cleanParent : ∀ segment ∈ segments posix root ++ [py "data", py "runs", taskId],
      IsSegment posix segment := by
    intro segment membership
    simp only [List.mem_append, List.mem_cons, List.not_mem_nil, or_false] at membership
    rcases membership with inRoot | rfl | rfl | rfl
    · exact cleanRoot segment inRoot
    · exact isSegment_data
    · exact isSegment_runs
    · exact ordinary.isSegment
  generalize isGuess : (if taskId = py "data" then
    segments posix root ++ [py "data", py "runs"] else segments posix root) = guess
  have cleanGuess : ∀ segment ∈ guess, IsSegment posix segment := by
    rw [← isGuess]
    split
    · intro segment membership
      simp only [List.mem_append, List.mem_cons, List.not_mem_nil, or_false] at membership
      rcases membership with inRoot | rfl | rfl
      · exact cleanRoot segment inRoot
      · exact isSegment_data
      · exact isSegment_runs
    · exact cleanRoot
  have cleanTarget : ∀ segment ∈ guess ++ segments posix relativePath, IsSegment posix segment :=
    fun segment membership => (List.mem_append.mp membership).elim (cleanGuess segment)
      (cleanRelative segment)
  have isEvidence : joinpath (dashboardRoot (dashboardPath root taskId))
      (parse posix relativePath).parts = below root (guess ++ segments posix relativePath) := by
    have isRootPath : dashboardRoot (dashboardPath root taskId) = below root guess := by
      rw [dashboardRoot_eq rooted ordinary, isGuess]
      rfl
    have isParts : (parse posix relativePath).parts = segments posix relativePath :=
      if_pos (splitRoot_eq_nil.mpr relative)
    have readBack : parse posix ((below root guess).str posix) = below root guess :=
      parse_str rfl cleanGuess
    unfold joinpath
    rw [isRootPath, isParts, parse_foldl_join cleanRelative]
    exact congrArg₂ LexicalPath.Path.mk (congrArg LexicalPath.Path.root readBack)
      (congrArg (· ++ segments posix relativePath) (congrArg LexicalPath.Path.tail readBack))
  have isTarget : parse posix (join posix root relativePath) =
      below root (segments posix root ++ segments posix relativePath) := by
    unfold parse
    rw [splitRoot_join relative, segments_join relative]
    rfl
  unfold LeadsToEvidence relativeHrefFromDashboard
  dsimp only
  rw [isParent, isEvidence, normpath_join_relpath rooted cleanParent cleanTarget]
  have isFile : normpath (join posix root relativePath) = (normalise posix
      (below root (segments posix root ++ segments posix relativePath))).str posix := by
    unfold normpath
    rw [isTarget]
  rw [isFile]
  exact str_inj_normalise cleanTarget fun segment membership =>
    (List.mem_append.mp membership).elim (cleanRoot segment) (cleanRelative segment)

/-- A link leads to the evidence exactly if the task is not called `data`. -/
theorem leadsToEvidence_iff (rooted : root.head? = some posix.separator)
    (ordinary : Ordinary taskId) (safe : isSafeEvidencePath relativePath = true) (cwd : PyStr) :
    LeadsToEvidence cwd root taskId relativePath ↔ taskId ≠ py "data" := by
  rw [leadsToEvidence_iff_tail rooted ordinary safe]
  obtain ⟨_, noParent, _⟩ := isSafeEvidencePath_iff.mp safe
  change parent posix ∉ segments posix relativePath at noParent
  unfold below
  rw [normalise_append _ noParent, normalise_append _ noParent]
  by_cases isData : taskId = py "data"
  · have runs : parent posix ∉ [py "data", py "runs"] := by decide
    rw [if_pos isData, normalise_append _ runs]
    refine iff_of_false ?_ (not_not.mpr isData)
    intro same
    have lengths := congrArg List.length same
    simp only [List.length_append, List.length_cons, List.length_nil] at lengths
    omega
  · rw [if_neg isData]
    exact iff_of_true rfl isData

theorem leadsToEvidence_iff_cube :
    LeadsToEvidence (py "/") (py "/srv/valera") (py "cube-001")
      (py "data/evidence/cube-001/e-raw.png") ↔ py "cube-001" ≠ py "data" :=
  leadsToEvidence_iff rfl ⟨⟨by decide, by decide, by decide⟩, by decide⟩ (by decide) (py "/")

/-- The dashboard of a task called `data` links to files that are not there. -/
theorem not_always_leadsToEvidence : ¬∀ cwd root taskId relativePath : PyStr,
    root.head? = some posix.separator → Ordinary taskId → isSafeEvidencePath relativePath = true →
      LeadsToEvidence cwd root taskId relativePath := by
  intro always
  have ordinary : Ordinary (py "data") := ⟨isSegment_data, by decide⟩
  have leads := always (py "/") (py "/srv") (py "data") (py "data/evidence/data/e-raw.png") rfl
    ordinary (by decide)
  unfold LeadsToEvidence at leads
  revert leads
  decide

end Dashboard

end ValeraControlTower

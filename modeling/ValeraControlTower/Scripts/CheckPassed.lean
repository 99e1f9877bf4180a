import ValeraControlTower.Robot.EventDict
import ValeraControlTower.Scripts.CheckOutcome

/-!
# What passes the check of a demo

The replays and the dashboards for which `check_physical_demo_output.py` prints PASS.
-/

namespace ValeraControlTower

open Unicode Json LexicalPath Robot Failures

namespace Scripts

/-! ## Times -/

/-- The letter that `_occurred_at_values_are_monotonic` replaces. -/
def zulu : CodePoint := CodePoint.ofChar 'Z'

theorem replaceZ_of_notMem {text : PyStr} (absent : zulu ∉ text) : replaceZ text = text := by
  induction text with
  | nil => rfl
  | cons point rest inductionHypothesis =>
      have inRest := inductionHypothesis (List.not_mem_of_not_mem_cons absent)
      have other : ¬point = CodePoint.ofChar 'Z' := fun same =>
        absent (List.mem_cons.mpr (.inl same.symm))
      unfold replaceZ at inRest ⊢
      rw [List.flatMap_cons, if_neg other, inRest]
      rfl

@[simp]
theorem zulu_notMem_zeroPadded (width number : ℕ) : zulu ∉ zeroPadded width number := by
  have noDigit : ∀ digit : Digit, digit.char ≠ 'Z' := by decide
  intro inside
  obtain ⟨char, inChars, same⟩ := List.mem_map.mp inside
  obtain rfl := CodePoint.ofChar_inj.mp same
  rcases List.mem_append.mp inChars with padding | inDigits
  · cases List.eq_of_mem_replicate padding
  · obtain ⟨digit, _, isDigit⟩ := List.mem_map.mp inDigits
    exact noDigit digit isDigit

theorem zulu_notMem_py :
    zulu ∉ py "-" ∧ zulu ∉ py "+" ∧ zulu ∉ py ":" ∧ zulu ∉ py "." ∧ zulu ∉ py "T" := by
  decide

theorem zulu_notMem_formatOffset (offset : ℤ) : zulu ∉ formatOffset offset := by
  obtain ⟨minus, plus, colon, point, _⟩ := zulu_notMem_py
  unfold formatOffset
  dsimp only
  split_ifs <;> simp [minus, plus, colon, point]

theorem replaceZ_isoformat (value : DateTime) : replaceZ value.isoformat = value.isoformat := by
  obtain ⟨minus, _, colon, point, letter⟩ := zulu_notMem_py
  apply replaceZ_of_notMem
  unfold DateTime.isoformat
  cases value.tzinfo with
  | none =>
      by_cases whole : value.clock.toNat % 1000000 = 0
      · simp [whole, minus, colon, letter]
      · simp [whole, minus, colon, point, letter]
  | some zone =>
      by_cases whole : value.clock.toNat % 1000000 = 0
      · simp [whole, minus, colon, letter, zulu_notMem_formatOffset]
      · simp [whole, minus, colon, point, letter, zulu_notMem_formatOffset]

variable {K : Type}

/-! ## The checks -/

section Passed

variable [IntCast K] [DecidableEq K] {host : CheckHost K} {projectRoot taskId : PyStr}
  {expectedMarkerId : ℤ}

/-- The events of a replay that passes. -/
structure PassedReplay (host : CheckHost K) (projectRoot : PyStr) (expectedMarkerId : ℤ)
    (events : List (PyJson K)) (files : List PyStr) : Prop where
  right : RightEvents events
  times : AllInOrder (events.map (timeOf host))
  find : ∃ refs, RightFind expectedMarkerId (events[6]?.getD .null) refs ∧
    validateEvidenceRefs host projectRoot refs = .ok files

theorem checkEvents_eq_ok {events : List (PyJson K)} {files : List PyStr}
    (right : RightEvents events) :
    checkEvents host projectRoot expectedMarkerId events = .ok files ↔
      AllInOrder (events.map (timeOf host)) ∧
        ∃ refs, RightFind expectedMarkerId (events[6]?.getD .null) refs ∧
          validateEvidenceRefs host projectRoot refs = .ok files := by
  obtain ⟨lastType, completed, status⟩ := right.last
  have inOrder := (monotonic_run host right.objects none).2
  rw [Option.toList_none, List.map_nil, List.nil_append] at inOrder
  have isObject := right.objects _ (mem_of_getElem?_six right.length)
  have guarded := checkObjectFound_guarded expectedMarkerId isObject
  rw [← inOrder]
  unfold checkEvents
  dsimp only
  rw [lastType, ok_bind, require_bind_eq_ok, status, ok_bind, require_bind_eq_ok]
  constructor
  · intro passed
    obtain ⟨_, _, passed⟩ := passed
    obtain ⟨monotonic, isMonotonic, passed⟩ := bind_eq_ok passed
    obtain ⟨isTrue, passed⟩ := require_bind_eq_ok.mp passed
    obtain ⟨returned, found, passed⟩ := bind_eq_ok passed
    obtain ⟨refs, right, same⟩ := (guarded.eq_ok RightFind.unique).mp found
    cases same
    rw [isTrue] at isMonotonic
    exact ⟨isMonotonic, returned, right, passed⟩
  · intro passed
    obtain ⟨isMonotonic, refs, found, passed⟩ := passed
    refine ⟨completed, decide_eq_true rfl, ?_⟩
    rw [isMonotonic, ok_bind, require_bind_eq_ok]
    refine ⟨rfl, ?_⟩
    rw [(guarded.eq_ok RightFind.unique).mpr ⟨refs, found, rfl⟩]
    exact passed

theorem checkReplay_eq_ok {events : List (PyJson K)} {count : ℕ} {files : List PyStr} :
    checkReplay host projectRoot expectedMarkerId (.arr events) = .ok (count, files) ↔
      count = events.length ∧ PassedReplay host projectRoot expectedMarkerId events files := by
  unfold checkReplay
  rw [requireList, ok_bind, require_bind_eq_ok, decide_eq_true_iff]
  by_cases objects : ∀ event ∈ events, IsObject event
  · rw [getEach_of_isObject objects, ok_bind, require_bind_eq_ok, getEach_of_isObject objects,
      ok_bind, require_bind_eq_ok]
    constructor
    · intro passed
      obtain ⟨length, sequences, eventTypes, passed⟩ := passed
      obtain ⟨returned, checked, same⟩ := bind_eq_ok passed
      cases same
      have right : RightEvents events := ⟨length, objects, sequences, eventTypes⟩
      obtain ⟨times, find⟩ := (checkEvents_eq_ok right).mp checked
      exact ⟨rfl, right, times, find⟩
    · intro passed
      obtain ⟨isCount, right, times, find⟩ := passed
      refine ⟨right.length, right.sequences, right.eventTypes, ?_⟩
      rw [(checkEvents_eq_ok right).mpr ⟨times, find⟩, isCount]
      rfl
  · rw [getEach_of_not_isObject objects]
    apply iff_of_false
    · intro passed
      cases passed.2
    · intro passed
      exact objects passed.2.right.objects

theorem validateDashboard_eq_ok {html : PyStr} {texts : List (String × String)} :
    validateDashboard html texts = .ok () ↔ ∀ text ∈ texts, py text.1 <:+: html := by
  induction texts with
  | nil => exact iff_of_true rfl (List.forall_mem_nil _)
  | cons text texts inductionHypothesis =>
      rw [validateDashboard, require_bind_eq_ok, decide_eq_true_iff, inductionHypothesis,
        List.forall_mem_cons]

/-- The script prints PASS if the replay and the dashboard pass. -/
theorem main_eq_pass {replayText html : PyStr} {events : List (PyJson K)}
    (replay : host.replay = some replayText) (dashboard : host.dashboard = some html)
    (loaded : loads host.math host.stackLevels replayText = .ok (.arr events)) :
    (∃ lines, Scripts.main host projectRoot taskId expectedMarkerId = .ok (lines, 0)) ↔
      (∃ files, PassedReplay host projectRoot expectedMarkerId events files) ∧
        ∀ text ∈ dashboardTexts, py text.1 <:+: html := by
  rw [← validateDashboard_eq_ok]
  unfold Scripts.main checkPhysicalDemoOutput
  dsimp only
  rw [replay, dashboard]
  dsimp only
  rw [loaded]
  dsimp only
  cases counted : checkReplay host projectRoot expectedMarkerId (.arr events) with
  | error exception =>
      apply iff_of_false
      · intro passed
        obtain ⟨_, passed⟩ := passed
        cases exception <;> cases passed
      · intro passed
        obtain ⟨⟨_, passed⟩, _⟩ := passed
        cases counted.symm.trans (checkReplay_eq_ok.mpr ⟨rfl, passed⟩)
  | ok counts =>
      have passed := (checkReplay_eq_ok.mp counted).2
      rw [ok_bind]
      cases validated : validateDashboard html dashboardTexts with
      | error exception =>
          apply iff_of_false
          · intro printed
            obtain ⟨_, printed⟩ := printed
            cases exception <;> cases printed
          · intro both
            cases both.2
      | ok _ => exact iff_of_true ⟨_, rfl⟩ ⟨⟨_, passed⟩, rfl⟩

theorem main_eq_fail (replay : host.replay = none) {lines : List PyStr} :
    Scripts.main host projectRoot taskId expectedMarkerId ≠ .ok (lines, 0) := by
  unfold Scripts.main checkPhysicalDemoOutput
  dsimp only
  rw [replay]
  intro passed
  cases passed

/-! ## Evidence -/

section Evidence

variable {ref other : PyJson K} {path otherPath : PyStr}

omit [IntCast K] [DecidableEq K] in
theorem validateEvidenceRef_eq_ok (right : RightRef ref path) {file : PyStr × PyStr} :
    validateEvidenceRef host projectRoot ref = .ok file ↔
      host.isFile (below projectRoot path) = some true ∧
        file = (below projectRoot path, nameOf (parse posix path)) := by
  rw [(validateEvidenceRef_guarded host projectRoot ref).eq_ok RightRef.unique]
  constructor
  · intro returned
    obtain ⟨named, isRight, returned⟩ := returned
    obtain rfl := RightRef.unique named path isRight right
    have isFile := checkFile_eq_ok.mp ⟨file, returned⟩
    refine ⟨isFile, ?_⟩
    unfold checkFile at returned
    dsimp only at returned
    rw [isFile] at returned
    cases returned
    rfl
  · intro there
    obtain ⟨isFile, rfl⟩ := there
    refine ⟨path, right, ?_⟩
    unfold checkFile
    dsimp only
    rw [isFile]
    rfl

omit [IntCast K] [DecidableEq K] in
/-- Of two right references, one to the raw image and one to the annotated one, the files must be
there. -/
theorem validateEvidenceRefs_pair (right : RightRef ref path)
    (rightOther : RightRef other otherPath)
    (raw : ([path, otherPath].filter fun path =>
      endswith (nameOf (parse posix path)) "-raw.png").length = 1)
    (annotated : ([path, otherPath].filter fun path =>
      endswith (nameOf (parse posix path)) "-annotated.png").length = 1) :
    (∃ files, validateEvidenceRefs host projectRoot [ref, other] = .ok files) ↔
      host.isFile (below projectRoot path) = some true ∧
        host.isFile (below projectRoot otherPath) = some true := by
  constructor
  · intro passed
    obtain ⟨files, passed⟩ := passed
    obtain ⟨_, each, _⟩ := bind_eq_ok passed
    obtain ⟨_, first, each⟩ := bind_eq_ok each
    obtain ⟨_, each, _⟩ := bind_eq_ok each
    obtain ⟨_, second, _⟩ := bind_eq_ok each
    exact ⟨((validateEvidenceRef_eq_ok right).mp first).1,
      ((validateEvidenceRef_eq_ok rightOther).mp second).1⟩
  · intro there
    have first := (validateEvidenceRef_eq_ok right).mpr ⟨there.1, rfl⟩
    have second := (validateEvidenceRef_eq_ok rightOther).mpr ⟨there.2, rfl⟩
    have each : validateEach host projectRoot [ref, other] =
        .ok ([path, otherPath].map fun path =>
          (below projectRoot path, nameOf (parse posix path))) := by
      rw [validateEach, first, ok_bind, validateEach, second]
      rfl
    unfold validateEvidenceRefs
    rw [each, ok_bind]
    refine ⟨_, require_bind_eq_ok.mpr ⟨?_, require_bind_eq_ok.mpr ⟨?_, rfl⟩⟩⟩
    · rw [List.filter_map, List.length_map, decide_eq_true_iff]
      exact raw
    · rw [List.filter_map, List.length_map, decide_eq_true_iff]
      exact annotated

end Evidence

end Passed

end Scripts

end ValeraControlTower

import ValeraControlTower.Library.LexicalPath

/-!
# Normal paths

A path is normalised by letting each parent segment take back the segment before it.  The
relative path from one place to another climbs to the last place they share; followed from
the first place, it leads to the second.
-/

namespace LexicalPath

variable {Symbol : Type*} [DecidableEq Symbol] (alphabet : Alphabet Symbol)

/-- The parent segment. -/
def parent : List Symbol := [alphabet.dot, alphabet.dot]

/-- A segment behind others, of which the last is the first of the list. -/
def climb (rooted : Bool) (places : List (List Symbol)) (segment : List Symbol) :
    List (List Symbol) :=
  if segment ≠ parent alphabet ∨ (rooted = false ∧ places = []) ∨
      places.head? = some (parent alphabet) then segment :: places
  else places.tail

/-- A path without what its parent segments take back. -/
def normalise (path : Path Symbol) : Path Symbol where
  root := path.root
  tail := (path.tail.foldl (climb alphabet (path.root ≠ [])) []).reverse

/-- The number of segments two paths start with together. -/
def sharedLength : List (List Symbol) → List (List Symbol) → ℕ
  | first :: path, second :: other => if first = second then sharedLength path other + 1 else 0
  | _, _ => 0

/-- The segments that lead from one place to another. -/
def leads (start target : List (List Symbol)) : List (List Symbol) :=
  List.replicate (start.length - sharedLength start target) (parent alphabet) ++
    target.drop (sharedLength start target)

variable {alphabet}

/-! ## Climbing -/

omit [DecidableEq Symbol] in
theorem isSegment_parent : IsSegment alphabet (parent alphabet) where
  nonempty := List.cons_ne_nil _ _
  notDot := by simp [parent]
  whole := by simpa [parent] using Ne.symm alphabet.apart

/-- Segments that are no parents are put behind the others. -/
theorem foldl_climb {rooted : Bool} {tail : List (List Symbol)}
    (clean : parent alphabet ∉ tail) (places : List (List Symbol)) :
    tail.foldl (climb alphabet rooted) places = tail.reverse ++ places := by
  induction tail generalizing places with
  | nil => rfl
  | cons segment tail inductionHypothesis =>
      rw [List.mem_cons, not_or] at clean
      have pushed : climb alphabet rooted places segment = segment :: places :=
        if_pos (.inl (Ne.symm clean.1))
      rw [List.foldl_cons, pushed, inductionHypothesis clean.2]
      simp

/-- Below a root, a parent takes back the last segment. -/
theorem climb_parent {places : List (List Symbol)} (clean : parent alphabet ∉ places) :
    climb alphabet true places (parent alphabet) = places.tail := by
  apply if_neg
  rintro (other | unrooted | isParent)
  · exact other rfl
  · exact absurd unrooted.1 nofun
  · obtain ⟨rest, rfl⟩ := List.head?_eq_some_iff.mp isParent
    exact clean List.mem_cons_self

theorem foldl_climb_parents {places : List (List Symbol)} (clean : parent alphabet ∉ places)
    (count : ℕ) :
    (List.replicate count (parent alphabet)).foldl (climb alphabet true) places =
      places.drop count := by
  induction count generalizing places with
  | zero => rfl
  | succ count inductionHypothesis =>
      rw [List.replicate_succ, List.foldl_cons, climb_parent clean,
        inductionHypothesis fun inside => clean (List.mem_of_mem_tail inside), List.drop_tail]

/-- Below a root, no parent is left. -/
theorem parent_notMem_foldl (tail : List (List Symbol)) {places : List (List Symbol)}
    (clean : parent alphabet ∉ places) :
    parent alphabet ∉ tail.foldl (climb alphabet true) places := by
  induction tail generalizing places with
  | nil => exact clean
  | cons segment tail inductionHypothesis =>
      apply inductionHypothesis
      by_cases isParent : segment = parent alphabet
      · rw [isParent, climb_parent clean]
        exact fun inside => clean (List.mem_of_mem_tail inside)
      · have pushed : climb alphabet true places segment = segment :: places :=
          if_pos (.inl isParent)
        rw [pushed, List.mem_cons, not_or]
        exact ⟨Ne.symm isParent, clean⟩

theorem isSegment_foldl {rooted : Bool} (tail : List (List Symbol))
    {places : List (List Symbol)} (clean : ∀ segment ∈ places, IsSegment alphabet segment)
    (cleanTail : ∀ segment ∈ tail, IsSegment alphabet segment) :
    ∀ segment ∈ tail.foldl (climb alphabet rooted) places, IsSegment alphabet segment := by
  induction tail generalizing places with
  | nil => exact clean
  | cons segment tail inductionHypothesis =>
      apply inductionHypothesis
      · intro other inside
        unfold climb at inside
        split at inside
        · rcases List.mem_cons.mp inside with rfl | earlier
          · exact cleanTail other List.mem_cons_self
          · exact clean other earlier
        · exact clean other (List.mem_of_mem_tail inside)
      · exact fun other inside => cleanTail other (List.mem_cons_of_mem segment inside)

/-! ## Relative paths -/

theorem take_sharedLength (path other : List (List Symbol)) :
    path.take (sharedLength path other) = other.take (sharedLength path other) := by
  induction path generalizing other with
  | nil => simp [sharedLength]
  | cons first path inductionHypothesis =>
      cases other with
      | nil => simp [sharedLength]
      | cons second other =>
          by_cases same : first = second
          · simp [sharedLength, same, inductionHypothesis other]
          · simp [sharedLength, same]

/-- The relative path, followed from its start, leads to its target. -/
theorem foldl_leads {start target : List (List Symbol)} (cleanStart : parent alphabet ∉ start)
    (cleanTarget : parent alphabet ∉ target) :
    (leads alphabet start target).foldl (climb alphabet true) start.reverse = target.reverse := by
  have climbed : parent alphabet ∉ start.reverse := by simpa using cleanStart
  have kept : start.reverse.drop (start.length - sharedLength start target) =
      (target.take (sharedLength start target)).reverse := by
    rw [← take_sharedLength, List.reverse_take]
  unfold leads
  rw [List.foldl_append, foldl_climb_parents climbed, kept,
    foldl_climb fun inside => cleanTarget (List.mem_of_mem_drop inside), ← List.reverse_append,
    List.take_append_drop]

theorem isSegment_leads {start target : List (List Symbol)}
    (clean : ∀ segment ∈ target, IsSegment alphabet segment) :
    ∀ segment ∈ leads alphabet start target, IsSegment alphabet segment := by
  intro segment membership
  rcases List.mem_append.mp membership with climbs | descends
  · rw [List.eq_of_mem_replicate climbs]
    exact isSegment_parent
  · exact clean segment (List.mem_of_mem_drop descends)

/-- Normal paths below one root: from one to the other, and there. -/
theorem normalise_leads {root : List Symbol} (rooted : root ≠ [])
    (start target : List (List Symbol)) :
    normalise alphabet ⟨root, start ++ leads alphabet (normalise alphabet ⟨root, start⟩).tail
        (normalise alphabet ⟨root, target⟩).tail⟩ = normalise alphabet ⟨root, target⟩ := by
  have isRooted : decide (root ≠ []) = true := decide_eq_true rooted
  unfold normalise
  simp only [isRooted, List.foldl_append]
  have cleanStart : parent alphabet ∉ (start.foldl (climb alphabet true) []).reverse := by
    simpa using parent_notMem_foldl start List.not_mem_nil
  have cleanTarget : parent alphabet ∉ (target.foldl (climb alphabet true) []).reverse := by
    simpa using parent_notMem_foldl target List.not_mem_nil
  have followed := foldl_leads cleanStart cleanTarget
  rw [List.reverse_reverse, List.reverse_reverse] at followed
  rw [followed]

/-- Segments that are no parents stay behind what is normalised. -/
theorem normalise_append {root : List Symbol} (start : List (List Symbol))
    {tail : List (List Symbol)} (clean : parent alphabet ∉ tail) :
    (normalise alphabet ⟨root, start ++ tail⟩).tail =
      (normalise alphabet ⟨root, start⟩).tail ++ tail := by
  unfold normalise
  dsimp only
  rw [List.foldl_append, foldl_climb clean, List.reverse_append, List.reverse_reverse]

end LexicalPath

import Mathlib

/-!
# Lexical paths

Paths as texts over an alphabet with a separator and a dot: a root, and the segments
behind it, of which the empty ones and single dots are dropped.  Joining a path with a
relative one appends its segments, and a relative path is read back from its text.
-/

namespace LexicalPath

structure Alphabet (Symbol : Type*) where
  separator : Symbol
  dot : Symbol
  apart : dot ≠ separator

/-- A parsed path. -/
structure Path (Symbol : Type*) where
  root : List Symbol
  tail : List (List Symbol)
  deriving DecidableEq

variable {Symbol : Type*} [DecidableEq Symbol] (alphabet : Alphabet Symbol)

/-- The root of a path: two separators that are not followed by a third are kept. -/
def splitRoot : List Symbol → List Symbol
  | first :: second :: third :: _ =>
      if first ≠ alphabet.separator then []
      else if second = alphabet.separator ∧ third ≠ alphabet.separator then [first, second]
      else [first]
  | [first, second] =>
      if first ≠ alphabet.separator then []
      else if second = alphabet.separator then [first, second]
      else [first]
  | [first] => if first = alphabet.separator then [first] else []
  | [] => []

/-- The segments of a path. -/
def segments (path : List Symbol) : List (List Symbol) :=
  (path.splitOn alphabet.separator).filter fun segment => segment ≠ [] ∧ segment ≠ [alphabet.dot]

def parse (path : List Symbol) : Path Symbol := ⟨splitRoot alphabet path, segments alphabet path⟩

/-- A path behind another one, which it replaces if it has a root. -/
def join (path other : List Symbol) : List Symbol :=
  if other.head? = some alphabet.separator then other
  else if path = [] ∨ path.getLast? = some alphabet.separator then path ++ other
  else path ++ alphabet.separator :: other

namespace Path

def isAbsolute (path : Path Symbol) : Bool := path.root ≠ []

def parts (path : Path Symbol) : List (List Symbol) :=
  if path.root = [] then path.tail else path.root :: path.tail

def isRelativeTo (path other : Path Symbol) : Bool :=
  path.root = other.root && other.tail.isPrefixOf path.tail

/-- The text of a path; an empty one is a dot. -/
def str (path : Path Symbol) : List Symbol :=
  if path.root = [] ∧ path.tail = [] then [alphabet.dot]
  else path.root ++ List.intercalate [alphabet.separator] path.tail

end Path

variable {alphabet}

/-! ## Roots -/

theorem splitRoot_eq_nil {path : List Symbol} :
    splitRoot alphabet path = [] ↔ path.head? ≠ some alphabet.separator := by
  match path with
  | [] => simp [splitRoot]
  | [first] => simp [splitRoot]
  | [first, second] =>
      by_cases isRoot : first = alphabet.separator
      · simp only [splitRoot, isRoot, not_true_eq_false, if_false, ne_eq]
        split <;> simp
      · simp [splitRoot, isRoot]
  | first :: second :: third :: rest =>
      by_cases isRoot : first = alphabet.separator
      · simp only [splitRoot, isRoot, not_true_eq_false, if_false, ne_eq]
        split <;> simp
      · simp [splitRoot, isRoot]

/-- A root is made of separators. -/
theorem head?_splitRoot {path : List Symbol} (rooted : path.head? = some alphabet.separator) :
    (splitRoot alphabet path).head? = some alphabet.separator := by
  match path with
  | [] => cases rooted
  | [first] =>
      cases rooted
      simp [splitRoot]
  | [first, second] =>
      cases rooted
      simp only [splitRoot, ne_eq, not_true_eq_false, if_false]
      split <;> rfl
  | first :: second :: third :: rest =>
      cases rooted
      simp only [splitRoot, ne_eq, not_true_eq_false, if_false]
      split <;> rfl

/-- The text of a joined path starts where the first path does, if the second is relative. -/
theorem head?_join {path other : List Symbol} (nonempty : path ≠ [])
    (relative : other.head? ≠ some alphabet.separator) :
    (join alphabet path other).head? = path.head? := by
  obtain ⟨first, rest, rfl⟩ := List.exists_cons_of_ne_nil nonempty
  unfold join
  rw [if_neg relative]
  split <;> rfl

theorem splitRoot_cases (path : List Symbol) : splitRoot alphabet path = [] ∨
    splitRoot alphabet path = [alphabet.separator] ∨
    splitRoot alphabet path = [alphabet.separator, alphabet.separator] := by
  match path with
  | [] => exact .inl rfl
  | [first] =>
      by_cases isRoot : first = alphabet.separator
      · simp [splitRoot, isRoot]
      · simp [splitRoot, isRoot]
  | [first, second] =>
      by_cases isRoot : first = alphabet.separator
      · by_cases isSecond : second = alphabet.separator
        · simp [splitRoot, isRoot, isSecond]
        · simp [splitRoot, isRoot, isSecond]
      · simp [splitRoot, isRoot]
  | first :: second :: third :: rest =>
      by_cases isRoot : first = alphabet.separator
      · by_cases double : second = alphabet.separator ∧ third ≠ alphabet.separator
        · simp [splitRoot, isRoot, double]
        · simp [splitRoot, isRoot, double]
      · simp [splitRoot, isRoot]

/-- Joining with a relative path keeps the root. -/
theorem splitRoot_join {path other : List Symbol}
    (relative : other.head? ≠ some alphabet.separator) :
    splitRoot alphabet (join alphabet path other) = splitRoot alphabet path := by
  unfold join
  rw [if_neg relative]
  match path with
  | [] =>
      rw [if_pos (.inl rfl)]
      exact splitRoot_eq_nil.mpr relative
  | [first] =>
      by_cases isRoot : first = alphabet.separator
      · rw [if_pos (.inr (by rw [isRoot]; rfl))]
        match other with
        | [] => rfl
        | [second] =>
            have notRoot : second ≠ alphabet.separator := by simpa using relative
            simp [splitRoot, isRoot, notRoot]
        | second :: third :: rest =>
            have notRoot : second ≠ alphabet.separator := by simpa using relative
            simp [splitRoot, isRoot, notRoot]
      · rw [if_neg (by simpa using isRoot)]
        cases other <;> simp [splitRoot, isRoot]
  | [first, second] =>
      by_cases isRoot : first = alphabet.separator
      · by_cases double : second = alphabet.separator
        · rw [if_pos (.inr (by rw [double]; rfl))]
          match other with
          | [] => rfl
          | third :: rest =>
              have notRoot : third ≠ alphabet.separator := by simpa using relative
              simp [splitRoot, isRoot, double, notRoot]
        · rw [if_neg (by simpa using double)]
          cases other <;> simp [splitRoot, isRoot, double]
      · split
        · cases other <;> simp [splitRoot, isRoot]
        · cases other <;> simp [splitRoot, isRoot]
  | first :: second :: third :: rest =>
      split
      · rfl
      · rfl

/-! ## Segments -/

theorem segments_append_separator (path other : List Symbol) :
    segments alphabet (path ++ alphabet.separator :: other) =
      segments alphabet path ++ segments alphabet other := by
  unfold segments
  rw [List.splitOn_append_cons_self, List.filter_append]

theorem segments_nil : segments alphabet [] = [] := by
  simp [segments]

theorem segments_separator : segments alphabet [alphabet.separator] = [] := by
  have cut := @segments_append_separator Symbol _ alphabet [] []
  rwa [segments_nil, List.append_nil] at cut

/-- Joining with a relative path appends its segments. -/
theorem segments_join {path other : List Symbol}
    (relative : other.head? ≠ some alphabet.separator) :
    segments alphabet (join alphabet path other) =
      segments alphabet path ++ segments alphabet other := by
  unfold join
  rw [if_neg relative]
  split
  · next closed =>
      rcases closed with rfl | closed
      · rw [segments_nil, List.nil_append, List.nil_append]
      · obtain ⟨before, rfl⟩ := List.getLast?_eq_some_iff.mp closed
        rw [segments_append_separator, segments_nil, List.append_nil, List.append_assoc]
        exact segments_append_separator before other
  · exact segments_append_separator path other

/-- A segment a parsed path may have. -/
structure IsSegment (alphabet : Alphabet Symbol) (segment : List Symbol) : Prop where
  nonempty : segment ≠ []
  notDot : segment ≠ [alphabet.dot]
  whole : alphabet.separator ∉ segment

theorem separator_notMem_splitOn {path segment : List Symbol}
    (membership : segment ∈ path.splitOn alphabet.separator) : alphabet.separator ∉ segment := by
  induction path generalizing segment with
  | nil =>
      rw [List.splitOn_nil, List.mem_singleton] at membership
      rw [membership]
      exact List.not_mem_nil
  | cons first path inductionHypothesis =>
      rw [List.splitOn_cons_eq_if_modifyHead] at membership
      split at membership
      · rcases List.mem_cons.mp membership with rfl | later
        · exact List.not_mem_nil
        · exact inductionHypothesis later
      · next inside =>
          cases cut : path.splitOn alphabet.separator with
          | nil => exact absurd cut (List.splitOn_ne_nil _ _)
          | cons head rest =>
              rw [cut] at membership inductionHypothesis
              rcases List.mem_cons.mp membership with rfl | later
              · have whole := inductionHypothesis List.mem_cons_self
                rw [beq_iff_eq] at inside
                rintro (isFirst | isLater)
                · exact inside rfl
                · next found => exact whole found
              · exact inductionHypothesis (List.mem_cons_of_mem _ later)

theorem isSegment_of_mem {path segment : List Symbol}
    (membership : segment ∈ segments alphabet path) : IsSegment alphabet segment := by
  obtain ⟨inSplit, kept⟩ := List.mem_filter.mp membership
  rw [decide_eq_true_eq] at kept
  exact ⟨kept.1, kept.2, separator_notMem_splitOn inSplit⟩

theorem segments_intercalate {tail : List (List Symbol)}
    (clean : ∀ segment ∈ tail, IsSegment alphabet segment) :
    segments alphabet (List.intercalate [alphabet.separator] tail) = tail := by
  by_cases empty : tail = []
  · rw [empty]
    exact segments_nil
  · unfold segments
    rw [List.splitOn_intercalate _
      (fun segment membership => (clean segment membership).whole) empty,
      List.filter_eq_self]
    intro segment membership
    rw [decide_eq_true_eq]
    exact ⟨(clean segment membership).nonempty, (clean segment membership).notDot⟩

/-! ## Reading a path back -/

theorem segments_single {segment : List Symbol} (clean : IsSegment alphabet segment) :
    segments alphabet segment = [segment] := by
  have single := @segments_intercalate _ _ alphabet [segment] (by simpa using clean)
  simpa [List.intercalate] using single

omit [DecidableEq Symbol] in
theorem IsSegment.relative {segment : List Symbol} (clean : IsSegment alphabet segment) :
    segment.head? ≠ some alphabet.separator := by
  intro rooted
  obtain ⟨rest, rfl⟩ := List.head?_eq_some_iff.mp rooted
  exact clean.whole List.mem_cons_self

omit [DecidableEq Symbol] in
theorem head?_intercalate {tail : List (List Symbol)}
    (clean : ∀ segment ∈ tail, IsSegment alphabet segment) :
    (List.intercalate [alphabet.separator] tail).head? ≠ some alphabet.separator := by
  cases tail with
  | nil => simp [List.intercalate]
  | cons segment rest =>
      have first := clean segment List.mem_cons_self
      obtain ⟨symbol, others, rfl⟩ := List.exists_cons_of_ne_nil first.nonempty
      have starts : (List.intercalate [alphabet.separator] ((symbol :: others) :: rest)).head? =
          some symbol := by
        cases rest <;> simp [List.intercalate]
      rw [starts]
      exact first.relative

theorem splitRoot_splitRoot (path : List Symbol) :
    splitRoot alphabet (splitRoot alphabet path) = splitRoot alphabet path := by
  rcases @splitRoot_cases Symbol _ alphabet path with none | single | double
  · rw [none]; rfl
  · rw [single]; simp [splitRoot]
  · rw [double]; simp [splitRoot]

theorem segments_splitRoot (path : List Symbol) :
    segments alphabet (splitRoot alphabet path) = [] := by
  rcases @splitRoot_cases Symbol _ alphabet path with none | single | double
  · rw [none]; exact segments_nil
  · rw [single]; exact segments_separator
  · rw [double]
    exact (segments_append_separator [alphabet.separator] []).trans (by
      rw [segments_separator, segments_nil, List.append_nil])

/-- The text of a path with a root starts with the root. -/
theorem str_eq_join {path : Path Symbol} {source : List Symbol}
    (isRoot : splitRoot alphabet source = path.root) (rooted : path.root ≠ [])
    (clean : ∀ segment ∈ path.tail, IsSegment alphabet segment) :
    path.str alphabet =
      join alphabet path.root (List.intercalate [alphabet.separator] path.tail) := by
  unfold Path.str join
  rw [if_neg fun empty => rooted empty.1, if_neg (head?_intercalate clean), if_pos]
  rw [← isRoot] at rooted ⊢
  rcases @splitRoot_cases Symbol _ alphabet source with none | single | double
  · exact absurd none rooted
  · rw [single]; exact .inr rfl
  · rw [double]; exact .inr rfl

/-- A path is read back from its text. -/
theorem parse_str {path : Path Symbol} {source : List Symbol}
    (isRoot : splitRoot alphabet source = path.root)
    (clean : ∀ segment ∈ path.tail, IsSegment alphabet segment) :
    parse alphabet (path.str alphabet) = path := by
  have relativeTail := head?_intercalate clean
  by_cases rooted : path.root = []
  · obtain ⟨root, tail⟩ := path
    dsimp only at rooted
    subst rooted
    cases tail with
    | nil =>
        have isRelative : splitRoot alphabet [alphabet.dot] = [] := if_neg alphabet.apart
        have single : [alphabet.dot].splitOn alphabet.separator = [[alphabet.dot]] :=
          List.splitOn_eq_singleton (by simpa using Ne.symm alphabet.apart)
        unfold Path.str
        rw [if_pos ⟨rfl, rfl⟩]
        unfold parse segments
        rw [isRelative, single]
        simp
    | cons segment rest =>
        unfold Path.str
        rw [if_neg fun empty => List.cons_ne_nil _ _ empty.2, List.nil_append]
        unfold parse
        rw [splitRoot_eq_nil.mpr relativeTail, segments_intercalate clean]
  · rw [str_eq_join isRoot rooted clean]
    unfold parse
    rw [splitRoot_join relativeTail, segments_join relativeTail, segments_intercalate clean,
      ← isRoot, splitRoot_splitRoot, segments_splitRoot, List.nil_append, isRoot]

theorem parse_str_parse (path : List Symbol) :
    parse alphabet ((parse alphabet path).str alphabet) = parse alphabet path :=
  parse_str rfl fun _ => isSegment_of_mem

/-- Joining with segments appends them. -/
theorem parse_foldl_join {tail : List (List Symbol)}
    (clean : ∀ segment ∈ tail, IsSegment alphabet segment) (path : List Symbol) :
    parse alphabet (tail.foldl (join alphabet) path) =
      ⟨splitRoot alphabet path, segments alphabet path ++ tail⟩ := by
  induction tail generalizing path with
  | nil => simp [parse]
  | cons segment tail inductionHypothesis =>
      have first := clean segment List.mem_cons_self
      rw [List.foldl_cons, inductionHypothesis fun other membership =>
          clean other (List.mem_cons_of_mem segment membership),
        splitRoot_join first.relative, segments_join first.relative, segments_single first,
        List.append_assoc]
      rfl

/-- The text of a parsed path is not empty. -/
theorem str_parse_ne_nil (path : List Symbol) : (parse alphabet path).str alphabet ≠ [] := by
  unfold Path.str
  split
  · exact List.cons_ne_nil _ _
  · next nonempty =>
      intro empty
      obtain ⟨noRoot, noTail⟩ := List.append_eq_nil_iff.mp empty
      cases cut : segments alphabet path with
      | nil => exact nonempty ⟨noRoot, cut⟩
      | cons segment rest =>
          have first : IsSegment alphabet segment := by
            apply isSegment_of_mem
            rw [cut]
            exact List.mem_cons_self
          change List.intercalate [alphabet.separator] (segments alphabet path) = [] at noTail
          rw [cut] at noTail
          cases rest with
          | nil => exact first.nonempty (by simpa using noTail)
          | cons next rest => simp [List.intercalate] at noTail

/-- The text of a path with a root has a root. -/
theorem isAbsolute_parse_str {path : List Symbol}
    (rooted : path.head? = some alphabet.separator) :
    (parse alphabet ((parse alphabet path).str alphabet)).isAbsolute = true := by
  have starts := head?_splitRoot rooted
  obtain ⟨others, isRoot⟩ := List.head?_eq_some_iff.mp starts
  have text : ((parse alphabet path).str alphabet).head? = some alphabet.separator := by
    unfold parse Path.str
    dsimp only
    rw [isRoot, if_neg (by simp)]
    rfl
  exact decide_eq_true fun noRoot => splitRoot_eq_nil.mp noRoot text

end LexicalPath

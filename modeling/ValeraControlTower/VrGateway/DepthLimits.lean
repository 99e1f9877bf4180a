import ValeraControlTower.Library.JsonLevels
import ValeraControlTower.VrGateway.DecoderDepth
import ValeraControlTower.VrGateway.WireDocuments

/-!
# The depth limits of `_parse_json`

The bracket scan in front of the decoder raises exactly when a container stands below level
sixteen, and what it lets through never has more containers open.  The walk behind the
decoder counts every value, so a value that is no container trips it one level earlier.
-/

namespace ValeraControlTower.Wire

open Unicode Json

variable {K : Type}

/-- An object or an array stands below level sixteen. -/
def TooDeep (tree : Document) : Prop :=
  ∃ level part, maxJsonDepth < level ∧ part.IsContainer ∧ tree.StandsAt level part

theorem denotes_of_isText {source : List Char} {tree : Document} (isText : IsText source tree) :
    Denotes source tree := by
  obtain ⟨before, text, after, same, isBefore, derived, isAfter⟩ := isText
  exact ⟨before, text, after, same, isBefore, derived, stripsToEmpty_of_blank isAfter⟩

theorem checkNestingDepth_raises_iff {source : List Char} {tree : Document}
    (isText : IsText source tree) :
    (∃ exception, checkNestingDepth (ofChars source) = .error exception) ↔ TooDeep tree := by
  rw [checkNestingDepth_of_denotes (denotes_of_isText isText), TooDeep,
    Tree.exists_container_beyond]
  by_cases shallow : tree.nesting ≤ maxJsonDepth
  · rw [if_pos shallow]
    exact iff_of_false nofun (Nat.not_lt.mpr shallow)
  · rw [if_neg shallow]
    exact iff_of_true ⟨_, rfl⟩ (Nat.lt_of_not_le shallow)

/-! ## Nested arrays -/

/-- A document inside as many arrays. -/
def inArrays : ℕ → Document → Document
  | 0, tree => tree
  | levels + 1, tree => .arr [inArrays levels tree]

/-- A text inside as many brackets. -/
def inBrackets : ℕ → List Char → List Char
  | 0, text => text
  | levels + 1, text => '[' :: (inBrackets levels text ++ [']'])

theorem derives_inBrackets {text : List Char} {tree : Document}
    (derived : Derives text (.value tree))
    (levels : ℕ) : Derives (inBrackets levels text) (.value (inArrays levels tree)) := by
  induction levels with
  | zero => exact derived
  | succ levels inductionHypothesis =>
      have item := Derives.lastItem Blank.nil inductionHypothesis Blank.nil
      rw [List.nil_append, List.append_nil] at item
      exact .array item

theorem isText_inBrackets {text : List Char} {tree : Document}
    (derived : Derives text (.value tree))
    (levels : ℕ) : IsText (inBrackets levels text) (inArrays levels tree) :=
  ⟨[], _, [], by simp, Blank.nil, derives_inBrackets derived levels, Blank.nil⟩

theorem standsAt_inArrays (tree : Document) (levels : ℕ) {part : Document} :
    (inArrays levels tree).StandsAt (levels + 1) part ↔ part = tree := by
  induction levels with
  | zero =>
      constructor
      · intro stands
        cases stands with
        | root => rfl
        | child _ below => exact absurd below Tree.not_standsAt_zero
      · rintro rfl
        exact .root part
  | succ levels inductionHypothesis =>
      rw [Tree.standsAt_succ, ← inductionHypothesis]
      simp [inArrays, Tree.children]

/-! ## The scan -/

/-- The scan is exact on texts of the grammar and sound on every string: what it lets through
never has more than sixteen containers open in a decoder, whatever its hooks, so the decoder of
`_parse_json` and the walks behind it do not run out of stack. -/
theorem checkNestingDepth_guards (M : FloatMath K) :
    (∀ (source : List Char) (tree : Document), IsText source tree →
      ((∃ exception, checkNestingDepth (ofChars source) = .error exception) ↔ TooDeep tree)) ∧
    ∀ raw : PyStr, (¬∃ exception, checkNestingDepth raw = .error exception) →
      (∀ (hooks : DecoderHooks K) (calls : ℕ),
        JsonDecoder.mostOpen hooks calls (JsonDecoder.skipWhitespace raw) ≤ maxJsonDepth) ∧
      JsonDecoder.rawDecode (decoderHooks M parseInt) (JsonDecoder.skipWhitespace raw) ≠
        .error .recursionError ∧
      ∀ document rest,
        JsonDecoder.rawDecode (decoderHooks M parseInt) (JsonDecoder.skipWhitespace raw) =
          .ok (document, rest) → document.depth ≤ maxJsonDepth + 1 := by
  refine ⟨fun _ _ => checkNestingDepth_raises_iff, fun raw silent => ?_⟩
  have passes : checkNestingDepth raw = .ok () := by
    rcases checkNestingDepth_failsClosed raw with ⟨_, passes⟩ | ⟨_, raised⟩
    · exact passes
    · exact absurd ⟨_, raised⟩ silent
  have survives := JsonDecoder.survives_of_checkNestingDepth passes
  have within (hooks : DecoderHooks K) (calls : ℕ) :=
    (JsonDecoder.scansWithin hooks calls).value survives
  have plain := JsonDecoder.plain_decoderHooks M
  refine ⟨fun hooks calls => ?_, (within _ _).lasts plain (Nat.le_refl _),
    fun document rest returned => ?_⟩
  · have allowed := (within hooks calls).allowed
    rwa [Nat.zero_add] at allowed
  · have nested := (within _ _).nested plain document rest returned
    have allowed := (within (decoderHooks M parseInt)
      (2 * (JsonDecoder.skipWhitespace raw).length + 1)).allowed
    have shallow := Tree.depth_le_nesting_succ document
    omega

/-- Seventeen arrays are refused; sixteen are let through, and no decoder has more open. -/
theorem checkNestingDepth_guards_arrays :
    (∃ exception, checkNestingDepth (ofChars (inBrackets 16 ['[', ']'])) = .error exception) ∧
      ∀ (hooks : DecoderHooks ℚ) (calls : ℕ),
        JsonDecoder.mostOpen hooks calls
          (JsonDecoder.skipWhitespace (ofChars (inBrackets 15 ['[', ']']))) ≤ maxJsonDepth := by
  obtain ⟨exact, guards⟩ := checkNestingDepth_guards FloatMath.axis
  have innermost : Derives ['[', ']'] (.value (.arr [])) := .emptyArray Blank.nil
  constructor
  · apply (exact _ _ (isText_inBrackets innermost 16)).mpr
    exact ⟨17, .arr [], by decide, trivial, (standsAt_inArrays _ 16).mpr rfl⟩
  · refine (guards _ ?_).1
    have passes : checkNestingDepth (ofChars (inBrackets 15 ['[', ']'])) = .ok () := by
      decide +kernel
    rw [passes]
    rintro ⟨_, ⟨⟩⟩

/-! ## The walk behind the decoder -/

/-- The scan of the text and the walk over the parsed value raise exactly when a container
stands too deep, and so on the same texts. -/
def DepthLimitsAgree (source : List Char) (tree : Document) (document : PyJson K) : Prop :=
  ((∃ exception, checkNestingDepth (ofChars source) = .error exception) ↔
    ∃ exception, checkDepth 1 document = .error exception) ∧
  ((∃ exception, checkNestingDepth (ofChars source) = .error exception) ↔ TooDeep tree) ∧
  ((∃ exception, checkDepth 1 document = .error exception) ↔ TooDeep tree)

/-- The decoder returns the document of the text, if it returns. -/
theorem rawDecode_of_isText {M : FloatMath K} {source : List Char} {tree : Document}
    (isText : IsText source tree) (distinct : tree.DistinctKeys) {document : PyJson K}
    {rest : PyStr}
    (parsed : JsonDecoder.rawDecode (decoderHooks M parseInt)
      (JsonDecoder.skipWhitespace (ofChars source)) = .ok (document, rest)) :
    document = pyDocument M tree := by
  obtain ⟨before, text, after, rfl, isBefore, derived, isAfter⟩ := isText
  have returns := rawDecode_returns M isBefore derived (stripsToEmpty_of_blank isAfter) distinct
  rcases returns with ⟨_, same⟩ | ⟨_, raised⟩
  · cases same.symm.trans parsed
    rfl
  · cases raised.symm.trans parsed

theorem Checks.raises_iff {outcome : Except PyException Unit} {property : Prop}
    (checks : Checks outcome property) :
    (∃ exception, outcome = .error exception) ↔ ¬property := by
  rcases checks with ⟨holds, rfl⟩ | ⟨fails, message, rfl⟩
  · exact iff_of_false nofun (not_not.mpr holds)
  · exact iff_of_true ⟨_, rfl⟩ fails

/-- The walk raises when any value stands too deep. -/
theorem checkDepth_raises_iff (M : FloatMath K) (tree : Document) :
    (∃ exception, checkDepth 1 (pyDocument M tree) = .error exception) ↔
      ∃ part, tree.StandsAt (maxJsonDepth + 1) part := by
  rw [(checkDepth_checks 1 (pyDocument M tree)).raises_iff, Tree.depth_map, ← Tree.lt_depth_iff]
  omega

theorem tooDeep_iff (tree : Document) :
    TooDeep tree ↔ ∃ part, part.IsContainer ∧ tree.StandsAt (maxJsonDepth + 1) part := by
  rw [TooDeep, Tree.exists_container_beyond, Tree.lt_nesting_iff]

/-- The two limits agree unless only values that are no containers stand on level
seventeen. -/
theorem depthLimitsAgree_iff (M : FloatMath K) {source : List Char} {tree : Document}
    (isText : IsText source tree) (distinct : tree.DistinctKeys) {document : PyJson K}
    {rest : PyStr}
    (parsed : JsonDecoder.rawDecode (decoderHooks M parseInt)
      (JsonDecoder.skipWhitespace (ofChars source)) = .ok (document, rest)) :
    DepthLimitsAgree source tree document ↔
      ((∃ part, tree.StandsAt (maxJsonDepth + 1) part) →
        ∃ part, part.IsContainer ∧ tree.StandsAt (maxJsonDepth + 1) part) := by
  obtain rfl := rawDecode_of_isText isText distinct parsed
  rw [DepthLimitsAgree, checkNestingDepth_raises_iff isText, checkDepth_raises_iff, tooDeep_iff]
  constructor
  · intro agree
    exact agree.1.mpr
  · intro onlyContainers
    have same : (∃ part, part.IsContainer ∧ tree.StandsAt (maxJsonDepth + 1) part) ↔
        ∃ part, tree.StandsAt (maxJsonDepth + 1) part :=
      ⟨fun ⟨part, _, stands⟩ => ⟨part, stands⟩, onlyContainers⟩
    exact ⟨same, Iff.rfl, same.symm⟩

theorem distinctKeys_inArrays {tree : Document} (distinct : tree.DistinctKeys) (levels : ℕ) :
    (inArrays levels tree).DistinctKeys := by
  induction levels with
  | zero => exact distinct
  | succ levels inductionHypothesis => exact ⟨inductionHypothesis, trivial⟩

theorem shortIntegers_inArrays {tree : Document} (short : ShortIntegers tree) (levels : ℕ) :
    ShortIntegers (inArrays levels tree) := by
  induction levels with
  | zero => exact short
  | succ levels inductionHypothesis => exact ⟨inductionHypothesis, trivial⟩

theorem rawDecode_inBrackets (M : FloatMath K) {text : List Char} {tree : Document}
    (derived : Derives text (.value tree)) (distinct : tree.DistinctKeys)
    (short : ShortIntegers tree)
    (levels : ℕ) :
    JsonDecoder.rawDecode (decoderHooks M parseInt)
        (JsonDecoder.skipWhitespace (ofChars (inBrackets levels text))) =
      .ok (pyDocument M (inArrays levels tree), []) := by
  have decoded := @rawDecode_of_denotes K M [] _ [] _ Blank.nil (derives_inBrackets derived levels)
    rfl (distinctKeys_inArrays distinct levels) (shortIntegers_inArrays short levels)
  rwa [List.nil_append, List.append_nil] at decoded

/-- Seventeen arrays, the innermost empty, trip both limits. -/
theorem depthLimitsAgree_emptyArrays :
    DepthLimitsAgree (inBrackets 16 ['[', ']']) (inArrays 16 (.arr []))
      (pyDocument FloatMath.axis (inArrays 16 (.arr []))) := by
  have innermost : Derives ['[', ']'] (.value (.arr [])) := .emptyArray Blank.nil
  have distinct : (Tree.arr [] : Document).DistinctKeys := trivial
  apply (depthLimitsAgree_iff FloatMath.axis (isText_inBrackets innermost 16)
    (distinctKeys_inArrays distinct 16)
    (rawDecode_inBrackets FloatMath.axis innermost distinct trivial 16)).mpr
  exact fun _ => ⟨.arr [], trivial, (standsAt_inArrays _ 16).mpr rfl⟩

/-- Sixteen arrays around `null` pass the scan and trip the walk. -/
theorem not_always_depthLimitsAgree :
    ¬∀ (source : List Char) (tree : Document) (document : PyJson ℚ) (rest : PyStr),
      IsText source tree → tree.DistinctKeys →
      JsonDecoder.rawDecode (decoderHooks FloatMath.axis parseInt)
        (JsonDecoder.skipWhitespace (ofChars source)) = .ok (document, rest) →
      DepthLimitsAgree source tree document := by
  intro always
  have distinct : (Tree.null : Document).DistinctKeys := trivial
  have agree :=
    always _ _ _ _ (isText_inBrackets Derives.null 16) (distinctKeys_inArrays distinct 16)
    (rawDecode_inBrackets FloatMath.axis .null distinct trivial 16)
  have walkRaises := (checkDepth_raises_iff FloatMath.axis (inArrays 16 .null)).mpr
    ⟨.null, (standsAt_inArrays _ 16).mpr rfl⟩
  obtain ⟨part, isContainer, stands⟩ := (tooDeep_iff _).mp (agree.2.2.mp walkRaises)
  rw [(standsAt_inArrays .null 16).mp stands] at isContainer
  exact isContainer

end ValeraControlTower.Wire

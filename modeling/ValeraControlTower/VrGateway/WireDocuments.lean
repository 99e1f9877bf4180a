import ValeraControlTower.VrGateway.BracketScan
import ValeraControlTower.VrGateway.DecoderSoundness
import ValeraControlTower.VrGateway.DecoderCompleteness

/-!
# The documents `_parse_json` returns

`_parse_json` returns the document a text denotes, if it is `Readable`; otherwise it
raises a `WireError`, or the `ValueError` of an overlong integer literal.
-/

namespace ValeraControlTower

open Unicode Json

variable {K : Type} {M : FloatMath K}

namespace Wire

/-! ## Failing closed -/

/-- A call that returns or raises a `WireError`. -/
def FailsClosed {α : Type} (outcome : Except PyException α) : Prop :=
  (∃ value, outcome = .ok value) ∨ ∃ message, outcome = .error (.wireError message)

theorem FailsClosed.ok {α : Type} (value : α) : FailsClosed (.ok value) := .inl ⟨value, rfl⟩

theorem FailsClosed.wireError {α : Type} (message : String) :
    FailsClosed (.error (.wireError message) : Except PyException α) :=
  .inr ⟨message, rfl⟩

theorem FailsClosed.bind {α β : Type} {outcome : Except PyException α}
    {next : α → Except PyException β} (first : FailsClosed outcome)
    (second : ∀ value, outcome = .ok value → FailsClosed (next value)) :
    FailsClosed (outcome >>= next) := by
  rcases first with ⟨value, rfl⟩ | ⟨message, rfl⟩
  · exact second value rfl
  · exact .wireError message

theorem FailsClosed.map {α β : Type} {outcome : Except PyException α}
    (closed : FailsClosed outcome) (next : α → β) : FailsClosed (next <$> outcome) := by
  rcases closed with ⟨value, rfl⟩ | ⟨message, rfl⟩
  · exact .ok _
  · exact .wireError message

/-- A check that passes when the property holds and raises a `WireError` when it does not. -/
def Checks (outcome : Except PyException Unit) (property : Prop) : Prop :=
  (property ∧ outcome = .ok ()) ∨ (¬property ∧ ∃ message, outcome = .error (.wireError message))

theorem Checks.ok {outcome : Except PyException Unit} (passes : outcome = .ok ()) :
    Checks outcome True :=
  .inl ⟨trivial, passes⟩

theorem Checks.bind {outcome outcome' : Except PyException Unit} {property property' : Prop}
    (first : Checks outcome property) (second : Checks outcome' property') :
    Checks (outcome >>= fun _ => outcome') (property ∧ property') := by
  rcases first with ⟨holds, rfl⟩ | ⟨fails, message, rfl⟩
  · rcases second with ⟨holds', later⟩ | ⟨fails', message, later⟩
    · exact .inl ⟨⟨holds, holds'⟩, later⟩
    · exact .inr ⟨fun both => fails' both.2, message, later⟩
  · exact .inr ⟨fun both => fails both.1, message, rfl⟩

theorem Checks.congr {outcome : Except PyException Unit} {property property' : Prop}
    (checks : Checks outcome property) (same : property ↔ property') :
    Checks outcome property' := by
  rwa [← propext same]

theorem Checks.failsClosed {outcome : Except PyException Unit} {property : Prop}
    (checks : Checks outcome property) : FailsClosed outcome := by
  rcases checks with ⟨_, rfl⟩ | ⟨_, message, rfl⟩
  · exact .ok ()
  · exact .wireError message

theorem Checks.ok_iff {outcome : Except PyException Unit} {property : Prop}
    (checks : Checks outcome property) : outcome = .ok () ↔ property := by
  rcases checks with ⟨holds, rfl⟩ | ⟨fails, message, rfl⟩
  · exact iff_of_true rfl holds
  · exact iff_of_false (by simp) fails

/-! ## Walks over the document -/

/-- A value that lies too deep itself. -/
theorem checkDepth_deep {depth : ℕ} (deep : depth > maxJsonDepth) (tree : PyJson K) :
    Checks (checkDepth depth tree) (depth + tree.depth ≤ maxJsonDepth + 1) := by
  have positive := tree.depth_pos
  refine .inr ⟨by omega, "JSON nesting depth exceeds 16", ?_⟩
  cases tree with
  | null | bool _ | num _ | str _ | arr _ | obj _ => exact if_pos deep

mutual

theorem checkDepth_checks (depth : ℕ) (tree : PyJson K) :
    Checks (checkDepth depth tree) (depth + tree.depth ≤ maxJsonDepth + 1) := by
  by_cases deep : depth > maxJsonDepth
  · exact checkDepth_deep deep tree
  · cases tree with
    | null | bool _ | num _ | str _ =>
        refine .inl ⟨?_, if_neg deep⟩
        change depth + 1 ≤ _
        omega
    | arr items =>
        rw [checkDepth, if_neg deep]
        apply (checkDepthItems_checks (depth + 1) (by omega) items).congr
        rw [Tree.depth, Nat.add_assoc]
    | obj members =>
        rw [checkDepth, if_neg deep]
        apply (checkDepthMembers_checks (depth + 1) (by omega) members).congr
        rw [Tree.depth, Nat.add_assoc]

theorem checkDepthItems_checks (depth : ℕ) (shallow : depth ≤ maxJsonDepth + 1)
    (items : List (PyJson K)) :
    Checks (checkDepthItems depth items) (depth + Tree.depthItems items ≤ maxJsonDepth + 1) := by
  cases items with
  | nil => exact .inl ⟨shallow, rfl⟩
  | cons item items =>
      rw [checkDepthItems, Tree.depthItems]
      refine ((checkDepth_checks depth item).bind
        (checkDepthItems_checks depth shallow items)).congr ?_
      omega

theorem checkDepthMembers_checks (depth : ℕ) (shallow : depth ≤ maxJsonDepth + 1)
    (members : PyPairs K) :
    Checks (checkDepthMembers depth members)
      (depth + Tree.depthMembers members ≤ maxJsonDepth + 1) := by
  cases members with
  | nil => exact .inl ⟨shallow, rfl⟩
  | cons member members =>
      rw [checkDepthMembers, Tree.depthMembers]
      refine ((checkDepth_checks depth member.2).bind
        (checkDepthMembers_checks depth shallow members)).congr ?_
      omega

end

/-- No surrogate of the text is on its own. -/
abbrev Proper (units : List CodeUnit) : Prop := wellFormed units = true

theorem rejectSurrogateString_checks (units : List CodeUnit) :
    Checks (rejectSurrogateString (codePoints units)) (Proper units) := by
  unfold rejectSurrogateString
  rw [any_isSurrogate_codePoints]
  by_cases proper : wellFormed units = true
  · rw [if_neg (by simp [proper])]
    exact .inl ⟨proper, rfl⟩
  · rw [if_pos (by simp [proper])]
    exact .inr ⟨proper, _, rfl⟩

mutual

theorem rejectSurrogates_checks (M : FloatMath K) (tree : Document) :
    Checks (rejectSurrogates (pyDocument M tree)) (tree.Strings Proper) := by
  cases tree with
  | null | bool _ | num _ => exact .ok rfl
  | str units => exact rejectSurrogateString_checks units
  | arr items => exact rejectSurrogatesItems_checks M items
  | obj members => exact rejectSurrogatesMembers_checks M members

theorem rejectSurrogatesItems_checks (M : FloatMath K) (items : List Document) :
    Checks (rejectSurrogatesItems (pyItems M items)) (Tree.StringsItems Proper items) := by
  cases items with
  | nil => exact .ok rfl
  | cons item items =>
      exact (rejectSurrogates_checks M item).bind (rejectSurrogatesItems_checks M items)

theorem rejectSurrogatesMembers_checks (M : FloatMath K)
    (members : List (List CodeUnit × Document)) :
    Checks (rejectSurrogatesMembers (pyMembers M members))
      (Tree.StringsMembers Proper members) := by
  cases members with
  | nil => exact .ok rfl
  | cons member members =>
      exact (rejectSurrogateString_checks member.1).bind
        ((rejectSurrogates_checks M member.2).bind (rejectSurrogatesMembers_checks M members))

end

/-! ## `_parse_json` -/

/-- The text is one value, behind blanks and in front of white space. -/
def Denotes (source : List Char) (tree : Document) : Prop :=
  ∃ before text after, source = before ++ (text ++ after) ∧ Blank before ∧
    Derives text (.value tree) ∧ stripsToEmpty (ofChars after) = true

/-- A document that passes every check of `_parse_json`. -/
structure Readable (tree : Document) : Prop where
  distinct : tree.DistinctKeys
  short : ShortIntegers tree
  shallow : tree.depth ≤ maxJsonDepth
  proper : tree.Strings Proper

/-- Reading the text reaches an integer literal that `int` refuses. -/
def RefusesInteger (source : List Char) : Prop :=
  checkNestingDepth (ofChars source) = .ok () ∧
    ∃ before text, source = before ++ text ∧ Blank before ∧ ReachesOverlong text .value

theorem next_failsClosed (scan : BracketScan) (point : CodePoint) :
    FailsClosed (scan.next point) := by
  unfold BracketScan.next
  dsimp only
  split
  · exact .ok _
  · split
    · exact .ok _
    · split
      · exact .ok _
      · split
        · exact .ok _
        · split
          · split
            · exact .wireError _
            · exact .ok _
          · split
            · split
              · exact .wireError _
              · exact .ok _
            · exact .ok _

theorem checkNestingDepth_failsClosed (raw : PyStr) : FailsClosed (checkNestingDepth raw) := by
  have scanned (scan : BracketScan) : FailsClosed (raw.foldlM BracketScan.next scan) := by
    induction raw generalizing scan with
    | nil => exact .ok scan
    | cons point raw inductionHypothesis =>
        rw [List.foldlM_cons]
        exact (next_failsClosed scan point).bind fun later _ => inductionHypothesis later
  exact (scanned {}).bind fun _ _ => .ok ()

theorem isSpace_separates {point : CodePoint} (space : isSpace point = true) :
    Digit.ofCode? point.val = none ∧ point.val ≠ '.'.toNat ∧ point.val ≠ 'e'.toNat ∧
      point.val ≠ 'E'.toNat := by
  simp only [isSpace, Bool.or_eq_true, decide_eq_true_eq, beq_iff_eq] at space
  have noDigit : Digit.ofCode? point.val = none := if_neg (by omega)
  refine ⟨noDigit, ?_, ?_, ?_⟩
  · change point.val ≠ 46
    omega
  · change point.val ≠ 101
    omega
  · change point.val ≠ 69
    omega

theorem closed_of_stripsToEmpty {rest : PyStr} (blank : stripsToEmpty rest = true) :
    Numeral.Closed rest := by
  intro code head
  exact isSpace_separates (List.all_eq_true.mp blank code (List.mem_of_head? head))

/-- Python strips the white space of JSON. -/
theorem stripsToEmpty_of_blank {after : List Char} (isBlank : Blank after) :
    stripsToEmpty (ofChars after) = true := by
  apply List.all_eq_true.mpr
  intro point membership
  obtain ⟨char, inAfter, rfl⟩ := List.mem_map.mp membership
  have blank := isBlank char inAfter
  simp only [blankChar, Bool.or_eq_true, decide_eq_true_eq] at blank
  rcases blank with ((rfl | rfl) | rfl) | rfl <;> decide

theorem neutral_of_isSpace {char : Char} (space : isSpace (CodePoint.ofChar char) = true) :
    neutral char = true := by
  simp only [neutral, Bool.and_eq_true, decide_eq_true_eq]
  refine ⟨⟨⟨⟨⟨?_, ?_⟩, ?_⟩, ?_⟩, ?_⟩, ?_⟩ <;>
    · rintro rfl
      revert space
      decide

/-- The scan sees the nesting of the document. -/
theorem checkNestingDepth_of_denotes {source : List Char} {tree : Document}
    (denotes : Denotes source tree) :
    checkNestingDepth (ofChars source) =
      if tree.nesting ≤ maxJsonDepth then .ok ()
      else .error (.wireError "JSON nesting depth exceeds 16") := by
  obtain ⟨before, text, after, rfl, isBefore, derived, isAfter⟩ := denotes
  apply checkNestingDepth_of_passes
  have passesAfter : Passes after 0 := by
    apply Passes.neutral
    intro char membership
    exact neutral_of_isSpace
      (List.all_eq_true.mp isAfter _ (List.mem_map_of_mem membership))
  have passes := (Passes.blank isBefore).append ((Passes.of_derives derived).append passesAfter)
  simpa [partNesting] using passes

theorem rawDecode_returns (M : FloatMath K) {before text after : List Char} {tree : Document}
    (isBefore : Blank before) (derived : Derives text (.value tree))
    (isAfter : stripsToEmpty (ofChars after) = true) (distinct : tree.DistinctKeys) :
    JsonDecoder.Returns (JsonDecoder.rawDecode (decoderHooks M parseInt)
        (JsonDecoder.skipWhitespace (ofChars (before ++ (text ++ after)))))
      (pyDocument M tree, ofChars after) (ShortIntegers tree) := by
  rw [ofChars_append, ofChars_append, JsonDecoder.skipWhitespace_blank_value isBefore derived]
  have long : 2 * text.length < 2 * (ofChars text ++ ofChars after).length + 1 := by
    rw [List.length_append, ofChars, List.length_map]
    omega
  exact JsonDecoder.readsBack M derived distinct _ (ofChars after) long
    (closed_of_stripsToEmpty isAfter)

theorem rawDecode_of_denotes (M : FloatMath K) {before text after : List Char} {tree : Document}
    (isBefore : Blank before) (derived : Derives text (.value tree))
    (isAfter : stripsToEmpty (ofChars after) = true) (distinct : tree.DistinctKeys)
    (short : ShortIntegers tree) :
    JsonDecoder.rawDecode (decoderHooks M parseInt)
        (JsonDecoder.skipWhitespace (ofChars (before ++ (text ++ after)))) =
      .ok (pyDocument M tree, ofChars after) := by
  rcases rawDecode_returns M isBefore derived isAfter distinct with ⟨_, same⟩ | ⟨notShort, _⟩
  · exact same
  · exact absurd short notShort

theorem parseJson_of_denotes (M : FloatMath K) {source : List Char} {tree : Document}
    (denotes : Denotes source tree) (readable : Readable tree) :
    parseJson M parseInt (ofChars source) = .ok (pyDocument M tree) := by
  have nested := checkNestingDepth_of_denotes denotes
  rw [if_pos (tree.nesting_le_depth.trans readable.shallow)] at nested
  obtain ⟨before, text, after, rfl, isBefore, derived, isAfter⟩ := denotes
  have decoded := rawDecode_of_denotes M isBefore derived isAfter readable.distinct readable.short
  have deep := (checkDepth_checks 1 (pyDocument M tree)).ok_iff.mpr (by
    rw [Tree.depth_map]
    have shallow := readable.shallow
    omega)
  have proper := (rejectSurrogates_checks M tree).ok_iff.mpr readable.proper
  unfold parseJson
  simp only [nested, decoded, catchDecodeErrors, isAfter, deep, proper, bind, Except.bind, pure,
    Except.pure, Bool.not_true, Bool.false_eq_true, if_false]

/-- The checks behind `raw_decode`. -/
def checkDocument (read : PyJson K × PyStr) : Except PyException (PyJson K) := do
  if !stripsToEmpty read.2 then throw (.wireError "trailing data after JSON document")
  checkDepth 1 read.1
  rejectSurrogates read.1
  return read.1

theorem parseJson_eq (M : FloatMath K) (raw : PyStr) :
    parseJson M parseInt raw = checkNestingDepth raw >>= fun _ =>
      catchDecodeErrors (JsonDecoder.rawDecode (decoderHooks M parseInt)
        (JsonDecoder.skipWhitespace raw)) >>= checkDocument :=
  rfl

theorem checkDocument_failsClosed (M : FloatMath K) (tree : Document) (rest : PyStr) :
    FailsClosed (checkDocument (pyDocument M tree, rest)) := by
  unfold checkDocument
  dsimp only
  split
  · exact .wireError _
  · apply (checkDepth_checks 1 (pyDocument M tree)).failsClosed.bind
    intro _ _
    exact (rejectSurrogates_checks M tree).failsClosed.bind fun _ _ => .ok _

theorem checkDocument_sound {tree : Document} {rest : PyStr} {document : PyJson K}
    (returned : checkDocument (pyDocument M tree, rest) = .ok document) :
    document = pyDocument M tree ∧ stripsToEmpty rest = true ∧ tree.depth ≤ maxJsonDepth ∧
      tree.Strings Proper := by
  unfold checkDocument at returned
  dsimp only at returned
  cases isAfter : stripsToEmpty rest with
  | false =>
      rw [isAfter] at returned
      cases returned
  | true =>
      rw [isAfter] at returned
      obtain ⟨_, deep, returned⟩ := bind_eq_ok returned
      obtain ⟨_, proper, returned⟩ := bind_eq_ok returned
      cases returned
      have shallow := (checkDepth_checks 1 (pyDocument M tree)).ok_iff.mp deep
      rw [Tree.depth_map] at shallow
      exact ⟨rfl, rfl, by omega, (rejectSurrogates_checks M tree).ok_iff.mp proper⟩

theorem parseJson_sound {source : List Char} {document : PyJson K}
    (returned : parseJson M parseInt (ofChars source) = .ok document) :
    ∃ tree, Denotes source tree ∧ Readable tree ∧ document = pyDocument M tree := by
  rw [parseJson_eq] at returned
  obtain ⟨_, _, returned⟩ := bind_eq_ok returned
  obtain ⟨⟨read, rest⟩, decoded, returned⟩ := bind_eq_ok returned
  obtain ⟨before, text, rfl, isBefore, skipped⟩ := JsonDecoder.skipWhitespace_sound source
  rw [skipped] at decoded
  have explained := (JsonDecoder.scannersExplain M (2 * (ofChars text).length + 1)).value text
  change JsonDecoder.Explains _ _
    (JsonDecoder.rawDecode (decoderHooks M parseInt) (ofChars text)) at explained
  generalize JsonDecoder.rawDecode (decoderHooks M parseInt) (ofChars text) = outcome
    at decoded explained
  cases outcome with
  | error exception =>
      unfold catchDecodeErrors at decoded
      split at decoded <;> cases decoded
  | ok _ =>
      cases decoded
      obtain ⟨after, same, value, tree, rfl, derived, distinct, short, rfl⟩ := explained
      obtain ⟨rfl, isAfter, shallow, proper⟩ := checkDocument_sound returned
      rw [same] at isAfter
      exact ⟨tree, ⟨before, value, after, rfl, isBefore, derived, isAfter⟩,
        ⟨distinct, short, shallow, proper⟩, rfl⟩

theorem parseJson_of_refusesInteger (M : FloatMath K) {source : List Char}
    (refuses : RefusesInteger source) :
    parseJson M parseInt (ofChars source) = .error .valueError := by
  obtain ⟨nested, before, text, rfl, isBefore, reaches⟩ := refuses
  have stopped := reaches.stops M (2 * (ofChars text).length + 1) (by
    rw [ofChars, List.length_map]
    omega)
  rw [parseJson_eq, nested]
  rw [ofChars_append, JsonDecoder.skipWhitespace_blank isBefore,
    JsonDecoder.skipWhitespace_reaches reaches]
  change catchDecodeErrors (JsonDecoder.scanOnce _ _ _) >>= checkDocument = _
  rw [stopped]
  rfl

/-- `_parse_json` raises nothing but a `WireError`, unless the text reaches an integer
literal of more than 4300 digits. -/
theorem parseJson_failsClosed_iff (M : FloatMath K) (source : List Char) :
    FailsClosed (parseJson M parseInt (ofChars source)) ↔ ¬RefusesInteger source := by
  constructor
  · intro closed refuses
    rw [parseJson_of_refusesInteger M refuses] at closed
    rcases closed with ⟨_, returned⟩ | ⟨_, raised⟩
    · cases returned
    · cases raised
  · intro accepts
    rw [parseJson_eq]
    apply (checkNestingDepth_failsClosed _).bind
    intro _ nested
    obtain ⟨before, text, rfl, isBefore, skipped⟩ := JsonDecoder.skipWhitespace_sound source
    rw [skipped]
    have explained := (JsonDecoder.scannersExplain M (2 * (ofChars text).length + 1)).value text
    change JsonDecoder.Explains _ _
      (JsonDecoder.rawDecode (decoderHooks M parseInt) (ofChars text)) at explained
    generalize JsonDecoder.rawDecode (decoderHooks M parseInt) (ofChars text) = outcome
      at explained
    cases outcome with
    | error exception =>
        rcases explained with refusal | ⟨_, reaches⟩
        · cases refusal with
          | jsonDecodeError message => exact .wireError _
          | recursionError => exact .wireError _
          | wireError message => exact .wireError _
        · exact absurd ⟨nested, before, text, rfl, isBefore, reaches⟩ accepts
    | ok read =>
        obtain ⟨document, rest⟩ := read
        obtain ⟨_, _, _, tree, _, _, _, _, rfl⟩ := explained
        exact checkDocument_failsClosed M tree rest

end Wire

end ValeraControlTower

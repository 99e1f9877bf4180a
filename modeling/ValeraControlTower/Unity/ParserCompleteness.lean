import ValeraControlTower.Library.JsonGrammar
import ValeraControlTower.Unity.ParserNumbers

/-!
# What the strict parser reads

Every text of the grammar with the numbers of `ReadNumber` is read back, if its objects have
distinct keys, its strings no lone surrogates, and its containers do not lie too deep; if
only they do, that is what the parser complains of.
-/

namespace ValeraControlTower.Unity

open Unicode Json CsString

/-- The value a document is parsed to. -/
abbrev csDocument (tree : Document) : JsonValue := tree.map id numberText

namespace StrictJsonParser

/-! ## Single steps -/

theorem readValue_skip (levels : ℕ) (source : CsString) :
    readValue levels (skipWhitespace source) = readValue levels source := by
  cases levels with
  | zero => rfl
  | succ levels => rw [readValue, skipWhitespace_idempotent, readValue]

theorem readValue_blank {levels : ℕ} {blank : List Char} (isBlank : Blank blank)
    (rest : CsString) : readValue levels (utf16 blank ++ rest) = readValue levels rest := by
  rw [← readValue_skip, skipWhitespace_blank isBlank, readValue_skip]

theorem readValue_object (levels : ℕ) (source : CsString) :
    readValue (levels + 1) (CodeUnit.ofChar '{' :: source) =
      readObject (readValue levels) source := by
  rw [readValue, skipWhitespace_char (by decide) (by decide)]
  exact if_pos rfl

theorem readValue_array (levels : ℕ) (source : CsString) :
    readValue (levels + 1) (CodeUnit.ofChar '[' :: source) =
      readArray (readValue levels) source := by
  rw [readValue, skipWhitespace_char (by decide) (by decide)]
  dsimp only
  rw [if_neg (by decide), if_pos rfl]

theorem readValue_string (levels : ℕ) (source : CsString) :
    readValue (levels + 1) (CodeUnit.ofChar '"' :: source) =
      (readString (CodeUnit.ofChar '"' :: source)).map fun read => (.str read.1, read.2) := by
  rw [readValue, skipWhitespace_char (by decide) (by decide)]
  dsimp only
  rw [if_neg (by decide), if_neg (by decide), if_pos rfl]

/-- The characters a number starts with. -/
theorem readValue_number (levels : ℕ) {unit : CodeUnit} (starts : StartsNumber unit)
    (source : CsString) :
    readValue (levels + 1) (unit :: source) =
      (readNumber (unit :: source)).map fun read => (.num read.1, read.2) := by
  have apart : ∀ char ∈ [' ', '\t', '\r', '\n', '{', '[', '"', 't', 'f', 'n'],
      unit ≠ CodeUnit.ofChar char := by
    rintro char membership rfl
    simp only [List.mem_cons, List.not_mem_nil, or_false] at membership
    rcases membership with rfl | rfl | rfl | rfl | rfl | rfl | rfl | rfl | rfl | rfl <;>
      exact absurd starts (by unfold StartsNumber; decide)
  have solid : ¬isWhitespace unit = true := by
    simp [isWhitespace, apart]
  have still : skipWhitespace (unit :: source) = unit :: source := List.dropWhile_cons_of_neg solid
  rw [readValue, still]
  dsimp only
  rw [if_neg (apart '{' (by simp)), if_neg (apart '[' (by simp)), if_neg (apart '"' (by simp)),
    if_neg (apart 't' (by simp)), if_neg (apart 'f' (by simp)), if_neg (apart 'n' (by simp))]
  exact if_pos starts

/-- A number starts like one. -/
theorem IsNumber.starts {text : CsString} (isNumber : IsNumber text) :
    ∃ unit after, text = unit :: after ∧ StartsNumber unit := by
  cases isNumber with
  | positive ascii => exact ⟨_, _, rfl, .inr ascii⟩
  | negative => exact ⟨_, _, rfl, .inl rfl⟩

theorem readValue_isNumber (levels : ℕ) {text : CsString} (isNumber : IsNumber text)
    {rest : CsString} (ends : Ends rest) :
    readValue (levels + 1) (text ++ rest) = .ok (.num text, rest) := by
  have read := readNumber_of_isNumber isNumber ends
  obtain ⟨unit, after, rfl, starts⟩ := isNumber.starts
  rw [List.cons_append] at read ⊢
  rw [readValue_number levels starts, read]
  rfl

/-- A text the parser reads as a number, and the text it keeps. -/
def Literal (chars : List Char) (text : CsString) : Prop := utf16 chars = text ∧ IsNumber text

/-- No number starts with a separator. -/
theorem solid_literal : Solid Literal := by
  rintro chars text ⟨rfl, isNumber⟩
  obtain ⟨unit, after, same, starts⟩ := isNumber.starts
  cases chars with
  | nil => cases same
  | cons char chars =>
      refine ⟨char, chars, rfl, ?_⟩
      by_contra separates
      have isSeparator : separator char = true := by simpa using separates
      have basic : char.toNat < 0x10000 := by
        simp only [separator, blankChar, Bool.or_eq_true, decide_eq_true_eq] at isSeparator
        rcases isSeparator with ((((((rfl | rfl) | rfl) | rfl) | rfl) | rfl) | rfl) | rfl <;> decide
      rw [utf16_basic basic] at same
      obtain ⟨rfl, _⟩ := List.cons.inj same
      simp only [separator, blankChar, Bool.or_eq_true, decide_eq_true_eq] at isSeparator
      rcases isSeparator with ((((((rfl | rfl) | rfl) | rfl) | rfl) | rfl) | rfl) | rfl <;>
        exact absurd starts (by unfold StartsNumber; decide)

theorem ends_char {char : Char} (separates : separator char = true) (rest : CsString) :
    Ends (CodeUnit.ofChar char :: rest) := by
  rintro _ ⟨⟩
  simp only [separator, blankChar, Bool.or_eq_true, decide_eq_true_eq] at separates
  rcases separates with ((((((rfl | rfl) | rfl) | rfl) | rfl) | rfl) | rfl) | rfl <;> decide

theorem blank_basic {char : Char} (white : blankChar char = true) : char.toNat < 0x10000 := by
  simp only [blankChar, Bool.or_eq_true, decide_eq_true_eq] at white
  rcases white with ((rfl | rfl) | rfl) | rfl <;> decide

/-- What follows a value inside a container. -/
theorem ends_blank {after : List Char} (isAfter : Blank after) {char : Char}
    (separates : separator char = true) (rest : CsString) :
    Ends (utf16 after ++ CodeUnit.ofChar char :: rest) := by
  cases after with
  | nil => exact ends_char separates rest
  | cons blank after =>
      have white := isAfter blank (by simp)
      rw [utf16_cons, CodePoint.units_ofChar (blank_basic white)]
      apply ends_char
      simp only [separator, white, Bool.true_or]

/-! ## Containers -/

section Containers

variable {levels : ℕ}

/-- The rest of a round of `ReadArray`, behind the item. -/
def afterItem (levels rounds : ℕ) (items : List JsonValue) (read : JsonValue × CsString) :
    Except CsException (JsonValue × CsString) :=
  match consume? ']' (skipWhitespace read.2) with
  | some source => .ok (.arr (items ++ [read.1]), source)
  | none => require ',' (skipWhitespace read.2) >>=
      readItems (readValue levels) rounds (items ++ [read.1])

theorem readItems_step (rounds : ℕ) (items : List JsonValue) (source : CsString) :
    readItems (readValue levels) (rounds + 1) items source =
      readValue levels source >>= afterItem levels rounds items :=
  rfl

theorem readItems_last {rounds : ℕ} {items : List JsonValue} {source : CsString}
    {item : JsonValue} {after : List Char} {rest : CsString} (isAfter : Blank after)
    (read : readValue levels source =
      .ok (item, utf16 after ++ CodeUnit.ofChar ']' :: rest)) :
    readItems (readValue levels) (rounds + 1) items source =
      .ok (.arr (items ++ [item]), rest) := by
  rw [readItems_step, read]
  change afterItem levels rounds items _ = _
  unfold afterItem
  rw [skipWhitespace_blank_char isAfter (by decide) (by decide), consume?_same]

theorem readItems_comma {rounds : ℕ} {items : List JsonValue} {source : CsString}
    {item : JsonValue} {after : List Char} {rest : CsString} (isAfter : Blank after)
    (read : readValue levels source =
      .ok (item, utf16 after ++ CodeUnit.ofChar ',' :: rest)) :
    readItems (readValue levels) (rounds + 1) items source =
      readItems (readValue levels) rounds (items ++ [item]) rest := by
  have opened := require_char isAfter ',' (by decide) (by decide) rest
  rw [readItems_step, read]
  change afterItem levels rounds items _ = _
  unfold afterItem
  dsimp only
  rw [opened, skipWhitespace_blank_char isAfter (by decide) (by decide),
    consume?_unit (by decide) (by decide) (by decide)]
  rfl

/-- The rest of a round of `ReadObject`, behind the value of a member. -/
def afterMember (levels rounds : ℕ) (members : List (CsString × JsonValue)) (name : CsString)
    (read : JsonValue × CsString) : Except CsException (JsonValue × CsString) :=
  match consume? '}' (skipWhitespace read.2) with
  | some source => .ok (.obj (members ++ [(name, read.1)]), source)
  | none => require ',' (skipWhitespace read.2) >>=
      readMembers (readValue levels) rounds (members ++ [(name, read.1)])

/-- The name of a member and its colon. -/
theorem readMembers_name {rounds : ℕ} {members : List (CsString × JsonValue)}
    {before key beforeColon afterColon : List Char} {name : CsString} (isBefore : Blank before)
    (isName : StringBody key name) (paired : Paired name)
    (fresh : name ∉ members.map Prod.fst) (isBeforeColon : Blank beforeColon)
    (isAfterColon : Blank afterColon) (rest : CsString) :
    readMembers (readValue levels) (rounds + 1) members
        (utf16 before ++ CodeUnit.ofChar '"' :: (utf16 key ++ CodeUnit.ofChar '"' ::
          (utf16 beforeColon ++ CodeUnit.ofChar ':' :: (utf16 afterColon ++ rest)))) =
      readValue levels rest >>= afterMember levels rounds members name := by
  have named := readString_body isName paired
    (utf16 beforeColon ++ CodeUnit.ofChar ':' :: (utf16 afterColon ++ rest))
  have opened := require_char isBeforeColon ':' (by decide) (by decide)
    (utf16 afterColon ++ rest)
  rw [readMembers, skipWhitespace_blank_char isBefore (by decide) (by decide)]
  dsimp only
  rw [if_neg (by simp), named]
  change (if name ∈ members.map Prod.fst then _ else _) = _
  rw [if_neg fresh, opened]
  change (readValue levels (utf16 afterColon ++ rest) >>= _) = _
  rw [readValue_blank isAfterColon]
  rfl

theorem afterMember_last {rounds : ℕ} (members : List (CsString × JsonValue)) (name : CsString)
    (value : JsonValue) {after : List Char} (isAfter : Blank after) (rest : CsString) :
    afterMember levels rounds members name (value, utf16 after ++ CodeUnit.ofChar '}' :: rest) =
      .ok (.obj (members ++ [(name, value)]), rest) := by
  unfold afterMember
  rw [skipWhitespace_blank_char isAfter (by decide) (by decide), consume?_same]

theorem afterMember_comma {rounds : ℕ} (members : List (CsString × JsonValue)) (name : CsString)
    (value : JsonValue) {after : List Char} (isAfter : Blank after) (rest : CsString) :
    afterMember levels rounds members name (value, utf16 after ++ CodeUnit.ofChar ',' :: rest) =
      readMembers (readValue levels) rounds (members ++ [(name, value)]) rest := by
  have opened := require_char isAfter ',' (by decide) (by decide) rest
  unfold afterMember
  dsimp only
  rw [opened, skipWhitespace_blank_char isAfter (by decide) (by decide),
    consume?_unit (by decide) (by decide) (by decide)]
  rfl

end Containers

/-! ## Values -/

/-- What the parser says of containers that lie too deep. -/
def tooDeep {α : Type} : Except CsException α := invalid "JSON nesting exceeds limit."

/-- A part of the grammar is read back, if `levels` bounds its depth; `rounds` bounds its
length.  What a loop has read so far comes first. -/
def ReadsBack (text : List Char) : PartOf CsString → Prop
  | .value tree => tree.DistinctKeys → tree.Strings Paired → ∀ levels rest, Ends rest →
      readValue levels (utf16 text ++ rest) =
        if tree.depth ≤ levels then .ok (tree, rest) else tooDeep
  | .items items => Tree.DistinctKeysItems items → Tree.StringsItems Paired items →
      ∀ levels rounds before rest, text.length < rounds →
      readItems (readValue levels) rounds before (utf16 text ++ CodeUnit.ofChar ']' :: rest) =
        if Tree.depthItems items ≤ levels then .ok (.arr (before ++ items), rest) else tooDeep
  | .members members => Tree.DistinctKeysMembers members → Tree.StringsMembers Paired members →
      ∀ levels rounds before rest, text.length < rounds →
      (before.map Prod.fst ++ members.map Prod.fst).Nodup →
      readMembers (readValue levels) rounds before (utf16 text ++ CodeUnit.ofChar '}' :: rest) =
        if Tree.depthMembers members ≤ levels then .ok (.obj (before ++ members), rest) else tooDeep

theorem exists_pred {bound number : ℕ} (enough : bound < number) :
    ∃ fewer, number = fewer + 1 :=
  Nat.exists_eq_succ_of_ne_zero (by omega)

/-- No value is read without a level. -/
theorem readsBack_of_succ {text : List Char} {tree : JsonValue}
    (back : tree.DistinctKeys → tree.Strings Paired → ∀ levels rest, Ends rest →
      readValue (levels + 1) (utf16 text ++ rest) =
        if tree.depth ≤ levels + 1 then .ok (tree, rest) else tooDeep) :
    ReadsBack text (.value tree) := by
  intro distinct paired levels rest ends
  cases levels with
  | zero =>
      rw [if_neg (Nat.not_le.mpr tree.depth_pos)]
      rfl
  | succ levels => exact back distinct paired levels rest ends

/-- A value without values inside. -/
theorem readsBack_scalar {text : List Char} {tree : JsonValue} (flat : tree.depth = 1)
    (back : tree.Strings Paired → ∀ levels rest, Ends rest →
      readValue (levels + 1) (utf16 text ++ rest) = .ok (tree, rest)) :
    ReadsBack text (.value tree) := by
  apply readsBack_of_succ
  intro _ paired levels rest ends
  rw [flat, if_pos (Nat.le_add_left 1 levels)]
  exact back paired levels rest ends

theorem readItems_skip (levels rounds : ℕ) (items : List JsonValue) (source : CsString) :
    readItems (readValue levels) rounds items (skipWhitespace source) =
      readItems (readValue levels) rounds items source := by
  cases rounds with
  | zero => rfl
  | succ rounds => rw [readItems, readValue_skip, readItems]

theorem readMembers_skip (levels rounds : ℕ) (members : List (CsString × JsonValue))
    (source : CsString) :
    readMembers (readValue levels) rounds members (skipWhitespace source) =
      readMembers (readValue levels) rounds members source := by
  cases rounds with
  | zero => rfl
  | succ rounds => rw [readMembers, skipWhitespace_idempotent, readMembers]

/-- A text in brackets or braces. -/
theorem utf16_enclosed {first last : Char} (isFirst : first.toNat < 0x10000)
    (isLast : last.toNat < 0x10000) (text : List Char) (rest : CsString) :
    utf16 (first :: (text ++ [last])) ++ rest =
      CodeUnit.ofChar first :: (utf16 text ++ CodeUnit.ofChar last :: rest) := by
  rw [utf16_cons, utf16_append, CodePoint.units_ofChar isFirst, utf16_cons,
    CodePoint.units_ofChar isLast]
  simp

/-- The rounds a loop starts with. -/
theorem enough_rounds (text : List Char) (unit : CodeUnit) (rest : CsString) :
    text.length < (utf16 text ++ unit :: rest).length + 1 := by
  have bound := length_le_utf16 text
  rw [List.length_append]
  omega

theorem readsBack_array {text : List Char} {items : List JsonValue}
    (derived : DerivesBy Literal text (.items items)) (inside : ReadsBack text (.items items)) :
    ReadsBack ('[' :: (text ++ [']'])) (.value (.arr items)) := by
  apply readsBack_of_succ
  intro distinct paired levels rest _
  have more : consume? ']' (skipWhitespace (utf16 text ++ CodeUnit.ofChar ']' :: rest)) =
      none := by
    obtain ⟨before, char, after, rfl, isBefore, solid⟩ := derived.items_opens solid_literal
    simp only [separator, Bool.or_eq_false_iff, decide_eq_false_iff_not] at solid
    rw [utf16_append, utf16_cons, List.append_assoc, List.append_assoc,
      skipWhitespace_blank isBefore, skipWhitespace_solid solid.1.1.1.1]
    exact consume?_other solid.1.2 (by decide) _
  have level : (Tree.arr items : JsonValue).depth ≤ levels + 1 ↔
      Tree.depthItems items ≤ levels := by
    rw [Tree.depth, Nat.add_comm 1, Nat.add_le_add_iff_right]
  rw [utf16_enclosed (by decide) (by decide), readValue_array]
  unfold readArray
  rw [more]
  dsimp only
  rw [readItems_skip, inside distinct paired levels _ [] rest (enough_rounds _ _ _)]
  simp only [level, List.nil_append]

theorem readsBack_object {text : List Char} {members : List (CsString × JsonValue)}
    (derived : DerivesBy Literal text (.members members))
    (inside : ReadsBack text (.members members)) :
    ReadsBack ('{' :: (text ++ ['}'])) (.value (.obj members)) := by
  apply readsBack_of_succ
  intro distinct paired levels rest _
  have more : consume? '}' (skipWhitespace (utf16 text ++ CodeUnit.ofChar '}' :: rest)) =
      none := by
    obtain ⟨before, after, rfl, isBefore⟩ := derived.members_opens
    rw [utf16_append, utf16_cons, List.append_assoc, List.append_assoc,
      skipWhitespace_blank isBefore, skipWhitespace_solid (by decide)]
    exact consume?_other (by decide) (by decide) _
  have level : (Tree.obj members : JsonValue).depth ≤ levels + 1 ↔
      Tree.depthMembers members ≤ levels := by
    rw [Tree.depth, Nat.add_comm 1, Nat.add_le_add_iff_right]
  rw [utf16_enclosed (by decide) (by decide), readValue_object]
  unfold readObject
  rw [more]
  dsimp only
  rw [readMembers_skip, inside distinct.2 paired levels _ [] rest (enough_rounds _ _ _) distinct.1]
  simp only [level, List.nil_append]

/-- The text of a member. -/
theorem utf16_member (before key beforeColon afterColon text : List Char) (rest : CsString) :
    utf16 (before ++ '"' :: (key ++ '"' :: (beforeColon ++ ':' :: (afterColon ++ text)))) ++ rest =
      utf16 before ++ CodeUnit.ofChar '"' :: (utf16 key ++ CodeUnit.ofChar '"' ::
        (utf16 beforeColon ++ CodeUnit.ofChar ':' ::
          (utf16 afterColon ++ (utf16 text ++ rest)))) := by
  rw [utf16_append, utf16_basic (by decide), utf16_append, utf16_basic (by decide), utf16_append,
    utf16_basic (by decide), utf16_append]
  simp

theorem fresh_of_nodup {before names : List CsString} {name : CsString}
    (nodup : (before ++ name :: names).Nodup) : name ∉ before := by
  intro membership
  exact (List.nodup_append.mp nodup).2.2 name membership name (by simp) rfl

/-- Everything the grammar derives is read back. -/
theorem readsBack {text : List Char} {part : PartOf CsString}
    (derived : DerivesBy Literal text part) : ReadsBack text part := by
  induction derived with
  | null => exact readsBack_scalar rfl fun _ _ _ _ => rfl
  | true => exact readsBack_scalar rfl fun _ _ _ _ => rfl
  | false => exact readsBack_scalar rfl fun _ _ _ _ => rfl
  | number literal =>
      obtain ⟨rfl, isNumber⟩ := literal
      exact readsBack_scalar rfl fun _ levels rest ends => readValue_isNumber levels isNumber ends
  | string body =>
      apply readsBack_scalar rfl
      intro paired levels rest _
      rw [utf16_enclosed (by decide) (by decide), readValue_string, readString_body body paired]
      rfl
  | emptyArray isBlank =>
      apply readsBack_scalar rfl
      intro _ levels rest _
      rw [utf16_enclosed (by decide) (by decide), readValue_array]
      unfold readArray
      rw [skipWhitespace_blank_char isBlank (by decide) (by decide), consume?_same]
  | array inside inductionHypothesis => exact readsBack_array inside inductionHypothesis
  | emptyObject isBlank =>
      apply readsBack_scalar rfl
      intro _ levels rest _
      rw [utf16_enclosed (by decide) (by decide), readValue_object]
      unfold readObject
      rw [skipWhitespace_blank_char isBlank (by decide) (by decide), consume?_same]
  | object inside inductionHypothesis => exact readsBack_object inside inductionHypothesis
  | @lastItem _ _ _ item isBefore isItem isAfter inductionHypothesis =>
      intro distinct paired levels rounds before rest enough
      obtain ⟨rounds, rfl⟩ := exists_pred enough
      have first := (readValue_blank isBefore _).trans (inductionHypothesis distinct.1 paired.1
        levels _ (@ends_blank _ isAfter ']' (by decide) rest))
      rw [utf16_append, utf16_append, List.append_assoc, List.append_assoc]
      simp only [Tree.depthItems, Nat.max_zero]
      split
      · next shallow =>
          rw [if_pos shallow] at first
          exact readItems_last isAfter first
      · next deep =>
          rw [if_neg deep] at first
          rw [readItems_step, first]
          rfl
  | @item _ _ _ later item items isBefore isItem isAfter others inductionHypothesis
    laterHypothesis =>
      intro distinct paired levels rounds before rest enough
      simp only [List.length_append, List.length_cons] at enough
      obtain ⟨rounds, rfl⟩ := exists_pred enough
      have first := fun tail => (readValue_blank isBefore _).trans (inductionHypothesis distinct.1
        paired.1 levels _ (@ends_blank _ isAfter ',' (by decide) tail))
      simp only [utf16_append, utf16_cons, List.append_assoc]
      rw [CodePoint.units_ofChar (by decide), List.singleton_append]
      by_cases shallow : item.depth ≤ levels
      · have read := first (utf16 later ++ CodeUnit.ofChar ']' :: rest)
        rw [if_pos shallow] at read
        rw [readItems_comma isAfter read,
          laterHypothesis distinct.2 paired.2 levels rounds _ rest (by omega)]
        simp [Tree.depthItems, shallow]
      · have read := first (utf16 later ++ CodeUnit.ofChar ']' :: rest)
        rw [if_neg shallow] at read
        rw [readItems_step, read, if_neg]
        · rfl
        · simp [Tree.depthItems, shallow]
  | lastMember isBefore isName isBeforeColon isAfterColon isValue isAfter inductionHypothesis =>
      intro distinct paired levels rounds before rest enough fresh
      obtain ⟨rounds, rfl⟩ := exists_pred enough
      have read := inductionHypothesis distinct.1 paired.2.1 levels _
        (@ends_blank _ isAfter '}' (by decide) rest)
      rw [utf16_member, utf16_append, List.append_assoc,
        readMembers_name isBefore isName paired.1 (fresh_of_nodup fresh) isBeforeColon isAfterColon,
        read]
      simp only [Tree.depthMembers, Nat.max_zero]
      split
      · exact afterMember_last before _ _ isAfter rest
      · rfl
  | @member _ _ _ _ _ _ later name value members isBefore isName isBeforeColon isAfterColon isValue
      isAfter others inductionHypothesis laterHypothesis =>
      intro distinct paired levels rounds before rest enough fresh
      simp only [List.length_append, List.length_cons] at enough
      obtain ⟨rounds, rfl⟩ := exists_pred enough
      have read := inductionHypothesis distinct.1 paired.2.1 levels _
        (@ends_blank _ isAfter ',' (by decide) (utf16 later ++ CodeUnit.ofChar '}' :: rest))
      rw [utf16_member, utf16_append, utf16_append, utf16_basic (by decide), List.append_assoc,
        List.append_assoc, List.cons_append,
        readMembers_name isBefore isName paired.1 (fresh_of_nodup fresh) isBeforeColon isAfterColon,
        read]
      by_cases shallow : value.depth ≤ levels
      · rw [if_pos shallow]
        apply (afterMember_comma before _ _ isAfter _).trans
        rw [laterHypothesis distinct.2 paired.2.2 levels rounds _ rest (by omega)
          (by simpa using fresh)]
        simp [Tree.depthMembers, shallow]
      · rw [if_neg shallow, if_neg]
        · rfl
        · simp [Tree.depthMembers, shallow]

theorem ends_of_blank {after : List Char} (isAfter : Blank after) : Ends (utf16 after) := by
  cases after with
  | nil => rintro _ ⟨⟩
  | cons char after =>
      have white := isAfter char (by simp)
      rw [utf16_basic (blank_basic white)]
      apply ends_char
      simp only [separator, white, Bool.true_or]

/-- A text within the limits, with distinct keys and without lone surrogates, is parsed or
refused for its depth. -/
theorem parse_of_isTextBy {source : List Char} {tree : JsonValue}
    (isText : IsTextBy Literal source tree) (distinct : tree.DistinctKeys)
    (paired : tree.Strings Paired) (within : checkLimits (utf16 source) = .ok ()) :
    parse (utf16 source) = if tree.depth ≤ maximumDepth + 1 then .ok tree else tooDeep := by
  obtain ⟨before, text, after, rfl, isBefore, derived, isAfter⟩ := isText
  have read := readsBack derived distinct paired (maximumDepth + 1) (utf16 after)
    (ends_of_blank isAfter)
  have nothing : skipWhitespace (utf16 after) = [] := by
    have skipped := skipWhitespace_blank isAfter []
    rwa [List.append_nil] at skipped
  unfold parse
  rw [within, utf16_append, utf16_append, readValue_blank isBefore, read]
  split
  · change (if !(skipWhitespace (utf16 after)).isEmpty then _ else _) = _
    rw [nothing]
    rfl
  · rfl

/-! ## Texts of the standard -/

theorem literal_numeral (numeral : Numeral) (wellFormed : numeral.WellFormed) :
    Literal numeral.text (numberText numeral) :=
  ⟨rfl, isNumber_numberText wellFormed⟩

theorem distinctKeys_csDocument {tree : Document} :
    (csDocument tree).DistinctKeys ↔ tree.DistinctKeys :=
  ⟨tree.distinctKeys_of_map id numberText,
    tree.distinctKeys_map id numberText Function.injective_id⟩

theorem strings_csDocument {tree : Document} :
    (csDocument tree).Strings Paired ↔ tree.Strings Paired :=
  tree.strings_map_iff id numberText

/-- A JSON text within the limits is parsed to the document it denotes. -/
theorem parse_of_isText {source : List Char} {tree : Document} (isText : IsText source tree)
    (distinct : tree.DistinctKeys) (paired : tree.Strings Paired)
    (shallow : tree.depth ≤ maximumDepth + 1) (within : checkLimits (utf16 source) = .ok ()) :
    parse (utf16 source) = .ok (csDocument tree) := by
  have parsed := parse_of_isTextBy (isText.isTextBy numberText literal_numeral)
    (distinctKeys_csDocument.mpr distinct) (strings_csDocument.mpr paired) within
  rwa [Tree.depth_map, if_pos shallow] at parsed

end StrictJsonParser

end ValeraControlTower.Unity

import ValeraControlTower.Library.JsonWriter
import ValeraControlTower.VrGateway.CommandReading

/-!
# The texts `decode_command` accepts

The format is one command with JSON white space around it, whose orientation is finite
and not zero.  `decode_command` reads the texts of the format within the limits on the
size, apart from two kinds: what stands behind the command it strips with `str.strip`, so
that it also accepts white space that JSON does not know, and an orientation must also
have a norm that is finite and above `1e-12`.
-/

namespace ValeraControlTower

open Unicode Json

/-! ## Literals -/

/-- The value of an overlong literal. -/
theorem pow_le_of_overlong {literal : Literal} (overlong : Overlong literal.1) :
    10 ^ intMaxStrDigits ≤ literal.1.intValue.natAbs := by
  obtain ⟨⟨negative, integer, fraction, exponent⟩, wellFormed⟩ := literal
  have long : intMaxStrDigits < integer.length := overlong.2
  have same : (Numeral.mk negative integer fraction exponent).intValue.natAbs =
      Digit.natValue integer := by
    unfold Numeral.intValue
    cases negative <;> simp
  rw [same]
  cases integer with
  | nil => exact absurd rfl wellFormed.integer
  | cons digit digits =>
      rw [List.length_cons] at long
      have nonzero : digit ≠ 0 := by
        rintro rfl
        have short := wellFormed.noLeadingZero rfl
        rw [(List.cons.inj short).2] at long
        exact absurd long (by decide)
      exact le_trans (Nat.pow_le_pow_right (by decide) (by omega))
        (Digit.pow_le_natValue nonzero digits)

/-! ## Shapes -/

variable {K : Type} {M : FloatMath K}

/-- A tree that is at most so deep, with what its numbers satisfy. -/
structure Bounded (depth : ℕ) (holds : Literal → Prop) (tree : WireTree) : Prop where
  depth : tree.depth ≤ depth
  numbers : tree.Numbers holds

namespace Bounded

variable {depth : ℕ} {holds : Literal → Prop}

theorem null (positive : 1 ≤ depth) : Bounded depth holds .null := ⟨positive, trivial⟩

theorem str (positive : 1 ≤ depth) (text : List Char) : Bounded depth holds (.str text) :=
  ⟨positive, trivial⟩

theorem num (positive : 1 ≤ depth) {literal : Literal} (isNumber : holds literal) :
    Bounded depth holds (.num literal) :=
  ⟨positive, isNumber⟩

theorem obj {members : WireMembers}
    (each : ∀ member ∈ members, Bounded depth holds member.2) :
    Bounded (depth + 1) holds (.obj members) := by
  have inside : Tree.depthMembers members ≤ depth ∧ Tree.NumbersMembers holds members := by
    induction members with
    | nil => exact ⟨Nat.zero_le _, trivial⟩
    | cons member members inductionHypothesis =>
        rw [List.forall_mem_cons] at each
        obtain ⟨first, later⟩ := each
        obtain ⟨shallow, numbers⟩ := inductionHypothesis later
        exact ⟨Nat.max_le.mpr ⟨first.depth, shallow⟩, first.numbers, numbers⟩
  refine ⟨?_, inside.2⟩
  have shallow := inside.1
  rw [Tree.depth]
  omega

theorem weaken {depth' : ℕ} (le : depth ≤ depth') {tree : WireTree}
    (bounded : Bounded depth holds tree) : Bounded depth' holds tree :=
  ⟨le_trans bounded.depth le, bounded.numbers⟩

end Bounded

namespace WireMembers

theorem has_of_mem {members : WireMembers} (distinct : (members.map Prod.fst).Nodup)
    {name : String} {value : WireTree} (membership : (name.toList, value) ∈ members) :
    members.Has name value := by
  unfold Has
  induction members with
  | nil => cases membership
  | cons member members inductionHypothesis =>
      rw [List.map_cons, List.nodup_cons] at distinct
      rcases List.mem_cons.mp membership with rfl | later
      · exact List.lookup_cons_self
      · have other : name.toList ≠ member.1 := by
          intro same
          exact distinct.1 (same ▸ List.mem_map_of_mem later)
        rw [List.lookup_cons, beq_false_of_ne other]
        exact inductionHypothesis distinct.2 later

theorem distinctKeys_of_has {members : WireMembers} (distinct : Tree.DistinctKeysMembers members)
    {name : String} {value : WireTree} (has : members.Has name value) : value.DistinctKeys := by
  unfold Has at has
  induction members with
  | nil => cases has
  | cons member members inductionHypothesis =>
      rw [List.lookup_cons] at has
      split at has
      · cases has
        exact distinct.1
      · exact inductionHypothesis distinct.2 has

/-- An object is bounded if what it has under the names it may have is. -/
theorem HasFields.bounded {members : WireMembers} {required optional : List String} {depth : ℕ}
    {holds : Literal → Prop} (fields : members.HasFields required optional)
    (distinct : (Tree.obj members : WireTree).DistinctKeys)
    (each : ∀ name ∈ required ++ optional, ∀ value, members.Has name value →
      Bounded depth holds value) :
    Bounded (depth + 1) holds (.obj members) := by
  refine .obj fun member membership => ?_
  obtain ⟨name, known, same⟩ := List.mem_map.mp
    (fields.known member.1 (List.mem_map_of_mem membership))
  refine each name known member.2 (has_of_mem distinct.1 ?_)
  rw [same]
  exact membership

end WireMembers

section Shapes

variable {holds : Literal → Prop}

theorem IsOrientation.bounded {value : WireTree} {orientation : WireOrientation}
    (isOrientation : IsOrientation value orientation) (distinct : value.DistinctKeys)
    (literals : holds orientation.x ∧ holds orientation.y ∧ holds orientation.z ∧
      holds orientation.w) :
    Bounded 2 holds value := by
  obtain ⟨fields, isX, isY, isZ, isW⟩ := isOrientation
  apply fields.bounded distinct
  simp only [List.append_nil, List.forall_mem_cons]
  refine ⟨fun value has => ?_, fun value has => ?_, fun value has => ?_, fun value has => ?_, ?_⟩
  · rw [has.unique isX]
    exact .num (by decide) literals.1
  · rw [has.unique isY]
    exact .num (by decide) literals.2.1
  · rw [has.unique isZ]
    exact .num (by decide) literals.2.2.1
  · rw [has.unique isW]
    exact .num (by decide) literals.2.2.2
  · rintro _ ⟨⟩

theorem IsPosition.bounded {value : WireTree} {position : WirePosition}
    (isPosition : IsPosition value position) (distinct : value.DistinctKeys)
    (literals : holds position.x ∧ holds position.y ∧ holds position.z) :
    Bounded 2 holds value := by
  obtain ⟨fields, isX, isY, isZ⟩ := isPosition
  apply fields.bounded distinct
  simp only [List.append_nil, List.forall_mem_cons]
  refine ⟨fun value has => ?_, fun value has => ?_, fun value has => ?_, ?_⟩
  · rw [has.unique isX]
    exact .num (by decide) literals.1
  · rw [has.unique isY]
    exact .num (by decide) literals.2.1
  · rw [has.unique isZ]
    exact .num (by decide) literals.2.2
  · rintro _ ⟨⟩

theorem IsPayload.bounded {name : CommandName} {value : WireTree} {payload : WirePayload}
    (isPayload : IsPayload name value payload) (distinct : value.DistinctKeys)
    (literals : payload.Literals holds) : Bounded 3 holds value := by
  cases isPayload with
  | sessionStart fields isMode | modeSet fields isMode =>
      apply fields.bounded distinct
      simp only [List.append_nil, List.forall_mem_cons]
      refine ⟨fun value has => ?_, ?_⟩
      · rw [has.unique isMode]
        exact .str (by decide) _
      · rintro _ ⟨⟩
  | sessionStop fields | emergencyStop fields =>
      apply fields.bounded distinct
      rintro _ ⟨⟩
  | headPose fields isFrame isMember isOrientation isPosition =>
      apply fields.bounded distinct
      simp only [List.cons_append, List.nil_append, List.forall_mem_cons]
      refine ⟨fun value has => ?_, fun value has => ?_, fun value has => ?_, ?_⟩
      · rw [has.unique isFrame]
        exact .str (by decide) _
      · rw [has.unique isMember]
        exact isOrientation.bounded (WireMembers.distinctKeys_of_has distinct.2 isMember)
          literals.1
      · cases isPosition with
        | absent absent => cases absent.symm.trans has
        | null isNull =>
            rw [has.unique isNull]
            exact .null (by decide)
        | present isPlace isPosition =>
            rw [has.unique isPlace]
            exact isPosition.bounded (WireMembers.distinctKeys_of_has distinct.2 isPlace)
              (literals.2 _ rfl)
      · rintro _ ⟨⟩
  | headRecenter fields isFrame isMember isOrientation =>
      apply fields.bounded distinct
      simp only [List.append_nil, List.forall_mem_cons]
      refine ⟨fun value has => ?_, fun value has => ?_, ?_⟩
      · rw [has.unique isFrame]
        exact .str (by decide) _
      · rw [has.unique isMember]
        exact isOrientation.bounded (WireMembers.distinctKeys_of_has distinct.2 isMember)
          literals.1
      · rintro _ ⟨⟩

/-- Every number of a command's document is one of its literals. -/
theorem IsCommand.bounded {tree : WireTree} {command : WireCommand}
    (isCommand : IsCommand tree command) (distinct : tree.DistinctKeys)
    (sequence : holds command.sequence) (timestampMs : holds command.timestampMs)
    (payload : command.payload.Literals holds) : Bounded 4 holds tree := by
  obtain ⟨fields, isVersion, isName, isSessionId, isSequence, isTimestamp, isMember, isPayload⟩ :=
    isCommand
  apply fields.bounded distinct
  simp only [List.append_nil, List.forall_mem_cons]
  refine ⟨fun value has => ?_, fun value has => ?_, fun value has => ?_, fun value has => ?_,
    fun value has => ?_, fun value has => ?_, ?_⟩
  · rw [has.unique isVersion]
    exact .str (by decide) _
  · rw [has.unique isName]
    exact .str (by decide) _
  · rw [has.unique isSessionId]
    exact .str (by decide) _
  · rw [has.unique isSequence]
    exact .num (by decide) sequence
  · rw [has.unique isTimestamp]
    exact .num (by decide) timestampMs
  · rw [has.unique isMember]
    exact isPayload.bounded (WireMembers.distinctKeys_of_has distinct.2 isMember) payload
  · rintro _ ⟨⟩

end Shapes

/-! ## Readable documents -/

/-- No number of so many digits has a float next to it. -/
def FloatMath.Overflows (M : FloatMath K) : Prop :=
  ∀ value : ℚ, 10 ^ intMaxStrDigits ≤ |value| → M.ofRat value = none

theorem not_overlong_of_denotes (overflows : M.Overflows) {literal : Literal} {value : K}
    (isValue : M.ofRat literal.1.value = some value) : ¬Overlong literal.1 := by
  intro overlong
  have large := pow_le_of_overlong overlong
  have tooLarge : (10 : ℚ) ^ intMaxStrDigits ≤ |literal.1.value| := by
    rw [Numeral.value_of_isInteger overlong.1, ← Int.cast_abs, Int.abs_eq_natAbs]
    exact_mod_cast large
  rw [overflows _ tooLarge] at isValue
  cases isValue

theorem not_overlong_of_integer {dialect : Dialect} {minimum : ℤ} {literal : Literal}
    (nonnegative : 0 ≤ minimum) (integer : dialect.Integer minimum literal) :
    ¬Overlong literal.1 := by
  intro overlong
  have large := pow_le_of_overlong overlong
  have above := integer.above
  have below := integer.below
  have power : 10 ^ 19 ≤ 10 ^ intMaxStrDigits := Nat.pow_le_pow_right (by decide) (by decide)
  omega

/-- The reading takes orientations only that denote finite numbers. -/
def Reading.Denoting (M : FloatMath K) (reading : Reading) : Prop :=
  ∀ orientation, reading.turns orientation → ∃ x y z w, orientation.Denotes M x y z w

theorem not_overlong_of_payload {reading : Reading} (denoting : reading.Denoting M)
    (overflows : M.Overflows) {payload : WirePayload}
    (acceptable : payload.Acceptable M reading) :
    payload.Literals fun literal => ¬Overlong literal.1 := by
  cases payload with
  | sessionStart | mode _ | empty => trivial
  | pose orientation position =>
      obtain ⟨turns, places⟩ := acceptable
      obtain ⟨x, y, z, w, isX, isY, isZ, isW⟩ := denoting orientation turns
      refine ⟨⟨not_overlong_of_denotes overflows isX, not_overlong_of_denotes overflows isY,
        not_overlong_of_denotes overflows isZ, not_overlong_of_denotes overflows isW⟩, ?_⟩
      intro value isValue
      obtain ⟨x, y, z, isX, isY, isZ⟩ := places value isValue
      exact ⟨not_overlong_of_denotes overflows isX, not_overlong_of_denotes overflows isY,
        not_overlong_of_denotes overflows isZ⟩

theorem readable_of_bounded {tree : WireTree} (distinct : tree.DistinctKeys) {depth : ℕ}
    (shallow : depth ≤ Wire.maxJsonDepth)
    (bounded : Bounded depth (fun literal => ¬Overlong literal.1) tree) :
    Wire.Readable tree.document where
  distinct := Tree.distinctKeys_map utf16 Subtype.val utf16_injective tree distinct
  short := Tree.numbers_map utf16 Subtype.val tree bounded.numbers
  shallow := by
    unfold WireTree.document
    rw [Tree.depth_map]
    exact bounded.depth.trans shallow
  proper := Tree.strings_map utf16 Subtype.val wellFormed_utf16 tree

/-- `_parse_json` refuses no document of an acceptable command. -/
theorem readable_of_acceptable {reading : Reading} (denoting : reading.Denoting M)
    (overflows : M.Overflows) {tree : WireTree} {command : WireCommand}
    (isCommand : IsCommand tree command) (distinct : tree.DistinctKeys)
    (acceptable : command.Acceptable M reading) : Wire.Readable tree.document := by
  have bounded := isCommand.bounded distinct
    (not_overlong_of_integer (by decide) acceptable.sequence)
    (not_overlong_of_integer (by decide) acceptable.timestampMs)
    (not_overlong_of_payload denoting overflows acceptable.payload)
  exact readable_of_bounded distinct (by decide) bounded

/-- A document in code units whose strings are texts. -/
theorem exists_wireTree {text : List Char} {tree : Document} (derived : Derives text (.value tree))
    (proper : tree.Strings Wire.Proper) : ∃ wire : WireTree, wire.document = tree := by
  refine Tree.exists_map ?_ ?_ tree proper derived.numbers
  · intro units wellFormed
    obtain ⟨text, same⟩ := exists_utf16 wellFormed
    exact ⟨text, same.symm⟩
  · intro numeral wellFormed
    exact ⟨⟨numeral, wellFormed⟩, rfl⟩

/-- The document in Python is the one of the texts and literals. -/
theorem pyDocument_document (tree : WireTree) : pyDocument M tree.document = pyTree M tree := by
  have mapped := Tree.map_map utf16 Subtype.val codePoints (pyNumber M) tree
  simp only [codePoints_utf16] at mapped
  exact mapped

/-! ## The format -/

/-- The limits on the size of a command. -/
structure WithinLimits (raw : PyStr) : Prop where
  characters : raw.length ≤ 65536
  bytes : (raw.map CodePoint.utf8Length).sum ≤ 65536

/-- A finite orientation that is not zero. -/
def WireOrientation.NonZero [Zero K] (M : FloatMath K) (orientation : WireOrientation) : Prop :=
  ∃ x y z w, orientation.Denotes M x y z w ∧ [x, y, z, w].all M.isfinite = true ∧
    ¬(x = 0 ∧ y = 0 ∧ z = 0 ∧ w = 0)

/-- The reading of the format: every finite orientation that is not zero. -/
def Reading.format [Zero K] (M : FloatMath K) : Reading where
  toDialect := Dialect.python
  turns := WireOrientation.NonZero M

/-- One command that a reading takes with JSON white space around it.  The keys and strings
of the document are texts, so that no surrogate is among them. -/
def Formatted (M : FloatMath K) (reading : Reading) (source : List Char) : Prop :=
  ∃ (tree : WireTree) (command : WireCommand), IsText source tree.document ∧
    tree.DistinctKeys ∧ IsCommand tree command ∧ command.Acceptable M reading

def InFormat [Zero K] (M : FloatMath K) (source : List Char) : Prop :=
  Formatted M (Reading.format M) source

variable [Field K] [LinearOrder K]

/-- `decode_command` returns if the text is in the format and within the limits, and only
then. -/
def DecodesFormat (M : FloatMath K) (raw : PyStr) : Prop :=
  (∃ envelope, Wire.decodeCommand M raw = .ok envelope) ↔
    WithinLimits raw ∧ ∃ source, raw = ofChars source ∧ InFormat M source

/-- A command with further white space behind it that JSON does not know. -/
def TrailsSpace (M : FloatMath K) (source : List Char) : Prop :=
  ∃ first after, source = first ++ after ∧ Formatted M (Reading.python M) first ∧
    Wire.stripsToEmpty (ofChars after) = true ∧ ¬Blank after

/-- An orientation whose norm is infinite or next to zero. -/
def WirePayload.ExtremeNorm (M : FloatMath K) (payload : WirePayload) : Prop :=
  ∃ orientation position x y z w, payload = .pose orientation position ∧
    orientation.Denotes M x y z w ∧
    (M.isfinite (M.hypot [x, y, z, w]) = false ∨ M.hypot [x, y, z, w] ≤ zeroLengthNorm)

/-- A text of the format with such an orientation. -/
def HasExtremeNorm (M : FloatMath K) (source : List Char) : Prop :=
  ∃ (tree : WireTree) (command : WireCommand), IsText source tree.document ∧
    tree.DistinctKeys ∧ IsCommand tree command ∧ command.Acceptable M (Reading.format M) ∧
    command.payload.ExtremeNorm M

omit [LinearOrder K] in
theorem Reading.denoting_format : (Reading.format M).Denoting M := by
  intro orientation nonZero
  obtain ⟨x, y, z, w, denotes, _⟩ := nonZero
  exact ⟨x, y, z, w, denotes⟩

theorem Reading.denoting_python : (Reading.python M).Denoting M := by
  intro orientation turns
  obtain ⟨x, y, z, w, denotes, _⟩ := turns
  exact ⟨x, y, z, w, denotes⟩

omit [Field K] [LinearOrder K] in
theorem WireOrientation.Denotes.unique {orientation : WireOrientation}
    {x y z w x' y' z' w' : K} (denotes : orientation.Denotes M x y z w)
    (denotes' : orientation.Denotes M x' y' z' w') : x = x' ∧ y = y' ∧ z = z' ∧ w = w' := by
  obtain ⟨isX, isY, isZ, isW⟩ := denotes
  obtain ⟨isX', isY', isZ', isW'⟩ := denotes'
  exact ⟨Option.some.inj (isX.symm.trans isX'), Option.some.inj (isY.symm.trans isY'),
    Option.some.inj (isZ.symm.trans isZ'), Option.some.inj (isW.symm.trans isW')⟩

/-- The constructor takes no orientation of an extreme norm. -/
theorem WirePayload.not_extremeNorm {payload : WirePayload}
    (acceptable : payload.Acceptable M (Reading.python M)) : ¬payload.ExtremeNorm M := by
  rintro ⟨orientation, position, x, y, z, w, rfl, denotes, extreme⟩
  obtain ⟨⟨_, _, _, _, denotes', _, normFinite, positive⟩, _⟩ := acceptable
  obtain ⟨rfl, rfl, rfl, rfl⟩ := denotes.unique denotes'
  rcases extreme with infinite | small
  · rw [normFinite] at infinite
    cases infinite
  · exact absurd positive (not_lt.mpr small)

/-- It takes all others of the format. -/
theorem WirePayload.acceptable_python_iff [IsStrictOrderedRing K]
    (zero : M.hypot [0, 0, 0, 0] = 0) {payload : WirePayload} :
    payload.Acceptable M (Reading.python M) ↔
      payload.Acceptable M (Reading.format M) ∧ ¬payload.ExtremeNorm M := by
  constructor
  · intro acceptable
    refine ⟨?_, WirePayload.not_extremeNorm acceptable⟩
    cases payload with
    | sessionStart | mode _ | empty => exact acceptable
    | pose orientation position =>
        obtain ⟨⟨x, y, z, w, denotes, finite, _, positive⟩, places⟩ := acceptable
        refine ⟨⟨x, y, z, w, denotes, finite, ?_⟩, places⟩
        rintro ⟨rfl, rfl, rfl, rfl⟩
        rw [zero, zeroLengthNorm] at positive
        exact absurd positive (not_lt.mpr (by positivity))
  · rintro ⟨acceptable, moderate⟩
    cases payload with
    | sessionStart | mode _ | empty => exact acceptable
    | pose orientation position =>
        obtain ⟨⟨x, y, z, w, denotes, finite, _⟩, places⟩ := acceptable
        refine ⟨⟨x, y, z, w, denotes, finite, ?_, ?_⟩, places⟩
        · by_contra infinite
          exact moderate ⟨_, _, x, y, z, w, rfl, denotes, .inl (Bool.eq_false_iff.mpr infinite)⟩
        · by_contra small
          exact moderate ⟨_, _, x, y, z, w, rfl, denotes, .inr (not_lt.mp small)⟩

theorem WireCommand.acceptable_python_iff [IsStrictOrderedRing K]
    (zero : M.hypot [0, 0, 0, 0] = 0) {command : WireCommand} :
    command.Acceptable M (Reading.python M) ↔
      command.Acceptable M (Reading.format M) ∧ ¬command.payload.ExtremeNorm M := by
  constructor
  · intro acceptable
    obtain ⟨payload, moderate⟩ :=
      (WirePayload.acceptable_python_iff zero).mp acceptable.payload
    exact ⟨⟨acceptable.nonempty, acceptable.visible, acceptable.sequence, acceptable.timestampMs,
      payload⟩, moderate⟩
  · rintro ⟨acceptable, moderate⟩
    exact ⟨acceptable.nonempty, acceptable.visible, acceptable.sequence, acceptable.timestampMs,
      (WirePayload.acceptable_python_iff zero).mpr ⟨acceptable.payload, moderate⟩⟩

omit [Field K] [LinearOrder K] in
theorem checkSize_iff {source : List Char} :
    Wire.checkSize (ofChars source) = .ok () ↔ WithinLimits (ofChars source) := by
  have proper : (ofChars source).any CodePoint.isSurrogate = false := by
    rw [List.any_eq_false]
    intro point membership
    obtain ⟨char, _, rfl⟩ := List.mem_map.mp membership
    rw [CodePoint.ofChar_not_surrogate]
    exact Bool.false_ne_true
  unfold Wire.checkSize Wire.utf8Length
  rw [proper]
  by_cases long : (ofChars source).length > Wire.maxInputCharacters
  · rw [if_pos long]
    refine iff_of_false ?_ fun within => absurd within.characters (Nat.not_le.mpr long)
    rintro ⟨⟩
  · rw [if_neg long, if_neg Bool.false_ne_true]
    by_cases wide : ((ofChars source).map CodePoint.utf8Length).sum > Wire.maxInputUtf8Bytes
    · dsimp only
      rw [if_pos wide]
      refine iff_of_false ?_ fun within => absurd within.bytes (Nat.not_le.mpr wide)
      rintro ⟨⟩
    · dsimp only
      rw [if_neg wide]
      exact iff_of_true rfl ⟨Nat.le_of_not_lt long, Nat.le_of_not_lt wide⟩

omit [Field K] [LinearOrder K] in
/-- What stands behind a document is determined. -/
theorem after_unique {before text after before' text' after' : List Char} {tree tree' : Document}
    (same : before ++ (text ++ after) = before' ++ (text' ++ after'))
    (isBefore : Blank before) (isBefore' : Blank before')
    (derived : Derives text (.value tree)) (derived' : Derives text' (.value tree'))
    (isAfter : Wire.stripsToEmpty (ofChars after) = true)
    (isAfter' : Wire.stripsToEmpty (ofChars after') = true)
    (distinct : tree.DistinctKeys) (distinct' : tree'.DistinctKeys)
    (short : ShortIntegers tree) (short' : ShortIntegers tree') (M : FloatMath K) :
    after = after' := by
  have read := Wire.rawDecode_of_denotes M isBefore derived isAfter distinct short
  have read' := Wire.rawDecode_of_denotes M isBefore' derived' isAfter' distinct' short'
  rw [same, read'] at read
  injection read with read
  injection read with _ rest
  exact (ofChars_injective rest).symm

/-- The texts that are decoded. -/
theorem decodeCommand_iff (overflows : M.Overflows) {source : List Char} :
    (∃ envelope, Wire.decodeCommand M (ofChars source) = .ok envelope) ↔
      WithinLimits (ofChars source) ∧ ∃ (tree : WireTree) (command : WireCommand),
        Wire.Denotes source tree.document ∧ tree.DistinctKeys ∧ IsCommand tree command ∧
        command.Acceptable M (Reading.python M) := by
  constructor
  · rintro ⟨envelope, decoded⟩
    obtain ⟨_, within, decoded⟩ := bind_eq_ok decoded
    obtain ⟨document, parsed, decoded⟩ := bind_eq_ok decoded
    obtain ⟨tree, denotes, readable, rfl⟩ := Wire.parseJson_sound parsed
    obtain ⟨_, _, _, _, _, derived, _⟩ := id denotes
    obtain ⟨wire, rfl⟩ := exists_wireTree derived readable.proper
    rw [pyDocument_document] at decoded
    obtain ⟨command, isCommand, acceptable, _⟩ := decodeDocument_iff.mp decoded
    exact ⟨checkSize_iff.mp within, wire, command, denotes,
      Tree.distinctKeys_of_map _ _ wire readable.distinct, isCommand, acceptable⟩
  · rintro ⟨within, tree, command, denotes, distinct, isCommand, acceptable⟩
    obtain ⟨envelope, decoded⟩ :=
      exists_decodeDocument_iff.mpr ⟨command, isCommand, acceptable⟩
    refine ⟨envelope, ?_⟩
    unfold Wire.decodeCommand
    rw [checkSize_iff.mpr within, Wire.parseJson_of_denotes M denotes
      (readable_of_acceptable Reading.denoting_python overflows isCommand distinct acceptable),
      pyDocument_document]
    exact decoded

/-- White space that JSON does not know is stripped behind a command as well. -/
theorem not_decodesFormat_of_trailsSpace (overflows : M.Overflows) {source : List Char}
    (within : WithinLimits (ofChars source)) (trails : TrailsSpace M source) :
    ¬DecodesFormat M (ofChars source) := by
  intro faithful
  obtain ⟨first, after, rfl, formatted, isSpace, notBlank⟩ := trails
  obtain ⟨tree, command, isText, distinct, isCommand, acceptable⟩ := formatted
  obtain ⟨before, text, gap, rfl, isBefore, derived, isGap⟩ := isText
  have isAfter : Wire.stripsToEmpty (ofChars (gap ++ after)) = true := by
    unfold Wire.stripsToEmpty
    rw [ofChars_append, List.all_append, Bool.and_eq_true]
    exact ⟨Wire.stripsToEmpty_of_blank isGap, isSpace⟩
  have split : before ++ (text ++ gap) ++ after = before ++ (text ++ (gap ++ after)) := by
    simp only [List.append_assoc]
  have decoded := (decodeCommand_iff overflows).mpr ⟨within, tree, command,
    ⟨before, text, gap ++ after, split, isBefore, derived, isAfter⟩, distinct, isCommand,
    acceptable⟩
  obtain ⟨_, source, same, tree', command', isText', distinct', isCommand', acceptable'⟩ :=
    faithful.mp decoded
  obtain ⟨before', text', after', rfl, isBefore', derived', isAfter'⟩ := isText'
  have readable := readable_of_acceptable Reading.denoting_python overflows isCommand distinct
    acceptable
  have readable' := readable_of_acceptable Reading.denoting_format overflows isCommand' distinct'
    acceptable'
  have blank := after_unique (split.symm.trans (ofChars_injective same)) isBefore isBefore'
    derived derived' isAfter (Wire.stripsToEmpty_of_blank isAfter') readable.distinct
    readable'.distinct readable.short readable'.short M
  apply notBlank
  intro char membership
  exact isAfter' char (blank ▸ List.mem_append_right gap membership)

/-- A command of the format whose orientation has an extreme norm is refused. -/
theorem not_decodesFormat_of_extremeNorm (overflows : M.Overflows) {source : List Char}
    (within : WithinLimits (ofChars source)) (hasExtreme : HasExtremeNorm M source) :
    ¬DecodesFormat M (ofChars source) := by
  intro faithful
  obtain ⟨tree, command, isText, distinct, isCommand, acceptable, extreme⟩ := hasExtreme
  obtain ⟨envelope, decoded⟩ := faithful.mpr
    ⟨within, source, rfl, tree, command, isText, distinct, isCommand, acceptable⟩
  -- What was decoded is the document of the format, so that the constructor took its orientation.
  obtain ⟨before, text, after, same, isBefore, derived, isAfter⟩ := isText
  have readable := readable_of_acceptable Reading.denoting_format overflows isCommand distinct
    acceptable
  unfold Wire.decodeCommand at decoded
  rw [checkSize_iff.mpr within, Wire.parseJson_of_denotes M
    ⟨before, text, after, same, isBefore, derived, Wire.stripsToEmpty_of_blank isAfter⟩ readable,
    pyDocument_document] at decoded
  obtain ⟨command', isCommand', acceptable', _⟩ := decodeDocument_iff.mp decoded
  cases isCommand.unique isCommand'
  exact WirePayload.not_extremeNorm acceptable'.payload extreme

theorem decodesFormat_of_not [IsStrictOrderedRing K] (overflows : M.Overflows)
    (zero : M.hypot [0, 0, 0, 0] = 0) {raw : PyStr}
    (neither : ¬(WithinLimits raw ∧
      ∃ source, raw = ofChars source ∧ (TrailsSpace M source ∨ HasExtremeNorm M source))) :
    DecodesFormat M raw := by
  constructor
  · rintro ⟨envelope, decoded⟩
    obtain ⟨_, fits, _⟩ := bind_eq_ok decoded
    obtain ⟨source, rfl⟩ := Wire.ofChars_of_checkSize fits
    obtain ⟨within, tree, command, denotes, distinct, isCommand, acceptable⟩ :=
      (decodeCommand_iff overflows).mp ⟨envelope, decoded⟩
    obtain ⟨before, text, after, rfl, isBefore, derived, isAfter⟩ := denotes
    refine ⟨within, _, rfl, tree, command, ⟨before, text, after, rfl, isBefore, derived, ?_⟩,
      distinct, isCommand, ((WireCommand.acceptable_python_iff zero).mp acceptable).1⟩
    by_contra notBlank
    refine neither ⟨within, _, rfl, .inl ⟨before ++ text, after, by rw [List.append_assoc], ?_,
      isAfter, notBlank⟩⟩
    exact ⟨tree, command, ⟨before, text, [], by rw [List.append_nil], isBefore, derived,
      Blank.nil⟩, distinct, isCommand, acceptable⟩
  · rintro ⟨within, source, rfl, tree, command, isText, distinct, isCommand, acceptable⟩
    have moderate : ¬command.payload.ExtremeNorm M := by
      intro extreme
      exact neither ⟨within, source, rfl,
        .inr ⟨tree, command, isText, distinct, isCommand, acceptable, extreme⟩⟩
    obtain ⟨before, text, after, same, isBefore, derived, isAfter⟩ := isText
    exact (decodeCommand_iff overflows).mpr ⟨within, tree, command,
      ⟨before, text, after, same, isBefore, derived, Wire.stripsToEmpty_of_blank isAfter⟩,
      distinct, isCommand, (WireCommand.acceptable_python_iff zero).mpr ⟨acceptable, moderate⟩⟩

/-- `decode_command` decodes the format, unless white space that JSON does not know stands
behind a command or the norm of an orientation is infinite or next to zero. -/
theorem decodesFormat_iff [IsStrictOrderedRing K] (overflows : M.Overflows)
    (zero : M.hypot [0, 0, 0, 0] = 0) (raw : PyStr) :
    DecodesFormat M raw ↔ ¬(WithinLimits raw ∧
      ∃ source, raw = ofChars source ∧ (TrailsSpace M source ∨ HasExtremeNorm M source)) := by
  constructor
  · intro faithful either
    obtain ⟨within, source, rfl, trails | extreme⟩ := either
    · exact not_decodesFormat_of_trailsSpace overflows within trails faithful
    · exact not_decodesFormat_of_extremeNorm overflows within extreme faithful
  · exact decodesFormat_of_not overflows zero

/-! ## A text -/

theorem FloatMath.overflows_axis : FloatMath.axis.Overflows := by
  intro value large
  apply if_neg
  rw [not_lt]
  refine le_trans ?_ large
  calc (2 : ℚ) ^ 1024 - 2 ^ 970 ≤ 2 ^ 1024 := sub_le_self _ (by positivity)
    _ ≤ 10 ^ 1024 := pow_le_pow_left₀ (by norm_num) (by norm_num) 1024
    _ ≤ 10 ^ intMaxStrDigits := pow_le_pow_right₀ (by norm_num) (by decide)

theorem writesMember_name (name : String) (isPlain : Plain name.toList) {text : List Char}
    {tree : Document} (derived : Derives text (.value tree)) :
    WritesMember (Json.memberText name.toList text) (utf16 name.toList, tree) :=
  .member (stringBody_plain isPlain) derived

theorem derives_string (text : String) (isPlain : Plain text.toList) :
    Derives ('"' :: (text.toList ++ ['"'])) (.value (.str (utf16 text.toList))) :=
  .string (stringBody_plain isPlain)

theorem derives_ofInt (value : ℤ) :
    Derives (Numeral.ofInt value).text (.value (.num (.ofInt value))) :=
  .number (Numeral.wellFormed_ofInt value)

/-- The text of a `session.stop` whose id is written as it is. -/
def longStopText (sessionId : List Char) : List Char :=
  objectText [Json.memberText "schema_version".toList "\"0.1\"".toList,
    Json.memberText "command".toList "\"session.stop\"".toList,
    Json.memberText "session_id".toList ('"' :: (sessionId ++ ['"'])),
    Json.memberText "sequence".toList ['1'], Json.memberText "timestamp_ms".toList ['0'],
    Json.memberText "payload".toList "\x7b\x7d".toList]

theorem derives_longStopText {sessionId : List Char} (isPlain : Plain sessionId) :
    Derives (longStopText sessionId) (.value (stopCommand sessionId).tree.document) := by
  have derived := derives_objectText
    (.cons (writesMember_name "schema_version" (by decide) (derives_string "0.1" (by decide)))
    (.cons (writesMember_name "command" (by decide) (derives_string "session.stop" (by decide)))
    (.cons (writesMember_name "session_id" (by decide) (.string (stringBody_plain isPlain)))
    (.cons (writesMember_name "sequence" (by decide) (derives_ofInt 1))
    (.cons (writesMember_name "timestamp_ms" (by decide) (derives_ofInt 0))
    (.cons (writesMember_name "payload" (by decide) (.emptyObject Blank.nil)) .nil))))))
  exact derived

/-- The text of a `session.stop`. -/
def stopText : List Char :=
  ("\x7b\"schema_version\":\"0.1\",\"command\":\"session.stop\",\"session_id\":\"s\"," ++
    "\"sequence\":1,\"timestamp_ms\":0,\"payload\":\x7b\x7d\x7d").toList

theorem derives_stopText : Derives stopText (.value (stopCommand "s".toList).tree.document) := by
  have isPlain : Plain "s".toList := by decide
  exact derives_longStopText isPlain

theorem formatted_stopText : Formatted FloatMath.axis (Reading.python FloatMath.axis) stopText := by
  refine ⟨_, stopCommand "s".toList, isText_of_derives derives_stopText,
    WireCommand.distinctKeys_tree _, isCommand_stopCommand _, ?_⟩
  exact ⟨by decide, by decide, python_integer rfl ⟨by decide, by decide⟩,
    python_integer rfl ⟨by decide, by decide⟩, trivial⟩

/-- The text of a `session.stop` is decoded. -/
theorem decodesFormat_iff_stop : DecodesFormat FloatMath.axis (ofChars stopText) ↔
    ¬(WithinLimits (ofChars stopText) ∧
      ∃ source, ofChars stopText = ofChars source ∧
        (TrailsSpace FloatMath.axis source ∨ HasExtremeNorm FloatMath.axis source)) :=
  decodesFormat_iff FloatMath.overflows_axis rfl _

/-- `1e-13`. -/
def tinyLiteral : Literal where
  val := ⟨false, [1], none, some (false, some true, [1, 3])⟩
  property := {
    integer := by decide
    noLeadingZero := by decide
    fraction := by rintro _ ⟨⟩
    exponent := by
      rintro _ _ _ ⟨⟩
      exact List.cons_ne_nil _ _ }

/-- A `head.recenter` with the orientation `(1e-13, 0, 0, 0)`. -/
def tinyRecenter : WireCommand :=
  ⟨.headRecenter, "s".toList, .ofInt 1, .ofInt 0,
    .pose ⟨tinyLiteral, .ofInt 0, .ofInt 0, .ofInt 0⟩ none⟩

def tinyText : List Char :=
  objectText [Json.memberText "schema_version".toList "\"0.1\"".toList,
    Json.memberText "command".toList "\"head.recenter\"".toList,
    Json.memberText "session_id".toList "\"s\"".toList,
    Json.memberText "sequence".toList ['1'], Json.memberText "timestamp_ms".toList ['0'],
    Json.memberText "payload".toList (objectText [
      Json.memberText "frame".toList "\"quest_local\"".toList,
      Json.memberText "orientation".toList (objectText [
        Json.memberText "x".toList "1e-13".toList, Json.memberText "y".toList ['0'],
        Json.memberText "z".toList ['0'], Json.memberText "w".toList ['0']])])]

theorem derives_tinyText : Derives tinyText (.value tinyRecenter.tree.document) := by
  have orientation := derives_objectText
    (.cons (writesMember_name "x" (by decide) (.number tinyLiteral.2))
    (.cons (writesMember_name "y" (by decide) (derives_ofInt 0))
    (.cons (writesMember_name "z" (by decide) (derives_ofInt 0))
    (.cons (writesMember_name "w" (by decide) (derives_ofInt 0)) .nil))))
  have payload := derives_objectText
    (.cons (writesMember_name "frame" (by decide) (derives_string "quest_local" (by decide)))
    (.cons (writesMember_name "orientation" (by decide) orientation) .nil))
  have derived := derives_objectText
    (.cons (writesMember_name "schema_version" (by decide) (derives_string "0.1" (by decide)))
    (.cons (writesMember_name "command" (by decide) (derives_string "head.recenter" (by decide)))
    (.cons (writesMember_name "session_id" (by decide) (derives_string "s" (by decide)))
    (.cons (writesMember_name "sequence" (by decide) (derives_ofInt 1))
    (.cons (writesMember_name "timestamp_ms" (by decide) (derives_ofInt 0))
    (.cons (writesMember_name "payload" (by decide) payload) .nil))))))
  exact derived

theorem denotes_tiny : WireOrientation.Denotes FloatMath.axis
    ⟨tinyLiteral, .ofInt 0, .ofInt 0, .ofInt 0⟩ (1 / 10 ^ 13) 0 0 0 :=
  ⟨by decide +kernel, by decide +kernel, by decide +kernel, by decide +kernel⟩

theorem hasExtremeNorm_tinyText : HasExtremeNorm FloatMath.axis tinyText := by
  refine ⟨_, tinyRecenter, isText_of_derives derives_tinyText, WireCommand.distinctKeys_tree _,
    tinyRecenter.isCommand_tree trivial, ?_, _, _, _, _, _, _, rfl, denotes_tiny, .inr ?_⟩
  · refine ⟨by decide, by decide, python_integer rfl ⟨by decide, by decide⟩,
      python_integer rfl ⟨by decide, by decide⟩, ⟨_, _, _, _, denotes_tiny, rfl, ?_⟩, ?_⟩
    · rintro ⟨nonzero, _⟩
      exact absurd nonzero (by norm_num)
    · rintro _ ⟨⟩
  · decide +kernel

/-- A no-break space behind a command is stripped as well, and `(1e-13, 0, 0, 0)` is not zero. -/
theorem not_always_decodesFormat :
    ¬DecodesFormat FloatMath.axis (ofChars (stopText ++ ['\u00a0'])) ∧
      ¬DecodesFormat FloatMath.axis (ofChars tinyText) := by
  constructor
  · refine not_decodesFormat_of_trailsSpace FloatMath.overflows_axis ⟨by decide, by decide⟩
      ⟨stopText, ['\u00a0'], rfl, formatted_stopText, by decide, ?_⟩
    intro isBlank
    have blank := isBlank '\u00a0' (by simp)
    revert blank
    decide
  · exact not_decodesFormat_of_extremeNorm FloatMath.overflows_axis
      ⟨by decide +kernel, by decide +kernel⟩ hasExtremeNorm_tinyText

end ValeraControlTower

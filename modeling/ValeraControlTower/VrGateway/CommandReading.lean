import ValeraControlTower.Contract.Commands
import ValeraControlTower.VrGateway.WireErrors

/-!
# The documents `decode_command` accepts

On a document of texts and literals, the checks behind `_parse_json` accept exactly the
acceptable commands of the contract, white space, lengths and integers being Python's.
-/

namespace ValeraControlTower

open Unicode Json Wire

variable {K : Type}

/-- Python's reading: code points count, and `int` reads a sign. -/
def Dialect.python : Dialect where
  blank text := isspace (ofChars text)
  length := List.length
  signed := true

/-- The document as `_parse_json` returns it. -/
abbrev pyTree (M : FloatMath K) (tree : WireTree) : PyJson K :=
  tree.map ofChars fun literal => pyNumber M literal.1

abbrev pyTreeMembers (M : FloatMath K) (members : WireMembers) : PyPairs K :=
  Tree.mapMembers ofChars (fun literal => pyNumber M literal.1) members

variable (M : FloatMath K)

/-! ## Fields -/

theorem ofChars_injective : Function.Injective ofChars :=
  List.map_injective_iff.mpr fun _ _ => CodePoint.ofChar_inj.mp

theorem keys_pyTreeMembers (members : WireMembers) :
    (pyTreeMembers M members).map Prod.fst = (members.map Prod.fst).map ofChars :=
  Tree.map_fst_mapMembers _ _ members

theorem mem_keys_iff (members : WireMembers) (name : String) :
    py name ∈ (pyTreeMembers M members).map Prod.fst ↔ name.toList ∈ members.map Prod.fst := by
  rw [keys_pyTreeMembers]
  exact List.mem_map_of_injective ofChars_injective

theorem keys_known_iff (members : WireMembers) (known : List String) :
    ((pyTreeMembers M members).map Prod.fst).all (· ∈ known.map py) = true ↔
      ∀ key ∈ members.map Prod.fst, key ∈ known.map String.toList := by
  have same : known.map py = (known.map String.toList).map ofChars := by
    rw [List.map_map]
    rfl
  rw [keys_pyTreeMembers, same, List.all_eq_true, List.forall_mem_map]
  simp only [decide_eq_true_eq, List.mem_map_of_injective ofChars_injective]

theorem sameKeys_iff (members : WireMembers) (names : List String) :
    sameKeys (pyTreeMembers M members) (names.map py) = true ↔ members.HasFields names [] := by
  unfold sameKeys
  have required : (names.map py).all (· ∈ (pyTreeMembers M members).map Prod.fst) = true ↔
      ∀ name ∈ names, name.toList ∈ members.map Prod.fst := by
    rw [List.all_eq_true, List.forall_mem_map]
    simp only [decide_eq_true_eq, mem_keys_iff]
  rw [Bool.and_eq_true, keys_known_iff, required]
  constructor
  · rintro ⟨known, present⟩
    refine ⟨present, ?_⟩
    rwa [List.append_nil]
  · rintro ⟨present, known⟩
    rw [List.append_nil] at known
    exact ⟨known, present⟩

/-- A check that the fields are exactly the required ones. -/
theorem ifFields_iff {α : Type} (members : WireMembers) (names : List String)
    {outcome : Except PyException α} {exception : PyException} {value : α} :
    (if sameKeys (pyTreeMembers M members) (names.map py) then outcome
      else .error exception) = .ok value ↔ members.HasFields names [] ∧ outcome = .ok value := by
  rw [← sameKeys_iff M]
  by_cases keys : sameKeys (pyTreeMembers M members) (names.map py) = true
  · simp only [keys, if_true, true_and]
  · rw [if_neg keys]
    refine iff_of_false ?_ fun both => keys both.1
    rintro ⟨⟩

variable {M}

theorem getItem_of_has {members : WireMembers} {name : String} {value : WireTree}
    (has : members.Has name value) :
    getItem (pyTreeMembers M members) (py name) = pyTree M value := by
  have found := Tree.lookup_mapMembers ofChars (fun literal => pyNumber M literal.1)
    ofChars_injective members name.toList
  rw [show members.lookup name.toList = some value from has] at found
  unfold getItem
  rw [show py name = ofChars name.toList from rfl, found]
  rfl

/-! ## Header -/

theorem decodeSchemaVersion_iff {value : WireTree} :
    decodeSchemaVersion (pyTree M value) = .ok () ↔ value = .str "0.1".toList := by
  cases value with
  | null | bool _ | num _ | arr _ | obj _ =>
      refine iff_of_false ?_ ?_ <;> rintro ⟨⟩
  | str chars =>
      change (if ofChars chars = ofChars "0.1".toList then _ else _) = _ ↔ _
      by_cases same : chars = "0.1".toList
      · rw [if_pos (congrArg ofChars same), same]
        exact iff_of_true rfl rfl
      · rw [if_neg fun equal => same (ofChars_injective equal)]
        refine iff_of_false ?_ ?_
        · rintro ⟨⟩
        · rintro ⟨⟩
          exact same rfl

theorem value_eq_wire (name : CommandName) : name.value = ofChars name.wire.toList := by
  cases name <;> rfl

theorem commandByName_iff {chars : List Char} {name : CommandName} :
    commandByName (ofChars chars) = some name ↔ chars = name.wire.toList := by
  constructor
  · intro found
    unfold commandByName at found
    have same := List.find?_some found
    rw [decide_eq_true_eq, value_eq_wire] at same
    exact (ofChars_injective same).symm
  · rintro rfl
    cases name <;> decide

theorem decodeCommandName_iff {value : WireTree} {name : CommandName} :
    decodeCommandName (pyTree M value) = .ok name ↔ value = .str name.wire.toList := by
  cases value with
  | null | bool _ | num _ | arr _ | obj _ =>
      refine iff_of_false ?_ ?_ <;> rintro ⟨⟩
  | str chars =>
      have named : decodeCommandName (pyTree M (.str chars)) = .ok name ↔
          commandByName (ofChars chars) = some name := by
        rw [show pyTree M (.str chars) = .str (ofChars chars) from rfl]
        unfold decodeCommandName
        dsimp only
        cases commandByName (ofChars chars) with
        | none => simp
        | some command => simp
      rw [named, commandByName_iff]
      simp

theorem validateSessionId_iff {value : WireTree}
    {result : { text : PyStr // text ≠ [] ∧ isspace text = false }} :
    validateSessionId (object (pyTree M value)) = .ok result ↔
      ∃ chars, value = .str chars ∧ result.1 = ofChars chars := by
  constructor
  · intro validated
    cases value with
    | null | bool _ | arr _ | obj _ => cases validated
    | num literal =>
        change validateSessionId (object (.num (pyNumber M literal.1))) = _ at validated
        generalize pyNumber M literal.1 = number at validated
        cases number <;> cases validated
    | str chars =>
        refine ⟨chars, rfl, ?_⟩
        change validateSessionId (.str (ofChars chars)) = _ at validated
        unfold validateSessionId at validated
        dsimp only at validated
        split at validated
        · split at validated
          · cases validated
          · cases validated
            rfl
        · cases validated
  · rintro ⟨chars, rfl, same⟩
    obtain ⟨text, nonempty, visible⟩ := result
    cases same
    exact validateSessionId_str nonempty visible

/-- An integer literal is decoded to an `int`, any other to a `float`. -/
theorem object_pyNumber (literal : Literal) :
    (literal.1.isInteger = true ∧ object (.num (pyNumber M literal.1)) = .int literal.1.intValue) ∨
      (literal.1.isInteger = false ∧
        object (.num (pyNumber M literal.1)) = .float (parseFloat M literal.1)) := by
  unfold pyNumber
  cases literal.1.isInteger with
  | true => exact .inl ⟨rfl, rfl⟩
  | false => exact .inr ⟨rfl, rfl⟩

theorem validateIntField_iff {value : WireTree} {name : String} {minimum : ℤ}
    {result : { number : ℤ // minimum ≤ number ∧ number ≤ maxInt64 }} :
    validateIntField (object (pyTree M value)) name minimum = .ok result ↔
      ∃ literal : Literal, value = .num literal ∧ literal.1.isInteger = true ∧
        result.1 = literal.1.intValue := by
  constructor
  · intro validated
    cases value with
    | null | bool _ | str _ | arr _ | obj _ => cases validated
    | num literal =>
        change validateIntField (object (.num (pyNumber M literal.1))) _ _ = _ at validated
        rcases object_pyNumber (M := M) literal with ⟨integral, same⟩ | ⟨_, same⟩
        · refine ⟨literal, rfl, integral, ?_⟩
          rw [same] at validated
          unfold validateIntField at validated
          dsimp only at validated
          split at validated
          · cases validated
          · split at validated
            · cases validated
            · cases validated
              rfl
        · rw [same] at validated
          cases validated
  · rintro ⟨literal, rfl, integral, same⟩
    obtain ⟨number, above, below⟩ := result
    cases same
    change validateIntField (object (.num (pyNumber M literal.1))) _ _ = _
    rcases object_pyNumber (M := M) literal with ⟨_, same⟩ | ⟨other, _⟩
    · rw [same]
      exact validateIntField_int ⟨above, below⟩ name
    · rw [integral] at other
      cases other

/-! ## Components -/

theorem ofRat_pyNumber (literal : Literal) (isInteger : literal.1.isInteger = true) :
    M.ofRat literal.1.intValue = M.ofRat literal.1.value := by
  rw [Numeral.value_of_isInteger isInteger]

/-- A component is a finite number if its literal has a float next to it. -/
theorem finiteNumber_iff {literal : Literal} :
    FiniteNumber M (.num (pyNumber M literal.1)) ↔
      ∃ value, M.ofRat literal.1.value = some value := by
  rw [← Option.ne_none_iff_exists']
  unfold pyNumber
  by_cases integral : literal.1.isInteger = true
  · rw [if_pos integral, ← ofRat_pyNumber literal integral]
    rfl
  · rw [if_neg integral]
    unfold parseFloat
    cases M.ofRat literal.1.value with
    | none => exact iff_of_false id (not_not.mpr rfl)
    | some value => exact iff_of_true trivial (Option.some_ne_none value)

theorem toFloat_pyNumber [Zero K] {literal : Literal} {value : K}
    (isValue : M.ofRat literal.1.value = some value) :
    (object (.num (pyNumber M literal.1))).toFloat M = value := by
  rcases object_pyNumber (M := M) literal with ⟨integral, same⟩ | ⟨_, same⟩
  · rw [same]
    change (M.ofRat literal.1.intValue).getD 0 = value
    rw [ofRat_pyNumber literal integral, isValue]
    rfl
  · rw [same]
    unfold parseFloat
    rw [isValue]
    rfl

theorem decodeComponent_iff {owner : String} {value : WireTree} {number : PyNumber K} :
    decodeComponent M owner (pyTree M value) = .ok number ↔
      ∃ literal : Literal, value = .num literal ∧ number = pyNumber M literal.1 ∧
        ∃ float, M.ofRat literal.1.value = some float := by
  rw [decodeComponent_ok_iff]
  cases value with
  | null | bool _ | str _ | arr _ | obj _ =>
      refine iff_of_false ?_ ?_
      · rintro ⟨⟨⟩, _⟩
      · rintro ⟨_, ⟨⟩, _⟩
  | num literal =>
      constructor
      · rintro ⟨same, finite⟩
        refine ⟨literal, rfl, ?_, finiteNumber_iff.mp finite⟩
        injection same with same
        exact same.symm
      · rintro ⟨_, ⟨⟩, rfl, finite⟩
        exact ⟨rfl, finiteNumber_iff.mpr finite⟩

variable [Field K] [LinearOrder K]

omit [LinearOrder K] in
theorem finiteJsonNumber_pyNumber (owner : String) {literal : Literal} {value : K}
    (isValue : M.ofRat literal.1.value = some value) :
    finiteJsonNumber M owner (pyNumber M literal.1) = .ok value := by
  rw [finiteJsonNumber_ok owner (finiteNumber_iff.mpr ⟨value, isValue⟩),
    toFloat_pyNumber isValue]

/-! ## Orientation and position -/

/-- The orientations the constructor takes. -/
def Turns (M : FloatMath K) (orientation : WireOrientation) : Prop :=
  ∃ x y z w, orientation.Denotes M x y z w ∧ [x, y, z, w].all M.isfinite = true ∧
    M.isfinite (M.hypot [x, y, z, w]) = true ∧ zeroLengthNorm < M.hypot [x, y, z, w]

/-- Python's reading. -/
def Reading.python (M : FloatMath K) : Reading where
  toDialect := Dialect.python
  turns := Turns M

/-- In exact arithmetic an orientation is taken if it is acceptable. -/
theorem turns_iff [IsStrictOrderedRing K] (exact : M.Exact) {orientation : WireOrientation} :
    Turns M orientation ↔ orientation.Acceptable M := by
  have nonnegative : (0 : K) ≤ zeroLengthNorm := by
    unfold zeroLengthNorm
    positivity
  have squared : (zeroLengthNorm : K) * zeroLengthNorm = 1 / 10 ^ 24 := by
    unfold zeroLengthNorm
    rw [div_mul_div_comm, ← pow_add, one_mul]
  have norm (x y z w : K) : zeroLengthNorm < M.hypot [x, y, z, w] ↔
      1 / 10 ^ 24 < x * x + y * y + z * z + w * w := by
    have sum : M.hypot [x, y, z, w] * M.hypot [x, y, z, w] = x * x + y * y + z * z + w * w := by
      rw [exact.hypot_mul_self]
      simp only [List.map_cons, List.map_nil, List.sum_cons, List.sum_nil]
      ring
    rw [mul_self_lt_mul_self_iff nonnegative (exact.hypot_nonneg _), squared, sum]
  unfold Turns WireOrientation.Acceptable
  simp only [norm, List.all_cons, List.all_nil, exact.isfinite, Bool.and_self, true_and]

theorem new_iff {x y z w : K} {value : Quaternion M} :
    Quaternion.new M x y z w = .ok value ↔
      [x, y, z, w].all M.isfinite = true ∧ x = value.x ∧ y = value.y ∧ z = value.z ∧
        w = value.w := by
  unfold Quaternion.new
  by_cases finite : [x, y, z, w].all M.isfinite = true
  · rw [if_pos finite, and_iff_right finite]
    constructor
    · intro made
      split at made
      · split at made
        · cases made
          exact ⟨rfl, rfl, rfl, rfl⟩
        · cases made
      · cases made
    · rintro ⟨rfl, rfl, rfl, rfl⟩
      rw [dif_pos value.normFinite, dif_pos value.normPositive]
  · rw [if_neg finite]
    refine iff_of_false ?_ fun both => finite both.1
    rintro ⟨⟩

theorem catchMessageErrors_ok_iff {α : Type} {outcome : Except PyException α} {value : α} :
    catchMessageErrors outcome = .ok value ↔ outcome = .ok value := by
  unfold catchMessageErrors
  split
  · simp
  · exact Iff.rfl

theorem constructQuaternion_eq {x y z w : Literal} {a b c d : K}
    (isX : M.ofRat x.1.value = some a) (isY : M.ofRat y.1.value = some b)
    (isZ : M.ofRat z.1.value = some c) (isW : M.ofRat w.1.value = some d) :
    constructQuaternion M (pyNumber M x.1) (pyNumber M y.1) (pyNumber M z.1) (pyNumber M w.1) =
      Quaternion.new M a b c d := by
  unfold constructQuaternion
  rw [finiteJsonNumber_pyNumber _ isX, finiteJsonNumber_pyNumber _ isY,
    finiteJsonNumber_pyNumber _ isZ, finiteJsonNumber_pyNumber _ isW]
  rfl

/-- An orientation is accepted as the quaternion it denotes. -/
theorem decodeQuaternion_iff {value : WireTree} {quaternion : Quaternion M} :
    decodeQuaternion M (pyTree M value) = .ok quaternion ↔
      ∃ orientation, IsOrientation value orientation ∧ Turns M orientation ∧
        orientation.Denotes M quaternion.x quaternion.y quaternion.z quaternion.w := by
  constructor
  · intro decoded
    cases value with
    | null | bool _ | num _ | str _ | arr _ => cases decoded
    | obj members =>
        obtain ⟨fields, decoded⟩ := (ifFields_iff M members ["x", "y", "z", "w"]).mp decoded
        obtain ⟨_, hasX⟩ := fields.get "x" (by decide)
        obtain ⟨_, hasY⟩ := fields.get "y" (by decide)
        obtain ⟨_, hasZ⟩ := fields.get "z" (by decide)
        obtain ⟨_, hasW⟩ := fields.get "w" (by decide)
        rw [getItem_of_has hasX, getItem_of_has hasY, getItem_of_has hasZ,
          getItem_of_has hasW] at decoded
        obtain ⟨_, readX, decoded⟩ := bind_eq_ok decoded
        obtain ⟨_, readY, decoded⟩ := bind_eq_ok decoded
        obtain ⟨_, readZ, decoded⟩ := bind_eq_ok decoded
        obtain ⟨_, readW, decoded⟩ := bind_eq_ok decoded
        obtain ⟨x, rfl, rfl, a, isX⟩ := decodeComponent_iff.mp readX
        obtain ⟨y, rfl, rfl, b, isY⟩ := decodeComponent_iff.mp readY
        obtain ⟨z, rfl, rfl, c, isZ⟩ := decodeComponent_iff.mp readZ
        obtain ⟨w, rfl, rfl, d, isW⟩ := decodeComponent_iff.mp readW
        rw [catchMessageErrors_ok_iff, constructQuaternion_eq isX isY isZ isW, new_iff] at decoded
        obtain ⟨finite, rfl, rfl, rfl, rfl⟩ := decoded
        have denotes : WireOrientation.Denotes M ⟨x, y, z, w⟩ quaternion.x quaternion.y
            quaternion.z quaternion.w := ⟨isX, isY, isZ, isW⟩
        exact ⟨_, .obj fields hasX hasY hasZ hasW, ⟨_, _, _, _, denotes, finite,
          quaternion.normFinite, quaternion.normPositive⟩, denotes⟩
  · rintro ⟨_, ⟨fields, hasX, hasY, hasZ, hasW⟩,
      ⟨a, b, c, d, ⟨isA, isB, isC, isD⟩, finite, _⟩, isX, isY, isZ, isW⟩
    cases isA.symm.trans isX
    cases isB.symm.trans isY
    cases isC.symm.trans isZ
    cases isD.symm.trans isW
    refine (ifFields_iff M _ ["x", "y", "z", "w"]).mpr ⟨fields, ?_⟩
    rw [getItem_of_has hasX, getItem_of_has hasY, getItem_of_has hasZ,
      getItem_of_has hasW, decodeComponent_iff.mpr ⟨_, rfl, rfl, _, isX⟩,
      decodeComponent_iff.mpr ⟨_, rfl, rfl, _, isY⟩, decodeComponent_iff.mpr ⟨_, rfl, rfl, _, isZ⟩,
      decodeComponent_iff.mpr ⟨_, rfl, rfl, _, isW⟩]
    change catchMessageErrors (constructQuaternion M _ _ _ _) = _
    rw [catchMessageErrors_ok_iff, constructQuaternion_eq isX isY isZ isW, new_iff]
    exact ⟨finite, rfl, rfl, rfl, rfl⟩

omit [LinearOrder K] in
theorem constructPosition_eq {x y z : Literal} {a b c : K} (isX : M.ofRat x.1.value = some a)
    (isY : M.ofRat y.1.value = some b) (isZ : M.ofRat z.1.value = some c) :
    constructPosition M (pyNumber M x.1) (pyNumber M y.1) (pyNumber M z.1) = .ok ⟨a, b, c⟩ := by
  unfold constructPosition
  rw [finiteJsonNumber_pyNumber _ isX, finiteJsonNumber_pyNumber _ isY,
    finiteJsonNumber_pyNumber _ isZ]
  rfl

omit [LinearOrder K] in
/-- A value that may be null is accepted as nothing or as the position it denotes. -/
theorem decodePositionOptional_iff {value : WireTree} {result : Option (Position K)} :
    decodePositionOptional M (pyTree M value) = .ok result ↔
      (value = .null ∧ result = none) ∨
        ∃ position read, IsPosition value position ∧ result = some read ∧
          position.Denotes M read.x read.y read.z := by
  constructor
  · intro decoded
    cases value with
    | bool _ | num _ | str _ | arr _ => cases decoded
    | null =>
        cases decoded
        exact .inl ⟨rfl, rfl⟩
    | obj members =>
        refine .inr ?_
        obtain ⟨fields, decoded⟩ := (ifFields_iff M members ["x", "y", "z"]).mp decoded
        obtain ⟨_, hasX⟩ := fields.get "x" (by decide)
        obtain ⟨_, hasY⟩ := fields.get "y" (by decide)
        obtain ⟨_, hasZ⟩ := fields.get "z" (by decide)
        rw [getItem_of_has hasX, getItem_of_has hasY, getItem_of_has hasZ] at decoded
        obtain ⟨_, readX, decoded⟩ := bind_eq_ok decoded
        obtain ⟨_, readY, decoded⟩ := bind_eq_ok decoded
        obtain ⟨_, readZ, decoded⟩ := bind_eq_ok decoded
        obtain ⟨x, rfl, rfl, a, isX⟩ := decodeComponent_iff.mp readX
        obtain ⟨y, rfl, rfl, b, isY⟩ := decodeComponent_iff.mp readY
        obtain ⟨z, rfl, rfl, c, isZ⟩ := decodeComponent_iff.mp readZ
        rw [constructPosition_eq isX isY isZ] at decoded
        cases decoded
        exact ⟨_, ⟨a, b, c⟩, .obj fields hasX hasY hasZ, rfl, isX, isY, isZ⟩
  · rintro (⟨rfl, rfl⟩ | ⟨_, ⟨a, b, c⟩, ⟨fields, hasX, hasY, hasZ⟩, rfl, isX, isY, isZ⟩)
    · rfl
    · refine (ifFields_iff M _ ["x", "y", "z"]).mpr ⟨fields, ?_⟩
      rw [getItem_of_has hasX, getItem_of_has hasY, getItem_of_has hasZ,
        decodeComponent_iff.mpr ⟨_, rfl, rfl, _, isX⟩,
        decodeComponent_iff.mpr ⟨_, rfl, rfl, _, isY⟩,
        decodeComponent_iff.mpr ⟨_, rfl, rfl, _, isZ⟩]
      change (catchMessageErrors (constructPosition M _ _ _) >>= _) = _
      rw [constructPosition_eq isX isY isZ]
      rfl

/-- What a position that was read holds of the document. -/
inductive HoldsPosition (M : FloatMath K) : Option (Position K) → Option WirePosition → Prop where
  | none : HoldsPosition M none none
  | some {value : Position K} {position : WirePosition}
      (denotes : position.Denotes M value.x value.y value.z) :
      HoldsPosition M (some value) (some position)

omit [LinearOrder K] in
/-- The position of a `head.pose`, which may be left out. -/
theorem decodePositionField_iff {members : WireMembers} {result : Option (Position K)} :
    decodePositionField M (pyTreeMembers M members) = .ok result ↔
      ∃ position, IsOptionalPosition members position ∧ HoldsPosition M result position := by
  unfold decodePositionField
  cases found : members.lookup "position".toList with
  | none =>
      have absent : py "position" ∉ (pyTreeMembers M members).map Prod.fst := by
        rw [mem_keys_iff]
        intro present
        obtain ⟨member, membership, same⟩ := List.mem_map.mp present
        have unequal := List.lookup_eq_none_iff.mp found member membership
        rw [same] at unequal
        simp at unequal
      rw [if_neg absent]
      constructor
      · rintro ⟨⟩
        exact ⟨none, .absent found, .none⟩
      · rintro ⟨_, isPosition, holds⟩
        cases isPosition.unique (.absent found)
        cases holds
        rfl
  | some value =>
      have present : py "position" ∈ (pyTreeMembers M members).map Prod.fst := by
        rw [mem_keys_iff]
        obtain ⟨member, membership, same⟩ :=
          List.lookup_isSome_iff.mp (Option.isSome_iff_exists.mpr ⟨value, found⟩)
        exact List.mem_map.mpr ⟨member, membership, (eq_of_beq same).symm⟩
      rw [if_pos present, getItem_of_has found, decodePositionOptional_iff]
      constructor
      · rintro (⟨rfl, rfl⟩ | ⟨position, read, isPosition, rfl, denotes⟩)
        · exact ⟨none, .null found, .none⟩
        · exact ⟨some position, .present found isPosition, .some denotes⟩
      · rintro ⟨_, isPosition, holds⟩
        cases isPosition with
        | absent absent => cases absent.symm.trans found
        | null isNull =>
            cases holds
            exact .inl ⟨(isNull.unique found).symm, rfl⟩
        | present isMember isPosition =>
            cases isMember.unique found
            cases holds with
            | some denotes => exact .inr ⟨_, _, isPosition, rfl, denotes⟩

/-! ## Payloads -/

section Payloads

omit [Field K] [LinearOrder K]

theorem decodeSessionStart_iff {members : WireMembers} {payload : SessionStartPayload} :
    decodeSessionStart (pyTreeMembers M members) = .ok payload ↔
      members.HasFields ["requested_mode"] [] ∧
        members.Has "requested_mode" (.str "head".toList) ∧ payload.requestedMode = py "head" := by
  refine (ifFields_iff M members ["requested_mode"]).trans (and_congr_right fun fields => ?_)
  obtain ⟨value, has⟩ := fields.get "requested_mode" (by decide)
  rw [getItem_of_has has]
  constructor
  · intro decoded
    cases value with
    | null | bool _ | num _ | arr _ | obj _ => cases decoded
    | str chars =>
        change (if exact : ofChars chars = py "head" then _ else _) = _ at decoded
        split at decoded
        · next same =>
            cases decoded
            rw [ofChars_injective same] at has
            exact ⟨has, same⟩
        · cases decoded
  · rintro ⟨has', same⟩
    cases has.unique has'
    obtain ⟨requestedMode, nonempty⟩ := payload
    cases same
    rfl

theorem decodeEmptyPayload_iff {members : WireMembers} :
    decodeEmptyPayload (pyTreeMembers M members) = .ok () ↔ members.HasFields [] [] := by
  cases members with
  | nil => exact iff_of_true rfl ⟨by simp, by simp⟩
  | cons member members =>
      refine iff_of_false ?_ fun fields => ?_
      · rintro ⟨⟩
      · exact absurd (fields.known member.1 (by simp)) (by simp)

theorem decodeFrame_iff {value : WireTree} {frame : { frame : PyStr // frame = questLocalFrame }} :
    decodeFrame (pyTree M value) = .ok frame ↔ value = .str "quest_local".toList := by
  obtain ⟨_, rfl⟩ := frame
  cases value with
  | null | bool _ | num _ | arr _ | obj _ => refine iff_of_false ?_ ?_ <;> rintro ⟨⟩
  | str chars =>
      change (if exact : ofChars chars = ofChars "quest_local".toList then _ else _) = _ ↔ _
      by_cases same : chars = "quest_local".toList
      · subst same
        exact iff_of_true rfl rfl
      · rw [dif_neg fun equal => same (ofChars_injective equal)]
        refine iff_of_false ?_ ?_
        · rintro ⟨⟩
        · rintro ⟨⟩
          exact same rfl

end Payloads

/-- What an accepted payload holds of the document. -/
inductive Payload.Holds : Payload M → WirePayload → Prop where
  | sessionStart {payload : SessionStartPayload} (isMode : payload.requestedMode = py "head") :
      Holds (.sessionStart payload) .sessionStart
  | modeSet {payload : ModeSetPayload} {mode : List Char} (isMode : payload.mode = ofChars mode) :
      Holds (.modeSet payload) (.mode mode)
  | pose {payload : PosePayload M} {orientation : WireOrientation} {position : Option WirePosition}
      (isOrientation : orientation.Denotes M payload.orientation.x payload.orientation.y
        payload.orientation.z payload.orientation.w)
      (isPosition : HoldsPosition M payload.position position) :
      Holds (.pose payload) (.pose orientation position)
  | empty : Holds .empty .empty

theorem decodeModeSet_iff {members : WireMembers} {payload : ModeSetPayload} :
    decodeModeSet (pyTreeMembers M members) = .ok payload ↔
      ∃ mode, members.HasFields ["mode"] [] ∧ members.Has "mode" (.str mode) ∧
        WirePayload.Acceptable M (Reading.python M) (.mode mode) ∧ payload.mode = ofChars mode := by
  apply (ifFields_iff M members ["mode"]).trans
  constructor
  · rintro ⟨fields, decoded⟩
    obtain ⟨value, has⟩ := fields.get "mode" (by decide)
    rw [getItem_of_has has] at decoded
    cases value with
    | null | bool _ | num _ | arr _ | obj _ => cases decoded
    | str mode =>
        refine ⟨mode, fields, has, ?_⟩
        change (if blank : ofChars mode = [] ∨ isspace (ofChars mode) = true then _ else _) = _
          at decoded
        split at decoded
        · cases decoded
        · next visible =>
            split at decoded
            · cases decoded
            · next fits =>
                cases decoded
                rw [not_or, Bool.not_eq_true] at visible
                rw [ofChars, List.length_map] at fits
                refine ⟨⟨?_, visible.2, Nat.le_of_not_lt fits⟩, rfl⟩
                rintro rfl
                exact visible.1 rfl
  · rintro ⟨mode, fields, has, ⟨nonempty, visible, fits⟩, same⟩
    refine ⟨fields, ?_⟩
    rw [getItem_of_has has]
    have notBlank : ¬(ofChars mode = [] ∨ isspace (ofChars mode) = true) := by
      rintro (empty | blank)
      · exact nonempty (List.map_eq_nil_iff.mp empty)
      · exact Bool.false_ne_true (visible.symm.trans blank)
    have short : ¬(ofChars mode).length > maxModeLength := by
      rw [ofChars, List.length_map]
      exact Nat.not_lt.mpr fits
    obtain ⟨text, textNonempty⟩ := payload
    cases same
    change (if blank : ofChars mode = [] ∨ isspace (ofChars mode) = true then _ else _) = _
    rw [dif_neg notBlank, if_neg short]
    rfl

omit [Field K] [LinearOrder K] in
/-- A position that was read is acceptable. -/
theorem HoldsPosition.acceptable {value : Option (Position K)} {position : Option WirePosition}
    (holds : HoldsPosition M value position) :
    ∀ present : WirePosition, position = Option.some present → present.Acceptable M := by
  rintro present rfl
  cases holds with
  | some denotes => exact ⟨_, _, _, denotes⟩

/-- A pose without a position of its own. -/
theorem decodeHeadRecenter_iff {members : WireMembers} {payload : PosePayload M} :
    decodeHeadRecenter M (pyTreeMembers M members) = .ok payload ↔
      ∃ orientation, IsPayload .headRecenter (.obj members) (.pose orientation none) ∧
        Turns M orientation ∧ Payload.Holds (.pose payload) (.pose orientation none) := by
  apply (ifFields_iff M members ["frame", "orientation"]).trans
  constructor
  · rintro ⟨fields, decoded⟩
    obtain ⟨_, hasFrame⟩ := fields.get "frame" (by decide)
    obtain ⟨_, hasOrientation⟩ := fields.get "orientation" (by decide)
    rw [getItem_of_has hasFrame, getItem_of_has hasOrientation] at decoded
    obtain ⟨frame, isFrame, decoded⟩ := bind_eq_ok decoded
    obtain ⟨quaternion, isQuaternion, decoded⟩ := bind_eq_ok decoded
    cases decoded
    cases decodeFrame_iff.mp isFrame
    obtain ⟨orientation, isOrientation, turns, denotes⟩ := decodeQuaternion_iff.mp isQuaternion
    exact ⟨orientation, .headRecenter fields hasFrame hasOrientation isOrientation, turns,
      .pose denotes .none⟩
  · rintro ⟨orientation, isPayload, turns, holds⟩
    cases isPayload with
    | headRecenter fields isFrame isMember isOrientation =>
        refine ⟨fields, ?_⟩
        obtain ⟨frame, quaternion, position, frameExact⟩ := payload
        cases holds with
        | pose denotes isPosition =>
            cases isPosition
            have read := decodeQuaternion_iff.mpr ⟨orientation, isOrientation, turns, denotes⟩
            rw [getItem_of_has isFrame, getItem_of_has isMember,
              (@decodeFrame_iff _ _ _ ⟨frame, frameExact⟩).mpr rfl, read]
            rfl

omit [Field K] [LinearOrder K] in
/-- The field checks of `head.pose`. -/
theorem ifPoseFields_iff {α : Type} (members : WireMembers) {outcome : Except PyException α}
    {first second : PyException} {value : α} :
    (if ¬(py "frame" ∈ (pyTreeMembers M members).map Prod.fst ∧
        py "orientation" ∈ (pyTreeMembers M members).map Prod.fst) then .error first
      else if ¬((pyTreeMembers M members).map Prod.fst).all (· ∈ headPoseKeys) then .error second
      else outcome) = .ok value ↔
      members.HasFields ["frame", "orientation"] ["position"] ∧ outcome = .ok value := by
  have known := keys_known_iff M members ["frame", "orientation", "position"]
  have frame := mem_keys_iff M members "frame"
  have orientation := mem_keys_iff M members "orientation"
  by_cases present : py "frame" ∈ (pyTreeMembers M members).map Prod.fst ∧
      py "orientation" ∈ (pyTreeMembers M members).map Prod.fst
  · rw [if_neg (not_not.mpr present)]
    by_cases all : ((pyTreeMembers M members).map Prod.fst).all (· ∈ headPoseKeys) = true
    · rw [if_neg (not_not.mpr all)]
      have fields : members.HasFields ["frame", "orientation"] ["position"] := by
        refine ⟨?_, known.mp all⟩
        rw [frame, orientation] at present
        simpa using present
      exact (and_iff_right fields).symm
    · rw [if_pos all]
      refine iff_of_false ?_ fun both => all (known.mpr both.1.known)
      rintro ⟨⟩
  · rw [if_pos present]
    refine iff_of_false ?_ fun both => present ?_
    · rintro ⟨⟩
    · rw [frame, orientation]
      exact ⟨both.1.present _ (by simp), both.1.present _ (by simp)⟩

theorem decodeHeadPose_iff {members : WireMembers} {payload : PosePayload M} :
    decodeHeadPose M (pyTreeMembers M members) = .ok payload ↔
      ∃ orientation position, IsPayload .headPose (.obj members) (.pose orientation position) ∧
        Turns M orientation ∧ Payload.Holds (.pose payload) (.pose orientation position) := by
  apply (ifPoseFields_iff members).trans
  constructor
  · rintro ⟨fields, decoded⟩
    obtain ⟨_, hasFrame⟩ := fields.get "frame" (by decide)
    obtain ⟨_, hasOrientation⟩ := fields.get "orientation" (by decide)
    rw [getItem_of_has hasFrame, getItem_of_has hasOrientation] at decoded
    obtain ⟨frame, isFrame, decoded⟩ := bind_eq_ok decoded
    obtain ⟨quaternion, isQuaternion, decoded⟩ := bind_eq_ok decoded
    obtain ⟨read, isRead, decoded⟩ := bind_eq_ok decoded
    cases decoded
    cases decodeFrame_iff.mp isFrame
    obtain ⟨orientation, isOrientation, turns, denotes⟩ := decodeQuaternion_iff.mp isQuaternion
    obtain ⟨position, isPosition, holds⟩ := decodePositionField_iff.mp isRead
    exact ⟨orientation, position,
      .headPose fields hasFrame hasOrientation isOrientation isPosition, turns,
      .pose denotes holds⟩
  · rintro ⟨orientation, position, isPayload, turns, holds⟩
    cases isPayload with
    | headPose fields isFrame isMember isOrientation isPosition =>
        refine ⟨fields, ?_⟩
        obtain ⟨frame, quaternion, read, frameExact⟩ := payload
        cases holds with
        | pose denotes holds =>
            have decoded := decodeQuaternion_iff.mpr ⟨orientation, isOrientation, turns, denotes⟩
            rw [getItem_of_has isFrame, getItem_of_has isMember,
              (@decodeFrame_iff _ _ _ ⟨frame, frameExact⟩).mpr rfl, decoded,
              decodePositionField_iff.mpr ⟨position, isPosition, holds⟩]
            rfl

/-- A payload is accepted as the acceptable one it denotes. -/
theorem decodePayload_iff {name : CommandName}
    {value : WireTree} {payload : Payload M} :
    decodePayload M name (pyTree M value) = .ok payload ↔
      ∃ wire, IsPayload name value wire ∧ wire.Acceptable M (Reading.python M) ∧
        payload.Holds wire := by
  cases value with
  | null | bool _ | num _ | str _ | arr _ =>
      refine iff_of_false ?_ ?_
      · rintro ⟨⟩
      · rintro ⟨_, ⟨⟩, _⟩
  | obj members =>
      cases name with
      | sessionStart =>
          apply map_eq_ok_iff.trans
          constructor
          · rintro ⟨payload, decoded, rfl⟩
            obtain ⟨fields, isMode, same⟩ := decodeSessionStart_iff.mp decoded
            exact ⟨_, .sessionStart fields isMode, trivial, .sessionStart same⟩
          · rintro ⟨_, isPayload, _, holds⟩
            cases isPayload with
            | sessionStart fields isMode =>
                cases holds with
                | sessionStart same =>
                    exact ⟨_, decodeSessionStart_iff.mpr ⟨fields, isMode, same⟩, rfl⟩
      | sessionStop =>
          apply map_eq_ok_iff.trans
          constructor
          · rintro ⟨_, decoded, rfl⟩
            exact ⟨_, .sessionStop (decodeEmptyPayload_iff.mp decoded), trivial, .empty⟩
          · rintro ⟨_, isPayload, _, holds⟩
            cases isPayload with
            | sessionStop fields =>
                cases holds
                exact ⟨(), decodeEmptyPayload_iff.mpr fields, rfl⟩
      | modeSet =>
          apply map_eq_ok_iff.trans
          constructor
          · rintro ⟨payload, decoded, rfl⟩
            obtain ⟨mode, fields, isMode, acceptable, same⟩ := decodeModeSet_iff.mp decoded
            exact ⟨_, .modeSet fields isMode, acceptable, .modeSet same⟩
          · rintro ⟨_, isPayload, acceptable, holds⟩
            cases isPayload with
            | modeSet fields isMode =>
                cases holds with
                | modeSet same =>
                    exact ⟨_, decodeModeSet_iff.mpr ⟨_, fields, isMode, acceptable, same⟩, rfl⟩
      | headPose =>
          apply map_eq_ok_iff.trans
          constructor
          · rintro ⟨payload, decoded, rfl⟩
            obtain ⟨_, _, isPayload, turns, holds⟩ := decodeHeadPose_iff.mp decoded
            cases holds with
            | pose denotes position =>
                exact ⟨_, isPayload, ⟨turns, position.acceptable⟩, .pose denotes position⟩
          · rintro ⟨_, isPayload, acceptable, holds⟩
            cases isPayload with
            | headPose fields isFrame isMember isOrientation isPosition =>
                cases holds with
                | pose denotes position =>
                    exact ⟨_, decodeHeadPose_iff.mpr ⟨_, _,
                      .headPose fields isFrame isMember isOrientation isPosition, acceptable.1,
                      .pose denotes position⟩, rfl⟩
      | headRecenter =>
          apply map_eq_ok_iff.trans
          constructor
          · rintro ⟨payload, decoded, rfl⟩
            obtain ⟨_, isPayload, turns, holds⟩ := decodeHeadRecenter_iff.mp decoded
            refine ⟨_, isPayload, ⟨turns, ?_⟩, holds⟩
            rintro _ ⟨⟩
          · rintro ⟨_, isPayload, acceptable, holds⟩
            cases isPayload with
            | headRecenter fields isFrame isMember isOrientation =>
                cases holds with
                | pose denotes position =>
                    exact ⟨_, decodeHeadRecenter_iff.mpr ⟨_,
                      .headRecenter fields isFrame isMember isOrientation, acceptable.1,
                      .pose denotes position⟩, rfl⟩
      | emergencyStop =>
          apply map_eq_ok_iff.trans
          constructor
          · rintro ⟨_, decoded, rfl⟩
            exact ⟨_, .emergencyStop (decodeEmptyPayload_iff.mp decoded), trivial, .empty⟩
          · rintro ⟨_, isPayload, _, holds⟩
            cases isPayload with
            | emergencyStop fields =>
                cases holds
                exact ⟨(), decodeEmptyPayload_iff.mpr fields, rfl⟩

/-! ## Commands -/

/-- What an envelope holds of the document. -/
structure CommandEnvelope.Holds (envelope : CommandEnvelope M) (command : WireCommand) : Prop where
  isCommand : envelope.command = command.command
  isSessionId : envelope.sessionId = ofChars command.sessionId
  isSequence : envelope.sequence = command.sequence.1.intValue
  isTimestamp : envelope.timestampMs = command.timestampMs.1.intValue
  isPayload : envelope.payload.Holds command.payload

omit [Field K] [LinearOrder K] in
theorem python_integer {literal : Literal} {minimum : ℤ} (isInteger : literal.1.isInteger = true)
    (inRange : InRange minimum literal.1.intValue) : Dialect.python.Integer minimum literal where
  isInteger
  sign := by rintro ⟨⟩
  above := inRange.1
  below := inRange.2

/-- The documents that `decode_command` accepts, and what it makes of them. -/
theorem decodeDocument_iff {tree : WireTree}
    {envelope : CommandEnvelope M} :
    decodeDocument M (pyTree M tree) = .ok envelope ↔
      ∃ command, IsCommand tree command ∧ command.Acceptable M (Reading.python M) ∧
        envelope.Holds command := by
  constructor
  · intro decoded
    cases tree with
    | null | bool _ | num _ | str _ | arr _ => cases decoded
    | obj members =>
        obtain ⟨header, isHeader, decoded⟩ := bind_eq_ok decoded
        obtain ⟨payload, isPayload, decoded⟩ := bind_eq_ok decoded
        cases decoded
        obtain ⟨fields, isHeader⟩ := (ifFields_iff M members
          ["schema_version", "command", "session_id", "sequence", "timestamp_ms", "payload"]).mp
          isHeader
        obtain ⟨_, hasVersion⟩ := fields.get "schema_version" (by decide)
        obtain ⟨_, hasCommand⟩ := fields.get "command" (by decide)
        obtain ⟨_, hasSessionId⟩ := fields.get "session_id" (by decide)
        obtain ⟨_, hasSequence⟩ := fields.get "sequence" (by decide)
        obtain ⟨_, hasTimestamp⟩ := fields.get "timestamp_ms" (by decide)
        obtain ⟨_, hasPayload⟩ := fields.get "payload" (by decide)
        rw [getItem_of_has hasVersion, getItem_of_has hasCommand, getItem_of_has hasSessionId,
          getItem_of_has hasSequence, getItem_of_has hasTimestamp] at isHeader
        rw [getItem_of_has hasPayload] at isPayload
        obtain ⟨_, isVersion, isHeader⟩ := bind_eq_ok isHeader
        obtain ⟨name, isName, isHeader⟩ := bind_eq_ok isHeader
        obtain ⟨sessionId, isSession, isHeader⟩ := bind_eq_ok isHeader
        obtain ⟨sequence, isSequence, isHeader⟩ := bind_eq_ok isHeader
        obtain ⟨timestampMs, isTimestamp, isHeader⟩ := bind_eq_ok isHeader
        cases isHeader
        cases decodeSchemaVersion_iff.mp isVersion
        cases decodeCommandName_iff.mp isName
        obtain ⟨chars, rfl, sameSession⟩ := validateSessionId_iff.mp isSession
        obtain ⟨first, rfl, integerFirst, sameFirst⟩ := validateIntField_iff.mp isSequence
        obtain ⟨second, rfl, integerSecond, sameSecond⟩ := validateIntField_iff.mp isTimestamp
        obtain ⟨wire, isWire, acceptable, holds⟩ := decodePayload_iff.mp isPayload
        refine ⟨⟨name, chars, first, second, wire⟩, .obj fields hasVersion hasCommand hasSessionId
          hasSequence hasTimestamp hasPayload isWire, ?_, ⟨rfl, sameSession, sameFirst, sameSecond,
          holds⟩⟩
        have nonempty := sessionId.2.1
        have visible := sessionId.2.2
        rw [sameSession] at nonempty visible
        exact {
          nonempty := fun empty => nonempty (congrArg ofChars empty)
          visible
          sequence := python_integer integerFirst (sameFirst ▸ sequence.2)
          timestampMs := python_integer integerSecond (sameSecond ▸ timestampMs.2)
          payload := acceptable }
  · rintro ⟨command, isCommand, acceptable, holds⟩
    obtain ⟨version, name, session, sequence, timestampMs, payload, versionExact, nonempty,
      positive, nonnegative⟩ := envelope
    obtain ⟨rfl, rfl, rfl, rfl, holds⟩ := holds
    cases versionExact
    obtain @⟨members, _, _, fields, hasVersion, hasCommand, hasSessionId, hasSequence, hasTimestamp,
      hasPayload, isWire⟩ := isCommand
    have readHeader : decodeHeader (pyTreeMembers M members) = .ok ⟨command.command,
        ofChars command.sessionId, command.sequence.1.intValue, command.timestampMs.1.intValue,
        nonempty, acceptable.visible, acceptable.sequence.above, acceptable.sequence.below,
        acceptable.timestampMs.above, acceptable.timestampMs.below⟩ := by
      refine (ifFields_iff M members ["schema_version", "command", "session_id", "sequence",
        "timestamp_ms", "payload"]).mpr ⟨fields, ?_⟩
      rw [getItem_of_has hasVersion, getItem_of_has hasCommand, getItem_of_has hasSessionId,
        getItem_of_has hasSequence, getItem_of_has hasTimestamp, decodeSchemaVersion_iff.mpr rfl,
        decodeCommandName_iff.mpr rfl,
        (@validateSessionId_iff _ M _ ⟨_, nonempty, acceptable.visible⟩).mpr ⟨_, rfl, rfl⟩,
        (@validateIntField_iff _ M _ "sequence" 1
          ⟨_, acceptable.sequence.above, acceptable.sequence.below⟩).mpr
          ⟨_, rfl, acceptable.sequence.isInteger, rfl⟩,
        (@validateIntField_iff _ M _ "timestamp_ms" 0
          ⟨_, acceptable.timestampMs.above, acceptable.timestampMs.below⟩).mpr
          ⟨_, rfl, acceptable.timestampMs.isInteger, rfl⟩]
      rfl
    change (decodeHeader (pyTreeMembers M members) >>= _) = _
    rw [readHeader]
    have readPayload := decodePayload_iff.mpr ⟨_, isWire, acceptable.payload, holds⟩
    rw [← getItem_of_has hasPayload] at readPayload
    change (decodePayload M command.command _ >>= _) = _
    rw [readPayload]
    rfl

/-- Every acceptable payload has a value that holds it. -/
theorem Payload.exists_holds {wire : WirePayload}
    (acceptable : wire.Acceptable M (Reading.python M)) :
    ∃ payload : Payload M, payload.Holds wire := by
  cases wire with
  | sessionStart => exact ⟨.sessionStart ⟨py "head", by decide⟩, .sessionStart rfl⟩
  | mode mode =>
      have nonempty : ofChars mode ≠ [] := fun empty => acceptable.1 (List.map_eq_nil_iff.mp empty)
      exact ⟨.modeSet ⟨ofChars mode, nonempty⟩, .modeSet rfl⟩
  | empty => exact ⟨.empty, .empty⟩
  | pose orientation position =>
      obtain ⟨⟨x, y, z, w, denotes, _, normFinite, normPositive⟩, isPosition⟩ := acceptable
      let quaternion : Quaternion M := ⟨x, y, z, w, normFinite, normPositive⟩
      cases position with
      | none =>
          exact ⟨.pose ⟨questLocalFrame, quaternion, none, rfl⟩, .pose denotes .none⟩
      | some position =>
          obtain ⟨a, b, c, positionDenotes⟩ := isPosition position rfl
          exact ⟨.pose ⟨questLocalFrame, quaternion, some ⟨a, b, c⟩, rfl⟩,
            .pose denotes (.some positionDenotes)⟩

theorem exists_decodeDocument_iff {tree : WireTree} :
    (∃ envelope, decodeDocument M (pyTree M tree) = .ok envelope) ↔
      ∃ command, IsCommand tree command ∧ command.Acceptable M (Reading.python M) := by
  constructor
  · rintro ⟨envelope, decoded⟩
    obtain ⟨command, isCommand, acceptable, _⟩ := decodeDocument_iff.mp decoded
    exact ⟨command, isCommand, acceptable⟩
  · rintro ⟨command, isCommand, acceptable⟩
    obtain ⟨payload, holds⟩ := Payload.exists_holds acceptable.payload
    have nonempty : ofChars command.sessionId ≠ [] :=
      fun empty => acceptable.nonempty (List.map_eq_nil_iff.mp empty)
    let envelope : CommandEnvelope M := ⟨schemaVersion, command.command, ofChars command.sessionId,
      command.sequence.1.intValue, command.timestampMs.1.intValue, payload, rfl, nonempty,
      acceptable.sequence.above, acceptable.timestampMs.above⟩
    exact ⟨envelope, decodeDocument_iff.mpr
      ⟨command, isCommand, acceptable, rfl, rfl, rfl, rfl, holds⟩⟩

end ValeraControlTower

import ValeraControlTower.Unity.FieldReading

/-!
# The documents `DecodeCommand` accepts

On a document of texts and literals, the checks behind `Parse` accept exactly the
acceptable commands of the contract.
-/

namespace ValeraControlTower.Unity

open Unicode Json CsString

namespace WireCodec

variable {K : Type} {M : FloatMath K}

/-- The number a component holds of the document. -/
def HoldsNumber (M : FloatMath K) : CsDouble M → Literal → Prop
  | .finite value, literal => M.ofRat literal.1.value = some value.1
  | .infinity _, _ | .nan, _ => False

/-- What an orientation that was read holds of the document. -/
structure HoldsOrientation (dto : QuaternionDto M) (orientation : WireOrientation) : Prop where
  isX : HoldsNumber M dto.x orientation.x
  isY : HoldsNumber M dto.y orientation.y
  isZ : HoldsNumber M dto.z orientation.z
  isW : HoldsNumber M dto.w orientation.w

structure HoldsPosition (dto : PositionDto M) (position : WirePosition) : Prop where
  isX : HoldsNumber M dto.x position.x
  isY : HoldsNumber M dto.y position.y
  isZ : HoldsNumber M dto.z position.z

theorem holdsNumber_iff {dto : CsDouble M} {literal : Literal} :
    HoldsNumber M dto literal ↔
      ∃ value : FiniteDouble M, dto = .finite value ∧ M.ofRat literal.1.value = some value.1 := by
  cases dto with
  | finite value =>
      constructor
      · intro holds
        exact ⟨value, rfl, holds⟩
      · rintro ⟨_, ⟨⟩, holds⟩
        exact holds
  | infinity _ | nan =>
      apply iff_of_false id
      rintro ⟨_, ⟨⟩, _⟩

/-! ## Orientation and position -/

theorem decodePosition_iff {value : WireTree} {dto : PositionDto M} :
    decodePosition M (csTree value) = .ok dto ↔
      ∃ position, IsPosition value position ∧ HoldsPosition dto position := by
  constructor
  · intro decoded
    obtain ⟨_, _, decoded⟩ := bind_eq_ok decoded
    obtain ⟨_, checked, decoded⟩ := bind_eq_ok decoded
    obtain ⟨members, rfl⟩ := requireExactFields_obj checked
    obtain ⟨x, readX, decoded⟩ := bind_eq_ok decoded
    obtain ⟨y, readY, decoded⟩ := bind_eq_ok decoded
    obtain ⟨z, readZ, decoded⟩ := bind_eq_ok decoded
    cases decoded
    obtain ⟨_, hasX, isX⟩ := requireFiniteNumber_iff.mp readX
    obtain ⟨_, hasY, isY⟩ := requireFiniteNumber_iff.mp readY
    obtain ⟨_, hasZ, isZ⟩ := requireFiniteNumber_iff.mp readZ
    exact ⟨_, .obj (requireExactFields_iff.mp checked) hasX hasY hasZ, isX, isY, isZ⟩
  · rintro ⟨_, ⟨fields, hasX, hasY, hasZ⟩, isX, isY, isZ⟩
    obtain ⟨x, y, z⟩ := dto
    obtain ⟨x, rfl, isX⟩ := holdsNumber_iff.mp isX
    obtain ⟨y, rfl, isY⟩ := holdsNumber_iff.mp isY
    obtain ⟨z, rfl, isZ⟩ := holdsNumber_iff.mp isZ
    unfold decodePosition
    rw [requireExactFields_iff.mpr fields, requireFiniteNumber_iff.mpr ⟨_, hasX, isX⟩,
      requireFiniteNumber_iff.mpr ⟨_, hasY, isY⟩, requireFiniteNumber_iff.mpr ⟨_, hasZ, isZ⟩]
    rfl

/-- The checks of a position are those that decode it. -/
theorem validatePosition_iff {value : JsonValue} :
    validatePosition M value = .ok () ↔ ∃ dto, decodePosition M value = .ok dto := by
  constructor
  · intro validated
    obtain ⟨_, checked, validated⟩ := bind_eq_ok validated
    obtain ⟨x, readX, validated⟩ := bind_eq_ok validated
    obtain ⟨y, readY, validated⟩ := bind_eq_ok validated
    obtain ⟨z, readZ, _⟩ := bind_eq_ok validated
    refine ⟨⟨.finite x, .finite y, .finite z⟩, ?_⟩
    unfold decodePosition
    rw [checked, readX, readY, readZ]
    cases value with
    | null | bool _ | num _ | str _ | arr _ => cases checked
    | obj members => rfl
  · rintro ⟨dto, decoded⟩
    obtain ⟨_, _, decoded⟩ := bind_eq_ok decoded
    obtain ⟨_, checked, decoded⟩ := bind_eq_ok decoded
    obtain ⟨x, readX, decoded⟩ := bind_eq_ok decoded
    obtain ⟨y, readY, decoded⟩ := bind_eq_ok decoded
    obtain ⟨z, readZ, _⟩ := bind_eq_ok decoded
    unfold validatePosition
    rw [checked, readX, readY, readZ]
    rfl

variable [Field K] [LinearOrder K]

/-- The checks of an orientation are those that decode it. -/
theorem validateOrientation_iff {value : JsonValue} :
    validateOrientation M value = .ok () ↔ ∃ dto, decodeOrientation M value = .ok dto := by
  constructor
  · intro validated
    obtain ⟨_, checked, validated⟩ := bind_eq_ok validated
    obtain ⟨x, readX, validated⟩ := bind_eq_ok validated
    obtain ⟨y, readY, validated⟩ := bind_eq_ok validated
    obtain ⟨z, readZ, validated⟩ := bind_eq_ok validated
    obtain ⟨w, readW, squared⟩ := bind_eq_ok validated
    refine ⟨⟨.finite x, .finite y, .finite z, .finite w⟩, ?_⟩
    unfold decodeOrientation
    rw [checked, readX, readY, readZ, readW]
    change (checkSquared M (squaredLength M x y z w) >>= _) = _
    rw [squared]
    rfl
  · rintro ⟨dto, decoded⟩
    obtain ⟨_, checked, decoded⟩ := bind_eq_ok decoded
    obtain ⟨x, readX, decoded⟩ := bind_eq_ok decoded
    obtain ⟨y, readY, decoded⟩ := bind_eq_ok decoded
    obtain ⟨z, readZ, decoded⟩ := bind_eq_ok decoded
    obtain ⟨w, readW, decoded⟩ := bind_eq_ok decoded
    obtain ⟨_, squared, _⟩ := bind_eq_ok decoded
    unfold validateOrientation
    rw [checked, readX, readY, readZ, readW]
    exact squared

/-- The orientations whose squared length passes. -/
def Turns (M : FloatMath K) (orientation : WireOrientation) : Prop :=
  ∃ x y z w, orientation.Denotes M x y z w ∧
    checkSquared M (x * x + y * y + z * z + w * w) = .ok ()

/-- C#'s reading. -/
def Reading.unity (M : FloatMath K) : Reading where
  toDialect := Dialect.unity
  turns := Turns M

/-- In exact arithmetic an orientation passes if it is acceptable. -/
theorem turns_iff (exact : M.Exact) {orientation : WireOrientation} :
    Turns M orientation ↔ orientation.Acceptable M := by
  have passes (squared : K) : checkSquared M squared = .ok () ↔ 1 / 10 ^ 24 < squared := by
    unfold checkSquared
    rw [exact.isfinite, Bool.not_true, Bool.false_or]
    by_cases small : squared ≤ 1 / 10 ^ 24
    · rw [if_pos (decide_eq_true small)]
      refine iff_of_false ?_ (not_lt.mpr small)
      rintro ⟨⟩
    · rw [if_neg (by simpa using small)]
      exact iff_of_true rfl (not_le.mp small)
  unfold Turns WireOrientation.Acceptable
  simp only [passes]

theorem decodeOrientation_iff {value : WireTree} {dto : QuaternionDto M} :
    decodeOrientation M (csTree value) = .ok dto ↔
      ∃ orientation, IsOrientation value orientation ∧ Turns M orientation ∧
        HoldsOrientation dto orientation := by
  constructor
  · intro decoded
    obtain ⟨_, checked, decoded⟩ := bind_eq_ok decoded
    obtain ⟨members, rfl⟩ := requireExactFields_obj checked
    obtain ⟨x, readX, decoded⟩ := bind_eq_ok decoded
    obtain ⟨y, readY, decoded⟩ := bind_eq_ok decoded
    obtain ⟨z, readZ, decoded⟩ := bind_eq_ok decoded
    obtain ⟨w, readW, decoded⟩ := bind_eq_ok decoded
    obtain ⟨_, squared, decoded⟩ := bind_eq_ok decoded
    cases decoded
    obtain ⟨_, hasX, isX⟩ := requireFiniteNumber_iff.mp readX
    obtain ⟨_, hasY, isY⟩ := requireFiniteNumber_iff.mp readY
    obtain ⟨_, hasZ, isZ⟩ := requireFiniteNumber_iff.mp readZ
    obtain ⟨_, hasW, isW⟩ := requireFiniteNumber_iff.mp readW
    exact ⟨_, .obj (requireExactFields_iff.mp checked) hasX hasY hasZ hasW,
      ⟨_, _, _, _, ⟨isX, isY, isZ, isW⟩, squared⟩, isX, isY, isZ, isW⟩
  · rintro ⟨_, ⟨fields, hasX, hasY, hasZ, hasW⟩, ⟨a, b, c, d, ⟨isA, isB, isC, isD⟩, bounded⟩,
      isX, isY, isZ, isW⟩
    obtain ⟨x, y, z, w⟩ := dto
    obtain ⟨x, rfl, isX⟩ := holdsNumber_iff.mp isX
    obtain ⟨y, rfl, isY⟩ := holdsNumber_iff.mp isY
    obtain ⟨z, rfl, isZ⟩ := holdsNumber_iff.mp isZ
    obtain ⟨w, rfl, isW⟩ := holdsNumber_iff.mp isW
    cases isA.symm.trans isX
    cases isB.symm.trans isY
    cases isC.symm.trans isZ
    cases isD.symm.trans isW
    have squared : checkSquared M (squaredLength M x y z w) = .ok () :=
      bounded
    unfold decodeOrientation
    rw [requireExactFields_iff.mpr fields, requireFiniteNumber_iff.mpr ⟨_, hasX, isX⟩,
      requireFiniteNumber_iff.mpr ⟨_, hasY, isY⟩, requireFiniteNumber_iff.mpr ⟨_, hasZ, isZ⟩,
      requireFiniteNumber_iff.mpr ⟨_, hasW, isW⟩]
    change (checkSquared M (squaredLength M x y z w) >>= _) = _
    rw [squared]
    rfl

theorem exists_holdsOrientation {orientation : WireOrientation}
    (acceptable : Turns M orientation) :
    ∃ dto : QuaternionDto M, HoldsOrientation dto orientation := by
  obtain ⟨x, y, z, w, ⟨isX, isY, isZ, isW⟩, _⟩ := acceptable
  exact ⟨⟨.finite ⟨x, _, isX⟩, .finite ⟨y, _, isY⟩, .finite ⟨z, _, isZ⟩, .finite ⟨w, _, isW⟩⟩,
    isX, isY, isZ, isW⟩

omit [Field K] [LinearOrder K] in
theorem exists_holdsPosition {position : WirePosition} (acceptable : position.Acceptable M) :
    ∃ dto : PositionDto M, HoldsPosition dto position := by
  obtain ⟨x, y, z, isX, isY, isZ⟩ := acceptable
  exact ⟨⟨.finite ⟨x, _, isX⟩, .finite ⟨y, _, isY⟩, .finite ⟨z, _, isZ⟩⟩, isX, isY, isZ⟩

/-- Some object is read from an orientation if it is acceptable. -/
theorem exists_decodeOrientation_iff {value : WireTree} :
    (∃ dto, decodeOrientation M (csTree value) = .ok dto) ↔
      ∃ orientation, IsOrientation value orientation ∧ Turns M orientation := by
  constructor
  · rintro ⟨dto, decoded⟩
    obtain ⟨orientation, isOrientation, acceptable, _⟩ := decodeOrientation_iff.mp decoded
    exact ⟨orientation, isOrientation, acceptable⟩
  · rintro ⟨orientation, isOrientation, acceptable⟩
    obtain ⟨dto, holds⟩ := exists_holdsOrientation acceptable
    exact ⟨dto, decodeOrientation_iff.mpr ⟨orientation, isOrientation, acceptable, holds⟩⟩

omit [Field K] [LinearOrder K] in
theorem exists_decodePosition_iff {value : WireTree} :
    (∃ dto, decodePosition M (csTree value) = .ok dto) ↔
      ∃ position, IsPosition value position ∧ position.Acceptable M := by
  constructor
  · rintro ⟨⟨x, y, z⟩, decoded⟩
    obtain ⟨position, isPosition, isX, isY, isZ⟩ := decodePosition_iff.mp decoded
    obtain ⟨x, rfl, isX⟩ := holdsNumber_iff.mp isX
    obtain ⟨y, rfl, isY⟩ := holdsNumber_iff.mp isY
    obtain ⟨z, rfl, isZ⟩ := holdsNumber_iff.mp isZ
    exact ⟨position, isPosition, x.1, y.1, z.1, isX, isY, isZ⟩
  · rintro ⟨position, isPosition, acceptable⟩
    obtain ⟨dto, holds⟩ := exists_holdsPosition acceptable
    exact ⟨dto, decodePosition_iff.mpr ⟨position, isPosition, holds⟩⟩

/-- What an optional position that was read holds of the document. -/
inductive HoldsOptional : Option (PositionDto M) → Option WirePosition → Prop where
  | none : HoldsOptional none none
  | some {dto : PositionDto M} {position : WirePosition} (holds : HoldsPosition dto position) :
      HoldsOptional (some dto) (some position)

section Position

omit [Field K] [LinearOrder K]

theorem exists_holdsOptional {position : Option WirePosition}
    (acceptable : ∀ value, position = some value → value.Acceptable M) :
    ∃ dto : Option (PositionDto M), HoldsOptional dto position := by
  cases position with
  | none => exact ⟨none, .none⟩
  | some position =>
      obtain ⟨dto, holds⟩ := exists_holdsPosition (acceptable position rfl)
      exact ⟨some dto, .some holds⟩

/-- The position that is looked at, if one is. -/
theorem presentPosition_cases (members : WireMembers) :
    (presentPosition (csTree (.obj members)) = none ∧ IsOptionalPosition members none) ∨
      ∃ value, presentPosition (csTree (.obj members)) = some (csTree value) ∧
        members.Has "position" value ∧ value ≠ .null := by
  have found := Tree.lookup_mapMembers utf16 (fun literal : Literal => numberText literal.1)
    utf16_injective members "position".toList
  change (csTreeMembers members).lookup (cs "position") = _ at found
  rw [show csTree (.obj members) = .obj (csTreeMembers members) from rfl]
  unfold presentPosition
  dsimp only
  rw [found]
  cases same : members.lookup "position".toList with
  | none => exact .inl ⟨rfl, .absent same⟩
  | some value =>
      cases value with
      | null => exact .inl ⟨rfl, .null same⟩
      | bool _ | num _ | str _ | arr _ | obj _ =>
          refine .inr ⟨_, rfl, same, ?_⟩
          rintro ⟨⟩

theorem isOptionalPosition_iff {members : WireMembers} {value : WireTree}
    {position : Option WirePosition} (has : members.Has "position" value)
    (notNull : value ≠ .null) :
    IsOptionalPosition members position ↔
      ∃ present, position = some present ∧ IsPosition value present := by
  constructor
  · intro isPosition
    cases isPosition with
    | absent absent => cases absent.symm.trans has
    | null isNull => exact absurd (has.unique isNull) notNull
    | present isMember isPosition =>
        cases isMember.unique has
        exact ⟨_, rfl, isPosition⟩
  · rintro ⟨present, rfl, isPosition⟩
    exact .present has isPosition

theorem decodePresentPosition_iff {members : WireMembers} {dto : Option (PositionDto M)} :
    decodePresentPosition M (presentPosition (csTree (.obj members))) = .ok dto ↔
      ∃ position, IsOptionalPosition members position ∧ HoldsOptional dto position := by
  rcases presentPosition_cases members with ⟨absent, isNone⟩ | ⟨value, present, has, notNull⟩
  · rw [absent]
    constructor
    · rintro ⟨⟩
      exact ⟨none, isNone, .none⟩
    · rintro ⟨_, isPosition, holds⟩
      cases isPosition.unique isNone
      cases holds
      rfl
  · rw [present]
    simp only [isOptionalPosition_iff has notNull]
    constructor
    · intro decoded
      change some <$> decodePosition M (csTree value) = _ at decoded
      cases read : decodePosition M (csTree value) with
      | error exception =>
          rw [read] at decoded
          cases decoded
      | ok read' =>
          rw [read] at decoded
          cases decoded
          obtain ⟨position, isPosition, holds⟩ := decodePosition_iff.mp read
          exact ⟨some position, ⟨position, rfl, isPosition⟩, .some holds⟩
    · rintro ⟨_, ⟨position, rfl, isPosition⟩, holds⟩
      cases holds with
      | some holds =>
          change some <$> decodePosition M (csTree value) = _
          rw [decodePosition_iff.mpr ⟨position, isPosition, holds⟩]
          rfl

theorem validatePresentPosition_iff {members : WireMembers} :
    validatePresentPosition M (presentPosition (csTree (.obj members))) = .ok () ↔
      ∃ position, IsOptionalPosition members position ∧
        ∀ value, position = some value → value.Acceptable M := by
  rcases presentPosition_cases members with ⟨absent, isNone⟩ | ⟨value, present, has, notNull⟩
  · rw [absent]
    refine iff_of_true rfl ⟨none, isNone, ?_⟩
    rintro _ ⟨⟩
  · rw [present]
    simp only [isOptionalPosition_iff has notNull]
    change validatePosition M (csTree value) = .ok () ↔ _
    rw [validatePosition_iff, exists_decodePosition_iff]
    constructor
    · rintro ⟨position, isPosition, acceptable⟩
      refine ⟨_, ⟨position, rfl, isPosition⟩, ?_⟩
      rintro _ ⟨⟩
      exact acceptable
    · rintro ⟨_, ⟨position, rfl, isPosition⟩, acceptable⟩
      exact ⟨position, isPosition, acceptable _ rfl⟩

end Position

/-! ## Payloads -/

theorem requireObject_obj (members : WireMembers) (context : String) :
    requireObject (csTree (.obj members)) context = .ok () := rfl

theorem requireObject_payload {name : CommandName} {value : WireTree} {wire : WirePayload}
    (isPayload : IsPayload name value wire) (context : String) :
    requireObject (csTree value) context = .ok () := by
  cases isPayload <;> rfl

/-- The checks of a pose up to its position. -/
theorem validatePose_iff {value : WireTree} {optional : List String}
    {remaining : Except CsException Unit} :
    (do
      requireExactFields (csTree value) ["frame", "orientation"] optional
      let _ ← requireString (csTree value) "frame" (some (cs "quest_local"))
      validateOrientation M (← requireMember (csTree value) "orientation")
      remaining) = .ok () ↔
      ∃ (members : WireMembers) (part : WireTree) (orientation : WireOrientation),
        value = .obj members ∧
        members.HasFields ["frame", "orientation"] optional ∧
        members.Has "frame" (.str "quest_local".toList) ∧ members.Has "orientation" part ∧
        IsOrientation part orientation ∧ Turns M orientation ∧ remaining = .ok () := by
  constructor
  · intro validated
    obtain ⟨_, checked, validated⟩ := bind_eq_ok validated
    obtain ⟨members, rfl⟩ := requireExactFields_obj checked
    obtain ⟨_, isFrame, validated⟩ := bind_eq_ok validated
    obtain ⟨_, found, validated⟩ := bind_eq_ok validated
    obtain ⟨part, isMember, rfl⟩ := requireMember_iff.mp found
    obtain ⟨_, accepted, validated⟩ := bind_eq_ok validated
    obtain ⟨orientation, isOrientation, acceptable⟩ :=
      exists_decodeOrientation_iff.mp (validateOrientation_iff.mp accepted)
    exact ⟨members, part, orientation, rfl, requireExactFields_iff.mp checked,
      (requireLiteral_iff.mp isFrame).1, isMember, isOrientation, acceptable, validated⟩
  · rintro ⟨members, part, orientation, rfl, fields, isFrame, isMember, isOrientation, acceptable,
      remains⟩
    have accepted := validateOrientation_iff.mpr
      (exists_decodeOrientation_iff.mpr ⟨orientation, isOrientation, acceptable⟩)
    rw [requireExactFields_iff.mpr fields, requireLiteral_iff.mpr ⟨isFrame, rfl⟩,
      requireMember_of_has isMember]
    change (validateOrientation M (csTree part) >>= _) = _
    rw [accepted]
    exact remains

/-- The payloads that `ValidateCommandPayload` lets pass. -/
theorem validateCommandPayload_iff {name : CommandName} {value : WireTree} :
    validateCommandPayload M (cs name.wire) (csTree value) = .ok () ↔
      ∃ wire, IsPayload name value wire ∧ wire.Acceptable M (Reading.unity M) := by
  unfold validateCommandPayload
  cases name with
  | sessionStart =>
      rw [if_pos (by decide)]
      constructor
      · intro validated
        obtain ⟨_, checked, validated⟩ := bind_eq_ok validated
        obtain ⟨members, rfl⟩ := requireExactFields_obj checked
        obtain ⟨_, isMode, _⟩ := bind_eq_ok validated
        exact ⟨_, .sessionStart (requireExactFields_iff.mp checked)
          (requireLiteral_iff.mp isMode).1,
          trivial⟩
      · rintro ⟨_, isPayload, _⟩
        cases isPayload with
        | sessionStart fields isMode =>
            rw [requireExactFields_iff.mpr fields, requireLiteral_iff.mpr ⟨isMode, rfl⟩]
            rfl
  | modeSet =>
      rw [if_neg (by decide), if_pos (by decide)]
      constructor
      · intro validated
        obtain ⟨_, checked, validated⟩ := bind_eq_ok validated
        obtain ⟨members, rfl⟩ := requireExactFields_obj checked
        obtain ⟨mode, isMode, acceptable⟩ := requireModeStringFromJson_iff.mp validated
        exact ⟨_, .modeSet (requireExactFields_iff.mp checked) isMode, acceptable⟩
      · rintro ⟨_, isPayload, acceptable⟩
        cases isPayload with
        | modeSet fields isMode =>
            rw [requireExactFields_iff.mpr fields]
            exact requireModeStringFromJson_iff.mpr ⟨_, isMode, acceptable⟩
  | sessionStop =>
      rw [if_neg (by decide), if_neg (by decide), if_pos (by decide)]
      constructor
      · intro checked
        obtain ⟨members, rfl⟩ := requireExactFields_obj checked
        exact ⟨_, .sessionStop (requireExactFields_iff.mp checked), trivial⟩
      · rintro ⟨_, isPayload, _⟩
        cases isPayload with
        | sessionStop fields => exact requireExactFields_iff.mpr fields
  | emergencyStop =>
      rw [if_neg (by decide), if_neg (by decide), if_pos (by decide)]
      constructor
      · intro checked
        obtain ⟨members, rfl⟩ := requireExactFields_obj checked
        exact ⟨_, .emergencyStop (requireExactFields_iff.mp checked), trivial⟩
      · rintro ⟨_, isPayload, _⟩
        cases isPayload with
        | emergencyStop fields => exact requireExactFields_iff.mpr fields
  | headPose =>
      rw [if_neg (by decide), if_neg (by decide), if_neg (by decide)]
      dsimp only
      rw [decide_eq_true (by decide), if_pos rfl, if_pos rfl, validatePose_iff]
      constructor
      · rintro ⟨members, part, orientation, rfl, fields, isFrame, isMember, isOrientation,
          acceptable, validated⟩
        obtain ⟨position, isPosition, positionAcceptable⟩ :=
          validatePresentPosition_iff.mp validated
        exact ⟨_, .headPose fields isFrame isMember isOrientation isPosition, acceptable,
          positionAcceptable⟩
      · rintro ⟨_, isPayload, acceptable⟩
        cases isPayload with
        | headPose fields isFrame isMember isOrientation isPosition =>
            exact ⟨_, _, _, rfl, fields, isFrame, isMember, isOrientation, acceptable.1,
              validatePresentPosition_iff.mpr ⟨_, isPosition, acceptable.2⟩⟩
  | headRecenter =>
      rw [if_neg (by decide), if_neg (by decide), if_neg (by decide)]
      dsimp only
      rw [decide_eq_false (by decide), if_neg Bool.false_ne_true, if_neg Bool.false_ne_true,
        validatePose_iff]
      constructor
      · rintro ⟨members, part, orientation, rfl, fields, isFrame, isMember, isOrientation,
          acceptable, _⟩
        refine ⟨_, .headRecenter fields isFrame isMember isOrientation, acceptable, ?_⟩
        rintro _ ⟨⟩
      · rintro ⟨_, isPayload, acceptable⟩
        cases isPayload with
        | headRecenter fields isFrame isMember isOrientation =>
            exact ⟨_, _, _, rfl, fields, isFrame, isMember, isOrientation, acceptable.1, rfl⟩

/-- A pose that was decoded holds the orientation, and the position that is looked at. -/
theorem decodePosePayload_iff {members : WireMembers} {allowPosition : Bool}
    {dto : HeadPosePayloadDto M} :
    decodePosePayload M (csTree (.obj members)) allowPosition = .ok dto ↔
      members.Has "frame" (.str "quest_local".toList) ∧
        ∃ part orientation read position, members.Has "orientation" part ∧
          IsOrientation part orientation ∧ Turns M orientation ∧
          HoldsOrientation read orientation ∧
          decodePresentPosition M (if allowPosition then
            presentPosition (csTree (.obj members)) else none) = .ok position ∧
          dto = ⟨some (cs "quest_local"), some read, position⟩ := by
  constructor
  · intro decoded
    obtain ⟨_, isFrame, decoded⟩ := bind_eq_ok decoded
    obtain ⟨_, found, decoded⟩ := bind_eq_ok decoded
    obtain ⟨part, isMember, rfl⟩ := requireMember_iff.mp found
    obtain ⟨read, isRead, decoded⟩ := bind_eq_ok decoded
    obtain ⟨position, isPosition, decoded⟩ := bind_eq_ok decoded
    cases decoded
    obtain ⟨orientation, isOrientation, acceptable, holds⟩ :=
      decodeOrientation_iff.mp isRead
    exact ⟨(requireLiteral_iff.mp isFrame).1, part, orientation, read, position, isMember,
      isOrientation, acceptable, holds, isPosition, rfl⟩
  · rintro ⟨isFrame, part, orientation, read, position, isMember, isOrientation, acceptable, holds,
      isPosition, rfl⟩
    unfold decodePosePayload
    rw [requireLiteral_iff.mpr ⟨isFrame, rfl⟩, requireMember_of_has isMember, isPosition]
    change (decodeOrientation M (csTree part) >>= _) = _
    rw [decodeOrientation_iff.mpr ⟨orientation, isOrientation, acceptable, holds⟩]
    rfl

/-- The object of a command with the given header, and what it holds of the payload. -/
inductive Made (header : Header) : CommandDto M → CommandName → WirePayload → Prop where
  | sessionStart :
      Made header (.sessionStart (header.fields ⟨some (cs "head")⟩)) .sessionStart .sessionStart
  | sessionStop : Made header (.sessionStop (header.fields ⟨⟩)) .sessionStop .empty
  | emergencyStop : Made header (.emergencyStop (header.fields ⟨⟩)) .emergencyStop .empty
  | modeSet {mode : List Char} :
      Made header (.modeSet (header.fields ⟨some (utf16 mode)⟩)) .modeSet (.mode mode)
  | headPose {read : QuaternionDto M} {orientation : WireOrientation}
      {dto : Option (PositionDto M)} {position : Option WirePosition}
      (isOrientation : HoldsOrientation read orientation)
      (isPosition : HoldsOptional dto position) :
      Made header (.headPose (header.fields ⟨some (cs "quest_local"), some read, dto⟩)) .headPose
        (.pose orientation position)
  | headRecenter {read : QuaternionDto M} {orientation : WireOrientation}
      (isOrientation : HoldsOrientation read orientation) :
      Made header (.headRecenter (header.fields ⟨some (cs "quest_local"), some read⟩))
        .headRecenter (.pose orientation none)

/-- The object made from a payload that has passed. -/
theorem decodePayload_iff {name : CommandName} {value : WireTree}
    {wire : WirePayload} (isPayload : IsPayload name value wire)
    (acceptable : wire.Acceptable M (Reading.unity M)) {header : Header}
    (isName : header.command = cs name.wire) {dto : CommandDto M} :
    decodePayload M header (csTree value) = .ok dto ↔ Made header dto name wire := by
  unfold decodePayload
  rw [isName]
  cases isPayload with
  | sessionStart fields isMode =>
      rw [if_pos (by decide), requireLiteral_iff.mpr ⟨isMode, rfl⟩]
      constructor
      · rintro ⟨⟩
        exact .sessionStart
      · rintro ⟨⟩
        rfl
  | sessionStop fields =>
      rw [if_neg (by decide), if_pos (by decide)]
      constructor
      · rintro ⟨⟩
        exact .sessionStop
      · rintro ⟨⟩
        rfl
  | emergencyStop fields =>
      rw [if_neg (by decide), if_neg (by decide), if_pos (by decide)]
      constructor
      · rintro ⟨⟩
        exact .emergencyStop
      · rintro ⟨⟩
        rfl
  | modeSet fields isMode =>
      rw [if_neg (by decide), if_neg (by decide), if_neg (by decide), if_pos (by decide),
        requireText_iff.mpr ⟨_, isMode, rfl⟩]
      constructor
      · rintro ⟨⟩
        exact .modeSet
      · rintro ⟨⟩
        rfl
  | headPose fields isFrame isMember isOrientation isPosition =>
      rw [if_neg (by decide), if_neg (by decide), if_neg (by decide), if_neg (by decide),
        if_pos (by decide)]
      constructor
      · intro decoded
        obtain ⟨pose, isPose, decoded⟩ := bind_eq_ok decoded
        cases decoded
        obtain ⟨_, part, orientation, read, position, isMember', isOrientation', _, holds,
          isRead, rfl⟩ := decodePosePayload_iff.mp isPose
        cases isMember.unique isMember'
        cases isOrientation.unique isOrientation'
        obtain ⟨_, isPosition', holdsPosition⟩ := decodePresentPosition_iff.mp isRead
        cases isPosition.unique isPosition'
        exact .headPose holds holdsPosition
      · intro made
        cases made with
        | headPose holds holdsPosition =>
            have isRead := decodePresentPosition_iff.mpr ⟨_, isPosition, holdsPosition⟩
            rw [(@decodePosePayload_iff _ _ _ _ _ true _).mpr ⟨isFrame, _, _, _, _,
              isMember, isOrientation, acceptable.1, holds, isRead, rfl⟩]
            rfl
  | headRecenter fields isFrame isMember isOrientation =>
      rw [if_neg (by decide), if_neg (by decide), if_neg (by decide), if_neg (by decide),
        if_neg (by decide), if_pos (by decide)]
      constructor
      · intro decoded
        obtain ⟨recenter, isRecenter, decoded⟩ := bind_eq_ok decoded
        cases decoded
        obtain ⟨pose, isPose, isRecenter⟩ := bind_eq_ok isRecenter
        cases isRecenter
        obtain ⟨_, part, orientation, read, position, isMember', isOrientation', _, holds, _,
          rfl⟩ := decodePosePayload_iff.mp isPose
        cases isMember.unique isMember'
        cases isOrientation.unique isOrientation'
        exact .headRecenter holds
      · intro made
        cases made with
        | headRecenter holds =>
            unfold decodeHeadRecenterPayload
            rw [decodePosePayload_iff.mpr ⟨isFrame, _, _, _, none, isMember, isOrientation,
              acceptable.1, holds, rfl, rfl⟩]
            rfl

/-! ## Commands -/

/-- What a header holds of the document. -/
structure Header.Holds (header : Header) (command : WireCommand) : Prop where
  isCommand : header.command = cs command.command.wire
  isSessionId : header.sessionId = utf16 command.sessionId
  isSequence : header.sequence.1 = command.sequence.1.intValue
  isTimestamp : header.timestampMs.1 = command.timestampMs.1.intValue

/-- What an object holds of the document. -/
def Holds (dto : CommandDto M) (command : WireCommand) : Prop :=
  ∃ header : Header, header.Holds command ∧ Made header dto command.command command.payload

theorem decodeHeader_iff {tree : WireTree} {header : Header} :
    decodeHeader (csTree tree) = .ok header ↔
      ∃ (members : WireMembers) (name sessionId : List Char) (sequence timestampMs : Literal),
        tree = .obj members ∧ members.HasFields commandFields [] ∧
        members.Has "schema_version" (.str "0.1".toList) ∧
        (members.Has "command" (.str name) ∧ header.command = utf16 name) ∧
        (members.Has "session_id" (.str sessionId) ∧ header.sessionId = utf16 sessionId ∧
          sessionId ≠ [] ∧ Dialect.unity.blank sessionId = false) ∧
        (members.Has "sequence" (.num sequence) ∧ Dialect.unity.Integer 1 sequence ∧
          header.sequence.1 = sequence.1.intValue) ∧
        members.Has "timestamp_ms" (.num timestampMs) ∧ Dialect.unity.Integer 0 timestampMs ∧
          header.timestampMs.1 = timestampMs.1.intValue := by
  constructor
  · intro decoded
    obtain ⟨_, _, decoded⟩ := bind_eq_ok decoded
    obtain ⟨_, checked, decoded⟩ := bind_eq_ok decoded
    obtain ⟨members, rfl⟩ := requireExactFields_obj checked
    obtain ⟨_, isVersion, decoded⟩ := bind_eq_ok decoded
    obtain ⟨command, isCommand, decoded⟩ := bind_eq_ok decoded
    obtain ⟨sessionId, isSessionId, decoded⟩ := bind_eq_ok decoded
    obtain ⟨sequence, isSequence, decoded⟩ := bind_eq_ok decoded
    obtain ⟨timestampMs, isTimestamp, decoded⟩ := bind_eq_ok decoded
    cases decoded
    obtain ⟨name, hasCommand, isCommand⟩ := requireText_iff.mp isCommand
    obtain ⟨chars, hasSession, isSession⟩ := requireNonEmptyString_iff.mp isSessionId
    obtain ⟨first, hasSequence, isSequence⟩ := requireInteger_iff.mp isSequence
    obtain ⟨second, hasTimestamp, isTimestamp⟩ := requireInteger_iff.mp isTimestamp
    exact ⟨members, name, chars, first, second, rfl, requireExactFields_iff.mp checked,
      (requireLiteral_iff.mp isVersion).1, ⟨hasCommand, isCommand⟩, ⟨hasSession, isSession⟩,
      ⟨hasSequence, isSequence⟩, hasTimestamp, isTimestamp⟩
  · rintro ⟨members, name, sessionId, first, second, rfl, fields, isVersion,
      ⟨hasCommand, isCommand⟩, ⟨hasSession, isSession⟩, ⟨hasSequence, isSequence⟩, hasTimestamp,
      isTimestamp⟩
    have readVersion : requireString (csTree (.obj members)) "schema_version"
        (some WireValues.schemaVersion) = .ok (cs "0.1") :=
      requireLiteral_iff.mpr ⟨isVersion, rfl⟩
    unfold decodeHeader
    rw [requireObject_obj, requireExactFields_iff.mpr fields, readVersion,
      requireText_iff.mpr ⟨name, hasCommand, isCommand⟩,
      requireNonEmptyString_iff.mpr ⟨sessionId, hasSession, isSession⟩,
      requireInteger_iff.mpr ⟨first, hasSequence, isSequence⟩,
      requireInteger_iff.mpr ⟨second, hasTimestamp, isTimestamp⟩]
    rfl

/-- A payload is decoded under the six names only. -/
theorem decodePayload_name {header : Header} {payload : JsonValue} {dto : CommandDto M}
    (decoded : decodePayload M header payload = .ok dto) :
    ∃ name : CommandName, header.command = cs name.wire := by
  unfold decodePayload at decoded
  by_cases start : header.command = WireValues.sessionStart
  · exact ⟨.sessionStart, start⟩
  by_cases stop : header.command = WireValues.sessionStop
  · exact ⟨.sessionStop, stop⟩
  by_cases emergency : header.command = WireValues.emergencyStop
  · exact ⟨.emergencyStop, emergency⟩
  by_cases mode : header.command = WireValues.modeSet
  · exact ⟨.modeSet, mode⟩
  by_cases pose : header.command = WireValues.headPose
  · exact ⟨.headPose, pose⟩
  by_cases recenter : header.command = WireValues.headRecenter
  · exact ⟨.headRecenter, recenter⟩
  rw [if_neg start, if_neg stop, if_neg emergency, if_neg mode, if_neg pose, if_neg recenter]
    at decoded
  cases decoded

/-- The documents that `DecodeCommand` accepts, and what it makes of them. -/
theorem decodeCommandRoot_iff {tree : WireTree} {dto : CommandDto M} :
    decodeCommandRoot M (csTree tree) = .ok dto ↔
      ∃ command, IsCommand tree command ∧ command.Acceptable M (Reading.unity M) ∧
        Holds dto command := by
  constructor
  · intro decoded
    obtain ⟨header, isHeader, decoded⟩ := bind_eq_ok decoded
    obtain ⟨members, written, sessionId, sequence, timestampMs, rfl, fields, isVersion,
      ⟨hasCommand, isCommand⟩, ⟨hasSession, isSession, nonempty, visible⟩,
      ⟨hasSequence, inSequence, isSequence⟩, hasTimestamp, inTimestamp, isTimestamp⟩ :=
      decodeHeader_iff.mp isHeader
    obtain ⟨_, found, decoded⟩ := bind_eq_ok decoded
    obtain ⟨value, isMember, rfl⟩ := requireMember_iff.mp found
    obtain ⟨_, _, decoded⟩ := bind_eq_ok decoded
    obtain ⟨_, validated, decoded⟩ := bind_eq_ok decoded
    obtain ⟨name, isName⟩ := decodePayload_name decoded
    rw [isName] at validated
    obtain ⟨wire, isPayload, acceptable⟩ := validateCommandPayload_iff.mp validated
    have made := (decodePayload_iff isPayload acceptable isName).mp decoded
    cases utf16_injective (isCommand.symm.trans isName)
    exact ⟨⟨name, sessionId, sequence, timestampMs, wire⟩,
      .obj fields isVersion hasCommand hasSession hasSequence hasTimestamp isMember isPayload,
      ⟨nonempty, visible, inSequence, inTimestamp, acceptable⟩, header,
      ⟨isName, isSession, isSequence, isTimestamp⟩, made⟩
  · rintro ⟨command, isCommand, acceptable, header, holds, made⟩
    obtain @⟨members, value, _, fields, hasVersion, hasCommand, hasSession, hasSequence,
      hasTimestamp, isMember, isPayload⟩ := isCommand
    have isHeader : decodeHeader (csTree (.obj members)) = .ok header :=
      decodeHeader_iff.mpr ⟨members, _, _, _, _, rfl, fields, hasVersion,
        ⟨hasCommand, holds.isCommand⟩,
        ⟨hasSession, holds.isSessionId, acceptable.nonempty, acceptable.visible⟩,
        ⟨hasSequence, acceptable.sequence, holds.isSequence⟩, hasTimestamp,
        acceptable.timestampMs, holds.isTimestamp⟩
    unfold decodeCommandRoot
    rw [isHeader]
    change (requireMember (csTree (.obj members)) "payload" >>= _) = _
    rw [requireMember_of_has isMember]
    change (requireObject (csTree value) "payload" >>= _) = _
    rw [requireObject_payload isPayload]
    change (validateCommandPayload M header.command (csTree value) >>= _) = _
    rw [holds.isCommand,
      validateCommandPayload_iff.mpr ⟨_, isPayload, acceptable.payload⟩]
    exact (decodePayload_iff isPayload acceptable.payload holds.isCommand).mpr made

/-- Every acceptable payload has an object that holds it. -/
theorem exists_made (header : Header) {name : CommandName} {value : WireTree} {wire : WirePayload}
    (isPayload : IsPayload name value wire)
    (acceptable : wire.Acceptable M (Reading.unity M)) :
    ∃ dto : CommandDto M, Made header dto name wire := by
  cases isPayload with
  | sessionStart _ _ => exact ⟨_, .sessionStart⟩
  | sessionStop _ => exact ⟨_, .sessionStop⟩
  | emergencyStop _ => exact ⟨_, .emergencyStop⟩
  | modeSet _ _ => exact ⟨_, .modeSet⟩
  | headPose _ _ _ _ _ =>
      obtain ⟨read, holds⟩ := exists_holdsOrientation acceptable.1
      obtain ⟨place, holdsPlace⟩ := exists_holdsOptional acceptable.2
      exact ⟨_, .headPose holds holdsPlace⟩
  | headRecenter _ _ _ _ =>
      obtain ⟨read, holds⟩ := exists_holdsOrientation acceptable.1
      exact ⟨_, .headRecenter holds⟩

theorem exists_decodeCommandRoot_iff {tree : WireTree} :
    (∃ dto, decodeCommandRoot M (csTree tree) = .ok dto) ↔
      ∃ command, IsCommand tree command ∧ command.Acceptable M (Reading.unity M) := by
  constructor
  · rintro ⟨dto, decoded⟩
    obtain ⟨command, isCommand, acceptable, _⟩ := decodeCommandRoot_iff.mp decoded
    exact ⟨command, isCommand, acceptable⟩
  · rintro ⟨command, isCommand, acceptable⟩
    obtain ⟨_, isPayload⟩ := isCommand.exists_payload
    have inSequence := acceptable.sequence.above
    have inTimestamp := acceptable.timestampMs.above
    let header : Header := ⟨cs command.command.wire, utf16 command.sessionId,
      ⟨command.sequence.1.intValue, by omega, acceptable.sequence.below⟩,
      ⟨command.timestampMs.1.intValue, by omega, acceptable.timestampMs.below⟩⟩
    obtain ⟨dto, made⟩ := exists_made header isPayload acceptable.payload
    exact ⟨dto, decodeCommandRoot_iff.mpr
      ⟨command, isCommand, acceptable, header, ⟨rfl, rfl, rfl, rfl⟩, made⟩⟩

end WireCodec

end ValeraControlTower.Unity

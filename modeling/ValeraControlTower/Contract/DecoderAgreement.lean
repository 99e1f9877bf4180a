import ValeraControlTower.Unity.CommandReading
import ValeraControlTower.VrGateway.CommandReading
import ValeraControlTower.VrGateway.RealMath

/-!
# The two command decoders on one document

What either decoder makes of a document is the same command.  They accept the same
documents apart from texts that only Python takes for white space, times written with a
sign, and modes that are short in code points but not in code units.
-/

namespace ValeraControlTower

open Unicode Json Unity Unity.CsString Unity.WireCodec

variable {K : Type} {M : FloatMath K} [Field K] [LinearOrder K]

/-! ## The same command -/

def SameNumber (value : K) : CsDouble M → Prop
  | .finite double => double.1 = value
  | .infinity _ | .nan => False

structure SameQuaternion (value : Quaternion M) (dto : QuaternionDto M) : Prop where
  x : SameNumber value.x dto.x
  y : SameNumber value.y dto.y
  z : SameNumber value.z dto.z
  w : SameNumber value.w dto.w

structure SamePosition (value : Position K) (dto : PositionDto M) : Prop where
  x : SameNumber value.x dto.x
  y : SameNumber value.y dto.y
  z : SameNumber value.z dto.z

/-- Both positions, or none on either side. -/
inductive SameOptional : Option (Position K) → Option (PositionDto M) → Prop where
  | none : SameOptional none none
  | some {value : Position K} {dto : PositionDto M} (same : SamePosition value dto) :
      SameOptional (some value) (some dto)

structure SameHeader {Payload : Type} (envelope : CommandEnvelope M) (dto : CommandFields Payload) :
    Prop where
  schemaVersion : dto.schemaVersion = some (units envelope.schemaVersion)
  command : dto.command = some (units envelope.command.value)
  sessionId : dto.sessionId = some (units envelope.sessionId)
  sequence : dto.sequence.1 = envelope.sequence
  timestampMs : dto.timestampMs.1 = envelope.timestampMs

/-- The envelope and the object have the same fields. -/
inductive SameCommand (envelope : CommandEnvelope M) : CommandDto M → Prop where
  | sessionStart {dto : CommandFields SessionStartPayloadDto} {payload : SessionStartPayload}
      (isHeader : SameHeader envelope dto) (isName : envelope.command = .sessionStart)
      (isPayload : envelope.payload = .sessionStart payload)
      (same : dto.payload = some ⟨some (units payload.requestedMode)⟩) :
      SameCommand envelope (.sessionStart dto)
  | sessionStop {dto : CommandFields EmptyPayloadDto} (isHeader : SameHeader envelope dto)
      (isName : envelope.command = .sessionStop) (isPayload : envelope.payload = .empty)
      (same : dto.payload = some ⟨⟩) : SameCommand envelope (.sessionStop dto)
  | modeSet {dto : CommandFields ModeSetPayloadDto} {payload : ModeSetPayload}
      (isHeader : SameHeader envelope dto) (isName : envelope.command = .modeSet)
      (isPayload : envelope.payload = .modeSet payload)
      (same : dto.payload = some ⟨some (units payload.mode)⟩) :
      SameCommand envelope (.modeSet dto)
  | headPose {dto : CommandFields (HeadPosePayloadDto M)} {payload : PosePayload M}
      {orientation : QuaternionDto M} {position : Option (PositionDto M)}
      (isHeader : SameHeader envelope dto) (isName : envelope.command = .headPose)
      (isPayload : envelope.payload = .pose payload)
      (same : dto.payload = some ⟨some (units payload.frame), some orientation, position⟩)
      (isOrientation : SameQuaternion payload.orientation orientation)
      (isPosition : SameOptional payload.position position) : SameCommand envelope (.headPose dto)
  | headRecenter {dto : CommandFields (HeadRecenterPayloadDto M)} {payload : PosePayload M}
      {orientation : QuaternionDto M} (isHeader : SameHeader envelope dto)
      (isName : envelope.command = .headRecenter) (isPayload : envelope.payload = .pose payload)
      (same : dto.payload = some ⟨some (units payload.frame), some orientation⟩)
      (isOrientation : SameQuaternion payload.orientation orientation)
      (noPosition : payload.position = none) : SameCommand envelope (.headRecenter dto)
  | emergencyStop {dto : CommandFields EmptyPayloadDto} (isHeader : SameHeader envelope dto)
      (isName : envelope.command = .emergencyStop) (isPayload : envelope.payload = .empty)
      (same : dto.payload = some ⟨⟩) : SameCommand envelope (.emergencyStop dto)

section Same

omit [Field K] [LinearOrder K]

theorem sameNumber_of_denotes {value : K} {dto : CsDouble M} {literal : Literal}
    (isValue : M.ofRat literal.1.value = some value) (holds : HoldsNumber M dto literal) :
    SameNumber value dto := by
  obtain ⟨double, rfl, isDouble⟩ := holdsNumber_iff.mp holds
  exact Option.some.inj (isDouble.symm.trans isValue)

theorem sameOptional_of_holds {value : Option (Position K)} {dto : Option (PositionDto M)}
    {position : Option WirePosition} (holds : ValeraControlTower.HoldsPosition M value position)
    (holdsDto : HoldsOptional dto position) : SameOptional value dto := by
  cases holds with
  | none =>
      cases holdsDto
      exact .none
  | some denotes =>
      obtain ⟨isX, isY, isZ⟩ := denotes
      cases holdsDto with
      | some holdsDto =>
          exact .some
            ⟨sameNumber_of_denotes isX holdsDto.isX, sameNumber_of_denotes isY holdsDto.isY,
            sameNumber_of_denotes isZ holdsDto.isZ⟩

end Same

theorem sameQuaternion_of_holds {value : Quaternion M} {dto : QuaternionDto M}
    {orientation : WireOrientation}
    (denotes : orientation.Denotes M value.x value.y value.z value.w)
    (holds : HoldsOrientation dto orientation) : SameQuaternion value dto := by
  obtain ⟨isX, isY, isZ, isW⟩ := denotes
  exact ⟨sameNumber_of_denotes isX holds.isX, sameNumber_of_denotes isY holds.isY,
    sameNumber_of_denotes isZ holds.isZ, sameNumber_of_denotes isW holds.isW⟩

theorem sameHeader_of_holds {Payload : Type} {envelope : CommandEnvelope M}
    {command : WireCommand} {header : Header} (holds : envelope.Holds command)
    (holdsDto : header.Holds command) (payload : Payload) :
    SameHeader envelope (header.fields payload) where
  schemaVersion := by
    rw [envelope.schemaVersionExact]
    rfl
  command := by
    rw [holds.isCommand, value_eq_wire]
    exact congrArg some holdsDto.isCommand
  sessionId := by
    rw [holds.isSessionId]
    exact congrArg some holdsDto.isSessionId
  sequence := holdsDto.isSequence.trans holds.isSequence.symm
  timestampMs := holdsDto.isTimestamp.trans holds.isTimestamp.symm

/-- What holds the same document is the same. -/
theorem sameCommand_of_holds {envelope : CommandEnvelope M} {dto : CommandDto M}
    {command : WireCommand} (holds : envelope.Holds command)
    (holdsDto : WireCodec.Holds dto command) :
    SameCommand envelope dto := by
  obtain ⟨header, holdsHeader, made⟩ := holdsDto
  have isHeader {Payload : Type} (payload : Payload) :=
    sameHeader_of_holds holds holdsHeader payload
  have isName := holds.isCommand
  have isPayload := holds.isPayload
  generalize command.command = name at isName made
  generalize command.payload = wire at isPayload made
  generalize same : envelope.payload = payload at isPayload
  cases made with
  | sessionStart =>
      cases isPayload with
      | sessionStart isMode =>
          refine .sessionStart (isHeader _) isName same ?_
          rw [isMode]
          rfl
  | sessionStop =>
      cases isPayload
      exact .sessionStop (isHeader _) isName same rfl
  | emergencyStop =>
      cases isPayload
      exact .emergencyStop (isHeader _) isName same rfl
  | modeSet =>
      cases isPayload with
      | modeSet isMode =>
          refine .modeSet (isHeader _) isName same ?_
          rw [isMode]
          rfl
  | headPose isOrientation isPosition =>
      cases isPayload with
      | @pose payload _ _ denotes position =>
          refine .headPose (isHeader _) isName same ?_
            (sameQuaternion_of_holds denotes isOrientation)
            (sameOptional_of_holds position isPosition)
          rw [payload.frameExact]
          rfl
  | headRecenter isOrientation =>
      cases isPayload with
      | @pose payload _ _ denotes position =>
          refine .headRecenter (isHeader _) isName same ?_
            (sameQuaternion_of_holds denotes isOrientation) ?_
          · rw [payload.frameExact]
            rfl
          · generalize payload.position = read at position
            cases position
            rfl

/-! ## The same documents -/

/-- Either both decoders accept the document, as the same command, or neither does. -/
def Agree (M : FloatMath K) (tree : WireTree) : Prop :=
  ((∃ envelope, Wire.decodeDocument M (pyTree M tree) = .ok envelope) ↔
    ∃ dto, decodeCommandRoot M (csTree tree) = .ok dto) ∧
  ∀ envelope dto, Wire.decodeDocument M (pyTree M tree) = .ok envelope →
    decodeCommandRoot M (csTree tree) = .ok dto → SameCommand envelope dto

/-- The dialect that refuses only what both programs refuse. -/
def Dialect.loosest : Dialect where
  blank := Dialect.unity.blank
  length := Dialect.python.length
  signed := true

def Reading.loosest (M : FloatMath K) : Reading where
  toDialect := Dialect.loosest
  turns := WireOrientation.Acceptable M

namespace WireCommand

/-- The session id or the mode is white space for Python. -/
def IsBlank (command : WireCommand) : Prop :=
  Wire.isspace (ofChars command.sessionId) = true ∨
    ∃ mode, command.payload = .mode mode ∧ Wire.isspace (ofChars mode) = true

/-- The time has a sign, or the mode has too many code units. -/
def IsForeign (command : WireCommand) : Prop :=
  command.timestampMs.1.negative = true ∨
    ∃ mode, command.payload = .mode mode ∧ 64 < (utf16 mode).length

end WireCommand

/-- White space in C# is white space in Python. -/
theorem isSpace_of_units {point : CodePoint} (white : point.units.all isWhiteSpace = true) :
    Wire.isSpace point = true := by
  by_cases basic : point.val < 0x10000
  · have single : point.units = [Fin.ofNat 0x10000 point.val] := if_pos basic
    rw [single, List.all_cons, List.all_nil, Bool.and_true] at white
    simp only [isWhiteSpace, Fin.val_ofNat, Nat.mod_eq_of_lt basic, Bool.or_eq_true,
      decide_eq_true_eq, beq_iff_eq] at white
    simp only [Wire.isSpace, Bool.or_eq_true, decide_eq_true_eq, beq_iff_eq]
    omega
  · obtain ⟨high, low, pair, isHigh, _⟩ := CodePoint.units_pair (Nat.le_of_not_lt basic)
    simp only [CodeUnit.isHighSurrogate, decide_eq_true_eq] at isHigh
    rw [pair, List.all_cons, Bool.and_eq_true] at white
    have first := white.1
    simp only [isWhiteSpace, Bool.or_eq_true, decide_eq_true_eq, beq_iff_eq] at first
    omega

theorem python_blank_of_unity {text : List Char} (nonempty : text ≠ [])
    (blank : Dialect.unity.blank text = true) : Dialect.python.blank text = true := by
  have all : (ofChars text).all Wire.isSpace = true := by
    rw [List.all_eq_true]
    intro point membership
    obtain ⟨char, charMembership, rfl⟩ := List.mem_map.mp membership
    apply isSpace_of_units
    rw [List.all_eq_true]
    intro unit unitMembership
    apply List.all_eq_true.mp blank
    exact List.mem_flatMap.mpr ⟨_, List.mem_map_of_mem charMembership, unitMembership⟩
  have present : (ofChars text).isEmpty = false := by
    cases text with
    | nil => exact absurd rfl nonempty
    | cons char text => rfl
  change (!(ofChars text).isEmpty && (ofChars text).all Wire.isSpace) = true
  rw [present, all]
  rfl

theorem visible_of_python {text : List Char} (nonempty : text ≠ [])
    (visible : Dialect.python.blank text = false) : Dialect.unity.blank text = false := by
  rw [Bool.eq_false_iff] at visible ⊢
  exact fun blank => visible (python_blank_of_unity nonempty blank)

theorem integer_python_iff {minimum : ℤ} {literal : Literal} :
    Dialect.python.Integer minimum literal ↔ Dialect.loosest.Integer minimum literal := by
  constructor <;> exact fun ⟨isInteger, sign, above, below⟩ => ⟨isInteger, sign, above, below⟩

theorem integer_unity_iff {minimum : ℤ} {literal : Literal} :
    Dialect.unity.Integer minimum literal ↔
      Dialect.loosest.Integer minimum literal ∧ literal.1.negative = false := by
  constructor
  · intro ⟨isInteger, sign, above, below⟩
    refine ⟨⟨isInteger, ?_, above, below⟩, sign rfl⟩
    rintro ⟨⟩
  · intro ⟨⟨isInteger, _, above, below⟩, unsigned⟩
    exact ⟨isInteger, fun _ => unsigned, above, below⟩

/-- A positive literal has no sign. -/
theorem unsigned_of_pos {literal : Literal} (positive : 1 ≤ literal.1.intValue) :
    literal.1.negative = false := by
  cases sign : literal.1.negative with
  | false => rfl
  | true =>
      unfold Numeral.intValue at positive
      rw [sign, if_pos rfl] at positive
      omega

/-- What both decoders accept is the same command. -/
theorem sameCommand_of_decoded {tree : WireTree} {envelope : CommandEnvelope M}
    {dto : CommandDto M} (decoded : Wire.decodeDocument M (pyTree M tree) = .ok envelope)
    (decodedDto : decodeCommandRoot M (csTree tree) = .ok dto) : SameCommand envelope dto := by
  obtain ⟨command, isCommand, _, holds⟩ := decodeDocument_iff.mp decoded
  obtain ⟨command', isCommand', _, holdsDto⟩ := decodeCommandRoot_iff.mp decodedDto
  cases isCommand.unique isCommand'
  exact sameCommand_of_holds holds holdsDto

/-- The decoders agree on a command that both programs find acceptable, or neither. -/
theorem agree_iff_acceptable {tree : WireTree} :
    Agree M tree ↔ ∀ command, IsCommand tree command →
      (command.Acceptable M (Reading.python M) ↔ command.Acceptable M (Reading.unity M)) := by
  unfold Agree
  rw [exists_decodeDocument_iff, exists_decodeCommandRoot_iff]
  constructor
  · rintro ⟨same, _⟩ command isCommand
    constructor
    · intro acceptable
      obtain ⟨command', isCommand', acceptable'⟩ := same.mp ⟨command, isCommand, acceptable⟩
      rwa [isCommand.unique isCommand']
    · intro acceptable
      obtain ⟨command', isCommand', acceptable'⟩ := same.mpr ⟨command, isCommand, acceptable⟩
      rwa [isCommand.unique isCommand']
  · intro same
    refine ⟨?_, fun envelope dto => sameCommand_of_decoded⟩
    constructor
    · rintro ⟨command, isCommand, acceptable⟩
      exact ⟨command, isCommand, (same command isCommand).mp acceptable⟩
    · rintro ⟨command, isCommand, acceptable⟩
      exact ⟨command, isCommand, (same command isCommand).mpr acceptable⟩

theorem acceptable_unity_iff (exact : M.Exact) {command : WireCommand} :
    command.Acceptable M (Reading.unity M) ↔
      command.Acceptable M (Reading.loosest M) ∧ ¬command.IsForeign := by
  constructor
  · intro ⟨nonempty, visible, sequence, timestampMs, payload⟩
    obtain ⟨inTimestamp, unsigned⟩ := integer_unity_iff.mp timestampMs
    refine ⟨⟨nonempty, visible, (integer_unity_iff.mp sequence).1, inTimestamp, ?_⟩, ?_⟩
    · generalize command.payload = wire at payload
      cases wire with
      | sessionStart | empty => exact payload
      | pose _ _ => exact ⟨(WireCodec.turns_iff exact).mp payload.1, payload.2⟩
      | mode mode =>
          exact ⟨payload.1, payload.2.1,
            Nat.le_trans (StrictJsonParser.length_le_utf16 mode) payload.2.2⟩
    · rintro (signed | ⟨mode, isMode, long⟩)
      · exact Bool.false_ne_true (unsigned.symm.trans signed)
      · rw [isMode] at payload
        exact absurd payload.2.2 (Nat.not_le.mpr long)
  · intro ⟨⟨nonempty, visible, sequence, timestampMs, payload⟩, familiar⟩
    unfold WireCommand.IsForeign at familiar
    rw [not_or, Bool.not_eq_true] at familiar
    refine ⟨nonempty, visible, integer_unity_iff.mpr ⟨sequence, unsigned_of_pos sequence.above⟩,
      integer_unity_iff.mpr ⟨timestampMs, familiar.1⟩, ?_⟩
    have short := familiar.2
    generalize command.payload = wire at payload short
    cases wire with
    | sessionStart | empty => exact payload
    | pose _ _ => exact ⟨(WireCodec.turns_iff exact).mpr payload.1, payload.2⟩
    | mode mode =>
        refine ⟨payload.1, payload.2.1, ?_⟩
        exact Nat.le_of_not_lt fun long => short ⟨mode, rfl, long⟩

section Agreement

variable [IsStrictOrderedRing K]

theorem acceptable_python_iff (exact : M.Exact) {command : WireCommand} :
    command.Acceptable M (Reading.python M) ↔
      command.Acceptable M (Reading.loosest M) ∧ ¬command.IsBlank := by
  constructor
  · intro ⟨nonempty, visible, sequence, timestampMs, payload⟩
    refine ⟨⟨nonempty, visible_of_python nonempty visible, integer_python_iff.mp sequence,
      integer_python_iff.mp timestampMs, ?_⟩, ?_⟩
    · generalize command.payload = wire at payload
      cases wire with
      | sessionStart | empty => exact payload
      | pose _ _ => exact ⟨(ValeraControlTower.turns_iff exact).mp payload.1, payload.2⟩
      | mode mode => exact ⟨payload.1, visible_of_python payload.1 payload.2.1, payload.2.2⟩
    · rintro (blank | ⟨mode, isMode, blank⟩)
      · exact Bool.false_ne_true (visible.symm.trans blank)
      · rw [isMode] at payload
        exact Bool.false_ne_true (payload.2.1.symm.trans blank)
  · intro ⟨⟨nonempty, _, sequence, timestampMs, payload⟩, shown⟩
    unfold WireCommand.IsBlank at shown
    rw [not_or, Bool.not_eq_true] at shown
    refine ⟨nonempty, shown.1, integer_python_iff.mpr sequence,
      integer_python_iff.mpr timestampMs, ?_⟩
    have modeShown := shown.2
    generalize command.payload = wire at payload modeShown
    cases wire with
    | sessionStart | empty => exact payload
    | pose _ _ => exact ⟨(ValeraControlTower.turns_iff exact).mpr payload.1, payload.2⟩
    | mode mode =>
        refine ⟨payload.1, ?_, payload.2.2⟩
        rw [Bool.eq_false_iff]
        exact fun blank => modeShown ⟨mode, rfl, blank⟩

/-- The decoders agree on a document unless it is a command that one of them alone
refuses: Python for its white space, C# for its sign or its length. -/
theorem agree_iff (exact : M.Exact) (tree : WireTree) :
    Agree M tree ↔ ∀ command, IsCommand tree command → command.Acceptable M (Reading.loosest M) →
      (command.IsBlank ↔ command.IsForeign) := by
  rw [agree_iff_acceptable]
  refine forall_congr' fun command => forall_congr' fun isCommand => ?_
  rw [acceptable_python_iff exact, acceptable_unity_iff exact]
  constructor
  · intro same acceptable
    exact not_iff_not.mp ⟨fun shown => (same.mp ⟨acceptable, shown⟩).2,
      fun familiar => (same.mpr ⟨acceptable, familiar⟩).2⟩
  · intro same
    exact and_congr_right fun acceptable => not_congr (same acceptable)

end Agreement

/-! ## Whole numbers -/

/-- Real arithmetic without overflow whose floats are the whole numbers of at most fifteen
digits; `repr` writes them as Python does. -/
noncomputable def FloatMath.whole : FloatMath ℝ where
  ofRat value := if |value| < 10 ^ 15 then some ⌊value⌋ else none
  isfinite _ := true
  hypot values := √(values.map fun value => value * value).sum
  atan2 y x := Complex.arg ⟨x, y⟩
  degrees radians := radians * 180 / Real.pi
  exp := Real.exp
  repr value := (Numeral.ofInt ⌊value⌋).text ++ ".0".toList

theorem FloatMath.exact_whole : FloatMath.whole.Exact where
  isfinite _ := rfl
  hypot_nonneg _ := Real.sqrt_nonneg _
  hypot_mul_self values := by
    apply Real.mul_self_sqrt
    apply List.sum_nonneg
    intro square membership
    obtain ⟨value, _, rfl⟩ := List.mem_map.mp membership
    exact mul_self_nonneg value

/-- A `session.stop` that both decoders accept. -/
theorem agree_iff_stop : Agree FloatMath.whole (stopCommand "s".toList).tree ↔
    ∀ command, IsCommand (stopCommand "s".toList).tree command →
      command.Acceptable FloatMath.whole (Reading.loosest FloatMath.whole) →
      (command.IsBlank ↔ command.IsForeign) :=
  agree_iff FloatMath.exact_whole _

/-- The id is a file separator: white space for Python, not for C#. -/
theorem not_always_agree :
    ¬∀ tree : WireTree, tree.DistinctKeys → tree.nesting ≤ 4 → Agree FloatMath.whole tree := by
  intro always
  have agree := always (stopCommand ['\x1c']).tree (by
    refine ⟨?_, trivial, trivial, trivial, trivial, trivial, ⟨List.nodup_nil, trivial⟩, trivial⟩
    decide) (by decide)
  have same := agree_iff_acceptable.mp agree _
    (isCommand_stopCommand ['\x1c'])
  have acceptable :
      (stopCommand ['\x1c']).Acceptable FloatMath.whole (Reading.unity FloatMath.whole) := by
    refine ⟨by decide, by decide, ⟨rfl, fun _ => rfl, by decide, by decide⟩,
      ⟨rfl, fun _ => rfl, by decide, by decide⟩, trivial⟩
  have visible := (same.mpr acceptable).visible
  revert visible
  decide

end ValeraControlTower

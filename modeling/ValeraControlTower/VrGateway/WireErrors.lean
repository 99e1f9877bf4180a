import ValeraControlTower.VrGateway.WireDocuments

/-!
# What `decode_command` raises

Behind `_parse_json` every check raises a `WireError`, with one exception:
`math.isfinite` raises `OverflowError` on an integer that no float can hold.
`OversizedDocument` says which documents bring the decoder there.
-/

namespace ValeraControlTower

open Unicode Json

variable {K : Type}

namespace Wire

/-! ## Binds and branches -/

theorem failsClosed_bind_iff {α β : Type} {outcome : Except PyException α}
    {next : α → Except PyException β} :
    FailsClosed (outcome >>= next) ↔
      FailsClosed outcome ∧ ∀ value, outcome = .ok value → FailsClosed (next value) := by
  constructor
  · intro closed
    cases outcome with
    | error exception =>
        constructor
        · rcases closed with ⟨_, returned⟩ | ⟨message, raised⟩
          · cases returned
          · cases raised
            exact .wireError message
        · rintro _ ⟨⟩
    | ok value =>
        refine ⟨.ok value, ?_⟩
        rintro _ ⟨⟩
        exact closed
  · rintro ⟨first, second⟩
    exact first.bind second

theorem failsClosed_map_iff {α β : Type} {outcome : Except PyException α} {next : α → β} :
    FailsClosed (next <$> outcome) ↔ FailsClosed outcome := by
  constructor
  · intro closed
    cases outcome with
    | error exception =>
        rcases closed with ⟨_, returned⟩ | ⟨message, raised⟩
        · cases returned
        · cases raised
          exact .wireError message
    | ok value => exact .ok value
  · exact fun closed => closed.map next

theorem not_failsClosed_overflow {α : Type} :
    ¬FailsClosed (.error .overflowError : Except PyException α) := by
  rintro (⟨_, returned⟩ | ⟨_, raised⟩)
  · cases returned
  · cases raised

/-! ## Components -/

/-- An integer that no float can hold. -/
def OversizedNumber (M : FloatMath K) : PyJson K → Prop
  | .num (.int value) => M.ofRat value = none
  | _ => False

/-- A finite number. -/
def FiniteNumber (M : FloatMath K) : PyJson K → Prop
  | .num (.int value) => M.ofRat value ≠ none
  | .num (.float (.finite _)) => True
  | _ => False

/-- The first of the values that is not a finite number is an oversized integer. -/
def MeetsOversized (M : FloatMath K) : List (PyJson K) → Prop
  | [] => False
  | value :: values =>
      OversizedNumber M value ∨ (FiniteNumber M value ∧ MeetsOversized M values)

/-- An orientation whose components meet an oversized integer. -/
def OversizedQuaternion (M : FloatMath K) : PyJson K → Prop
  | .obj members => sameKeys members quaternionKeys = true ∧
      MeetsOversized M [getItem members (py "x"), getItem members (py "y"),
        getItem members (py "z"), getItem members (py "w")]
  | _ => False

/-- A position whose components meet an oversized integer. -/
def OversizedPosition (M : FloatMath K) : PyJson K → Prop
  | .obj members => sameKeys members positionKeys = true ∧
      MeetsOversized M [getItem members (py "x"), getItem members (py "y"),
        getItem members (py "z")]
  | _ => False

theorem isfinite_int (M : FloatMath K) (value : ℤ) :
    (PyObject.int value).isfinite M =
      if M.ofRat value = none then .error .overflowError else .ok true := by
  unfold PyObject.isfinite
  by_cases oversized : M.ofRat value = none
  · simp [oversized]
  · simp [oversized, Option.isSome_iff_ne_none]

theorem decodeComponent_failsClosed_iff (M : FloatMath K) (owner : String) (value : PyJson K) :
    FailsClosed (decodeComponent M owner value) ↔ ¬OversizedNumber M value := by
  cases value with
  | null | bool _ | str _ | arr _ | obj _ => exact iff_of_true (.wireError _) id
  | num number =>
      cases number with
      | int value =>
          change FailsClosed ((PyObject.int value).isfinite M >>= _) ↔ ¬M.ofRat value = none
          rw [isfinite_int]
          by_cases oversized : M.ofRat value = none
          · rw [if_pos oversized]
            exact iff_of_false not_failsClosed_overflow (not_not.mpr oversized)
          · rw [if_neg oversized]
            exact iff_of_true (.ok _) oversized
      | float value =>
          refine iff_of_true ?_ id
          cases value with
          | finite _ => exact .ok _
          | infinity _ | nan => exact .wireError _

/-- A component that is passed on is a finite number. -/
theorem decodeComponent_ok_iff {M : FloatMath K} {owner : String} {value : PyJson K}
    {number : PyNumber K} :
    decodeComponent M owner value = .ok number ↔
      value = .num number ∧ FiniteNumber M value := by
  cases value with
  | null | bool _ | str _ | arr _ | obj _ =>
      refine iff_of_false ?_ ?_
      · rintro ⟨⟩
      · rintro ⟨⟨⟩, _⟩
  | num other =>
      cases other with
      | int value =>
          change (PyObject.int value).isfinite M >>= _ = _ ↔ _ ∧ M.ofRat value ≠ none
          rw [isfinite_int]
          by_cases oversized : M.ofRat value = none
          · rw [if_pos oversized]
            refine iff_of_false ?_ fun shown => shown.2 oversized
            rintro ⟨⟩
          · rw [if_neg oversized]
            constructor
            · rintro ⟨⟩
              exact ⟨rfl, oversized⟩
            · rintro ⟨⟨⟩, _⟩
              rfl
      | float value =>
          cases value with
          | finite value =>
              constructor
              · rintro ⟨⟩
                exact ⟨rfl, trivial⟩
              · rintro ⟨⟨⟩, _⟩
                rfl
          | infinity _ | nan =>
              refine iff_of_false ?_ fun shown => shown.2
              rintro ⟨⟩

/-- One round of a component loop and what follows it. -/
theorem decodeComponent_bind_failsClosed {α : Type} {M : FloatMath K} {owner : String}
    {value : PyJson K} {next : PyNumber K → Except PyException α} {later : Prop}
    (continued : ∀ number, value = .num number → FiniteNumber M value →
      (FailsClosed (next number) ↔ ¬later)) :
    FailsClosed (decodeComponent M owner value >>= next) ↔
      ¬(OversizedNumber M value ∨ (FiniteNumber M value ∧ later)) := by
  rw [failsClosed_bind_iff, decodeComponent_failsClosed_iff, not_or]
  apply and_congr_right
  intro fits
  constructor
  · rintro closes ⟨finite, isLater⟩
    cases value with
    | null | bool _ | str _ | arr _ | obj _ => exact finite
    | num number =>
        exact (continued number rfl finite).mp
          (closes number (decodeComponent_ok_iff.mpr ⟨rfl, finite⟩)) isLater
  · intro notLater number decoded
    obtain ⟨same, finite⟩ := decodeComponent_ok_iff.mp decoded
    exact (continued number same finite).mpr fun isLater => notLater ⟨finite, isLater⟩

variable [Field K] [LinearOrder K] {M : FloatMath K}

omit [LinearOrder K] in
/-- The value of a finite number as a `float`. -/
theorem finiteJsonNumber_ok (owner : String) {number : PyNumber K}
    (finite : FiniteNumber M (.num number)) :
    finiteJsonNumber M owner number = .ok ((object (.num number)).toFloat M) := by
  unfold finiteJsonNumber
  cases number with
  | int value =>
      change (PyObject.int value).isfinite M >>= _ = _
      rw [isfinite_int, if_neg finite]
      rfl
  | float value =>
      cases value with
      | finite value => rfl
      | infinity _ | nan => exact finite.elim

theorem catch_new_failsClosed (x y z w : K) :
    FailsClosed (catchMessageErrors (Quaternion.new M x y z w)) := by
  unfold Quaternion.new
  split
  · split
    · split
      · exact .ok _
      · exact .wireError _
    · exact .wireError _
  · exact .wireError _

theorem decodeQuaternion_failsClosed_iff (M : FloatMath K) (value : PyJson K) :
    FailsClosed (decodeQuaternion M value) ↔ ¬OversizedQuaternion M value := by
  cases value with
  | null | bool _ | num _ | str _ | arr _ => exact iff_of_true (.wireError _) id
  | obj members =>
      unfold decodeQuaternion OversizedQuaternion
      by_cases keys : sameKeys members quaternionKeys = true
      · simp only [keys, if_true, true_and, MeetsOversized]
        apply decodeComponent_bind_failsClosed
        intro x isX finiteX
        apply decodeComponent_bind_failsClosed
        intro y isY finiteY
        apply decodeComponent_bind_failsClosed
        intro z isZ finiteZ
        apply decodeComponent_bind_failsClosed
        intro w isW finiteW
        rw [isX] at finiteX
        rw [isY] at finiteY
        rw [isZ] at finiteZ
        rw [isW] at finiteW
        refine iff_of_true ?_ id
        unfold constructQuaternion
        rw [finiteJsonNumber_ok _ finiteX, finiteJsonNumber_ok _ finiteY,
          finiteJsonNumber_ok _ finiteZ, finiteJsonNumber_ok _ finiteW]
        exact catch_new_failsClosed _ _ _ _
      · simp only [keys, Bool.false_eq_true, if_false, false_and]
        exact iff_of_true (.wireError _) id

omit [LinearOrder K] in
theorem decodePositionOptional_failsClosed_iff (M : FloatMath K) (value : PyJson K) :
    FailsClosed (decodePositionOptional M value) ↔ ¬OversizedPosition M value := by
  cases value with
  | null => exact iff_of_true (.ok _) id
  | bool _ | num _ | str _ | arr _ => exact iff_of_true (.wireError _) id
  | obj members =>
      unfold decodePositionOptional OversizedPosition
      by_cases keys : sameKeys members positionKeys = true
      · simp only [keys, if_true, true_and, MeetsOversized]
        apply decodeComponent_bind_failsClosed
        intro x isX finiteX
        apply decodeComponent_bind_failsClosed
        intro y isY finiteY
        apply decodeComponent_bind_failsClosed
        intro z isZ finiteZ
        rw [isX] at finiteX
        rw [isY] at finiteY
        rw [isZ] at finiteZ
        refine iff_of_true ?_ id
        unfold constructPosition
        rw [finiteJsonNumber_ok _ finiteX, finiteJsonNumber_ok _ finiteY,
          finiteJsonNumber_ok _ finiteZ]
        exact .ok _
      · simp only [keys, Bool.false_eq_true, if_false, false_and]
        exact iff_of_true (.wireError _) id

/-! ## Commands -/

/-- A payload whose decoding meets an oversized integer. -/
def OversizedPayload (M : FloatMath K) (command : CommandName) (payload : PyPairs K) : Prop :=
  let orientation := getItem payload (py "orientation")
  let position := getItem payload (py "position")
  getItem payload (py "frame") = .str questLocalFrame ∧
    match command with
    | .headRecenter =>
        sameKeys payload headRecenterKeys = true ∧ OversizedQuaternion M orientation
    | .headPose =>
        (py "frame" ∈ payload.map Prod.fst ∧ py "orientation" ∈ payload.map Prod.fst) ∧
        (payload.map Prod.fst).all (· ∈ headPoseKeys) = true ∧
        (OversizedQuaternion M orientation ∨
          ((∃ quaternion, decodeQuaternion M orientation = .ok quaternion) ∧
            py "position" ∈ payload.map Prod.fst ∧ OversizedPosition M position))
    | _ => False

/-- A document whose decoding meets an oversized integer: everything that is checked
before the component is as it should be. -/
def OversizedDocument (M : FloatMath K) : PyJson K → Prop
  | .obj members => ∃ header payload, decodeHeader members = .ok header ∧
      getItem members (py "payload") = .obj payload ∧ OversizedPayload M header.command payload
  | _ => False

omit [Field K] [LinearOrder K] in
theorem decodeFrame_cases (value : PyJson K) :
    (value = .str questLocalFrame ∧ decodeFrame value = .ok ⟨questLocalFrame, rfl⟩) ∨
      (value ≠ .str questLocalFrame ∧
        ∃ message, decodeFrame value = .error (.wireError message)) := by
  cases value with
  | null | bool _ | num _ | arr _ | obj _ =>
      exact .inr ⟨by rintro ⟨⟩, _, rfl⟩
  | str frame =>
      by_cases exact : frame = questLocalFrame
      · subst exact
        exact .inl ⟨rfl, rfl⟩
      · refine .inr ⟨?_, _, dif_neg exact⟩
        rintro ⟨⟩
        exact exact rfl

theorem decodeHeadRecenter_failsClosed_iff (M : FloatMath K) (payload : PyPairs K) :
    FailsClosed (decodeHeadRecenter M payload) ↔ ¬OversizedPayload M .headRecenter payload := by
  unfold decodeHeadRecenter OversizedPayload
  by_cases keys : sameKeys payload headRecenterKeys = true
  · simp only [keys, if_true, true_and]
    rcases decodeFrame_cases (getItem payload (py "frame")) with
      ⟨isFrame, decoded⟩ | ⟨notFrame, message, refused⟩
    · rw [decoded]
      change FailsClosed (decodeQuaternion M _ >>= _) ↔ _
      rw [failsClosed_bind_iff, decodeQuaternion_failsClosed_iff]
      simp only [isFrame, true_and]
      exact and_iff_left fun _ _ => .ok _
    · rw [refused]
      exact iff_of_true (.wireError message) fun oversized => notFrame oversized.1
  · simp only [keys, Bool.false_eq_true, if_false, false_and, and_false]
    exact iff_of_true (.wireError _) id

omit [LinearOrder K] in
theorem decodePositionField_failsClosed_iff (M : FloatMath K) (payload : PyPairs K) :
    FailsClosed (decodePositionField M payload) ↔
      ¬(py "position" ∈ payload.map Prod.fst ∧
        OversizedPosition M (getItem payload (py "position"))) := by
  unfold decodePositionField
  by_cases present : py "position" ∈ payload.map Prod.fst
  · rw [if_pos present, decodePositionOptional_failsClosed_iff, and_iff_right present]
  · rw [if_neg present]
    exact iff_of_true (.ok none) fun both => present both.1

theorem decodeHeadPose_failsClosed_iff (M : FloatMath K) (payload : PyPairs K) :
    FailsClosed (decodeHeadPose M payload) ↔ ¬OversizedPayload M .headPose payload := by
  unfold decodeHeadPose OversizedPayload
  dsimp only
  by_cases required : py "frame" ∈ payload.map Prod.fst ∧ py "orientation" ∈ payload.map Prod.fst
  · rw [if_neg (not_not.mpr required)]
    by_cases known : (payload.map Prod.fst).all (· ∈ headPoseKeys) = true
    · rw [if_neg (not_not.mpr known)]
      rcases decodeFrame_cases (getItem payload (py "frame")) with
        ⟨isFrame, decoded⟩ | ⟨notFrame, message, refused⟩
      · rw [decoded]
        change FailsClosed (decodeQuaternion M _ >>= _) ↔ _
        rw [failsClosed_bind_iff, decodeQuaternion_failsClosed_iff]
        simp only [isFrame, required, known, true_and, not_or]
        apply and_congr_right
        intro _
        constructor
        · rintro closes ⟨⟨orientation, decoded⟩, oversized⟩
          have closed := (failsClosed_bind_iff.mp (closes orientation decoded)).1
          exact (decodePositionField_failsClosed_iff M payload).mp closed oversized
        · intro fits orientation decoded
          refine failsClosed_bind_iff.mpr ⟨?_, fun _ _ => .ok _⟩
          apply (decodePositionField_failsClosed_iff M payload).mpr
          intro oversized
          exact fits ⟨⟨orientation, decoded⟩, oversized⟩
      · rw [refused]
        exact iff_of_true (.wireError message) fun oversized => notFrame oversized.1
    · rw [if_pos known]
      exact iff_of_true (.wireError _) fun oversized => known oversized.2.2.1
  · rw [if_pos required]
    exact iff_of_true (.wireError _) fun oversized => required oversized.2.1

omit [Field K] [LinearOrder K] in
theorem decodeSessionStart_failsClosed (payload : PyPairs K) :
    FailsClosed (decodeSessionStart payload) := by
  unfold decodeSessionStart
  split
  · split
    · split
      · exact .ok _
      · exact .wireError _
    · exact .wireError _
  · exact .wireError _

omit [Field K] [LinearOrder K] in
theorem decodeModeSet_failsClosed (payload : PyPairs K) : FailsClosed (decodeModeSet payload) := by
  unfold decodeModeSet
  split
  · split
    · split
      · exact .wireError _
      · split
        · exact .wireError _
        · exact .ok _
    · exact .wireError _
  · exact .wireError _

omit [Field K] [LinearOrder K] in
theorem decodeEmptyPayload_failsClosed (payload : PyPairs K) :
    FailsClosed (decodeEmptyPayload payload) := by
  unfold decodeEmptyPayload
  split
  · exact .ok _
  · exact .wireError _

theorem decodePayload_failsClosed_iff (M : FloatMath K) (command : CommandName)
    (payload : PyPairs K) :
    FailsClosed (decodePayload M command (.obj payload)) ↔ ¬OversizedPayload M command payload := by
  cases command with
  | sessionStart =>
      exact iff_of_true
        ((decodeSessionStart_failsClosed payload).map _) fun oversized => oversized.2
  | sessionStop =>
      exact iff_of_true
        ((decodeEmptyPayload_failsClosed payload).map _) fun oversized => oversized.2
  | modeSet =>
      exact iff_of_true ((decodeModeSet_failsClosed payload).map _) fun oversized => oversized.2
  | emergencyStop =>
      exact iff_of_true
        ((decodeEmptyPayload_failsClosed payload).map _) fun oversized => oversized.2
  | headPose => exact failsClosed_map_iff.trans (decodeHeadPose_failsClosed_iff M payload)
  | headRecenter => exact failsClosed_map_iff.trans (decodeHeadRecenter_failsClosed_iff M payload)

omit [Field K] [LinearOrder K] in
theorem decodeHeader_failsClosed (members : PyPairs K) : FailsClosed (decodeHeader members) := by
  have version (value : PyJson K) : FailsClosed (decodeSchemaVersion value) := by
    unfold decodeSchemaVersion
    split
    · split
      · exact .ok _
      · exact .wireError _
    · exact .wireError _
  have name (value : PyJson K) : FailsClosed (decodeCommandName value) := by
    unfold decodeCommandName
    split
    · split
      · exact .ok _
      · exact .wireError _
    · exact .wireError _
  have session (value : PyObject K) : FailsClosed (validateSessionId value) := by
    unfold validateSessionId
    split
    · split
      · split
        · exact .wireError _
        · exact .ok _
      · exact .wireError _
    · exact .wireError _
  have integer (value : PyObject K) (name : String) (minimum : ℤ) :
      FailsClosed (validateIntField value name minimum) := by
    unfold validateIntField
    split
    · split
      · exact .wireError _
      · split
        · exact .wireError _
        · exact .ok _
    · exact .wireError _
  unfold decodeHeader
  split
  · refine (version _).bind fun _ _ => (name _).bind fun _ _ => (session _).bind fun _ _ => ?_
    exact (integer _ _ _).bind fun _ _ => (integer _ _ _).bind fun _ _ => .ok _
  · exact .wireError _

theorem decodeDocument_failsClosed_iff (M : FloatMath K) (document : PyJson K) :
    FailsClosed (decodeDocument M document) ↔ ¬OversizedDocument M document := by
  cases document with
  | null | bool _ | num _ | str _ | arr _ => exact iff_of_true (.wireError _) id
  | obj members =>
      change FailsClosed (decodeHeader members >>= _) ↔ _
      rw [failsClosed_bind_iff, and_iff_right (decodeHeader_failsClosed members)]
      constructor
      · rintro closes ⟨header, payload, decoded, same, oversized⟩
        have closed := (failsClosed_bind_iff.mp (closes header decoded)).1
        rw [same] at closed
        exact (decodePayload_failsClosed_iff M _ payload).mp closed oversized
      · intro fits header decoded
        refine failsClosed_bind_iff.mpr ⟨?_, fun _ _ => .ok _⟩
        cases same : getItem members (py "payload") with
        | null | bool _ | num _ | str _ | arr _ => exact .wireError _
        | obj payload =>
            apply (decodePayload_failsClosed_iff M _ payload).mpr
            intro oversized
            exact fits ⟨header, payload, decoded, same, oversized⟩

/-! ## Raw text -/

theorem checkSize_failsClosed (raw : PyStr) : FailsClosed (checkSize raw) := by
  unfold checkSize
  split
  · exact .wireError _
  · split
    · exact .wireError _
    · split
      · exact .wireError _
      · exact .ok _

/-- Text without surrogates is a list of characters. -/
theorem exists_ofChars {raw : PyStr} (proper : raw.any CodePoint.isSurrogate = false) :
    ∃ source, raw = ofChars source := by
  induction raw with
  | nil => exact ⟨[], rfl⟩
  | cons point raw inductionHypothesis =>
      rw [List.any_cons, Bool.or_eq_false_iff] at proper
      obtain ⟨char, rfl⟩ := point.exists_char proper.1
      obtain ⟨source, rfl⟩ := inductionHypothesis proper.2
      exact ⟨char :: source, rfl⟩

theorem ofChars_of_checkSize {raw : PyStr} (fits : checkSize raw = .ok ()) :
    ∃ source, raw = ofChars source := by
  apply exists_ofChars
  by_contra surrogate
  unfold checkSize at fits
  split at fits
  · cases fits
  · have refused : utf8Length raw = .error .unicodeEncodeError := by
      unfold utf8Length
      rw [if_pos (by simpa using surrogate)]
    rw [refused] at fits
    cases fits

/-- A text within the limits whose reading reaches an integer literal of more than 4300
digits. -/
def LeaksValueError (raw : PyStr) : Prop :=
  checkSize raw = .ok () ∧ ∃ source, raw = ofChars source ∧ RefusesInteger source

/-- A text within the limits that denotes a document whose decoding meets an integer no
float can hold. -/
def LeaksOverflowError (M : FloatMath K) (raw : PyStr) : Prop :=
  checkSize raw = .ok () ∧ ∃ source tree, raw = ofChars source ∧ Denotes source tree ∧
    Readable tree ∧ OversizedDocument M (pyDocument M tree)

theorem decodeCommand_failsClosed_iff (M : FloatMath K) (raw : PyStr) :
    FailsClosed (decodeCommand M raw) ↔ ¬LeaksValueError raw ∧ ¬LeaksOverflowError M raw := by
  change FailsClosed (checkSize raw >>= fun _ => parseJson M parseInt raw >>= decodeDocument M) ↔ _
  rw [failsClosed_bind_iff, and_iff_right (checkSize_failsClosed raw)]
  constructor
  · intro closes
    constructor
    · rintro ⟨fits, source, rfl, refuses⟩
      have closed := (failsClosed_bind_iff.mp (closes () fits)).1
      exact (parseJson_failsClosed_iff M source).mp closed refuses
    · rintro ⟨fits, source, tree, rfl, denotes, readable, oversized⟩
      have closed := (failsClosed_bind_iff.mp (closes () fits)).2 _
        (parseJson_of_denotes M denotes readable)
      exact (decodeDocument_failsClosed_iff M _).mp closed oversized
  · rintro ⟨noValueError, noOverflow⟩ _ fits
    obtain ⟨source, rfl⟩ := ofChars_of_checkSize fits
    refine failsClosed_bind_iff.mpr ⟨?_, fun document parsed => ?_⟩
    · exact (parseJson_failsClosed_iff M source).mpr fun refuses =>
        noValueError ⟨fits, source, rfl, refuses⟩
    · obtain ⟨tree, denotes, readable, rfl⟩ := parseJson_sound parsed
      exact (decodeDocument_failsClosed_iff M _).mpr fun oversized =>
        noOverflow ⟨fits, source, tree, rfl, denotes, readable, oversized⟩

end Wire

end ValeraControlTower

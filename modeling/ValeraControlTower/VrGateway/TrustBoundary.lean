import ValeraControlTower.VrGateway.Gateway

/-!
# What validation at the runtime trust boundary raises

`handle` catches everything `validate_command_envelope` raises with one exception:
`math.isfinite` raises `OverflowError` on an integer that no float can hold.  `Overflows`
says which objects bring validation there.
-/

namespace ValeraControlTower

variable {K : Type}

/-- Whatever the outcome raises, `handle` catches it. -/
def Caught {α : Type} (outcome : Except PyException α) : Prop :=
  ∀ exception, outcome = .error exception → handleCatches exception = true

namespace Caught

variable {α β : Type}

theorem ok (value : α) : Caught (.ok value) := by
  rintro _ ⟨⟩

theorem error {exception : PyException} (caught : handleCatches exception = true) :
    Caught (.error exception : Except PyException α) := by
  rintro _ ⟨⟩
  exact caught

theorem bind_iff {outcome : Except PyException α} {next : α → Except PyException β} :
    Caught (outcome >>= next) ↔
      Caught outcome ∧ ∀ value, outcome = .ok value → Caught (next value) := by
  cases outcome with
  | error exception =>
      constructor
      · intro caught
        exact ⟨error (caught exception rfl), by rintro _ ⟨⟩⟩
      · exact fun both => error (both.1 exception rfl)
  | ok value =>
      constructor
      · intro caught
        refine ⟨ok value, ?_⟩
        rintro _ ⟨⟩
        exact caught
      · exact fun both => both.2 value rfl

theorem map_iff {outcome : Except PyException α} {next : α → β} :
    Caught (next <$> outcome) ↔ Caught outcome := by
  cases outcome with
  | error exception =>
      constructor
      · exact fun caught => error (caught exception rfl)
      · exact fun caught => error (caught exception rfl)
  | ok value => exact iff_of_true (ok _) (ok _)

end Caught

namespace PyDict

theorem getattr_eq_ok {dict : PyDict K} {name : PyAttribute} {value : PyObject K} :
    dict.getattr name = .ok value ↔ dict.get? name = some value := by
  unfold getattr
  cases dict.get? name with
  | none => simp
  | some held => simp

theorem getattr_caught (dict : PyDict K) (name : PyAttribute) : Caught (dict.getattr name) := by
  unfold getattr
  cases dict.get? name with
  | none => exact .error rfl
  | some held => exact .ok held

/-- A check of an attribute that only raises what is caught. -/
theorem getattr_bind_caught {α : Type} {dict : PyDict K} {name : PyAttribute}
    {next : PyObject K → Except PyException α} :
    Caught (dict.getattr name >>= next) ↔
      ∀ value, dict.get? name = some value → Caught (next value) := by
  rw [Caught.bind_iff, and_iff_right (getattr_caught dict name)]
  simp only [getattr_eq_ok]

end PyDict

open PyDict

/-! ## Components -/

/-- An integer that no float can hold. -/
def TooLarge (M : FloatMath K) : PyObject K → Prop
  | .int value => M.ofRat value = none
  | _ => False

/-- A finite number. -/
def IsFinite (M : FloatMath K) : PyObject K → Prop
  | .int value => M.ofRat value ≠ none
  | .float (.finite _) => True
  | _ => False

/-- The first of the objects that is not a finite number is an integer no float can hold. -/
def MeetsTooLarge (M : FloatMath K) : List (PyObject K) → Prop
  | [] => False
  | component :: rest => TooLarge M component ∨ (IsFinite M component ∧ MeetsTooLarge M rest)

theorem anyUnfit_caught_iff (M : FloatMath K) (components : List (PyObject K)) :
    Caught (anyUnfit M components) ↔ ¬MeetsTooLarge M components := by
  induction components with
  | nil => exact iff_of_true (.ok _) id
  | cons component rest inductionHypothesis =>
      cases component with
      | none | bool _ | str _ | commandName _ | gatewayState _ | rejectionCode _ | stopReason _
      | eventName _ | instanceOf _ _ | other =>
          apply iff_of_true (.ok _)
          rintro (⟨⟨⟩⟩ | ⟨⟨⟩, _⟩)
      | int value =>
          unfold MeetsTooLarge
          by_cases tooLarge : M.ofRat value = none
          · refine iff_of_false ?_ (not_not.mpr (.inl tooLarge))
            intro caught
            have raised : anyUnfit M (.int value :: rest) = .error .overflowError := by
              simp [anyUnfit, PyObject.isNumber, PyObject.isfinite, tooLarge]
            exact absurd (caught _ raised) (by decide)
          · have goesOn : anyUnfit M (.int value :: rest) = anyUnfit M rest := by
              simp [anyUnfit, PyObject.isNumber, PyObject.isfinite,
                Option.isSome_iff_ne_none.mpr tooLarge]
            rw [goesOn, inductionHypothesis]
            simp [TooLarge, IsFinite, tooLarge]
      | float value =>
          cases value with
          | finite value =>
              have goesOn : anyUnfit M (.float (.finite value) :: rest) = anyUnfit M rest := rfl
              rw [goesOn, inductionHypothesis]
              simp [MeetsTooLarge, TooLarge, IsFinite]
          | infinity _ | nan =>
              apply iff_of_true (.ok _)
              rintro (⟨⟨⟩⟩ | ⟨⟨⟩, _⟩)

variable [Field K] [LinearOrder K] {M : FloatMath K}

/-- A quaternion with all its attributes, in which an integer is too large. -/
def QuaternionOverflows (M : FloatMath K) (dict : PyDict K) : Prop :=
  ∃ x y z w, dict.get? .x = some x ∧ dict.get? .y = some y ∧ dict.get? .z = some z ∧
    dict.get? .w = some w ∧ MeetsTooLarge M [x, y, z, w]

/-- A position with all its attributes, in which an integer is too large. -/
def PositionOverflows (M : FloatMath K) (dict : PyDict K) : Prop :=
  ∃ x y z, dict.get? .x = some x ∧ dict.get? .y = some y ∧ dict.get? .z = some z ∧
    MeetsTooLarge M [x, y, z]

theorem validateQuaternion_caught_iff (dict : PyDict K) :
    Caught (validateQuaternion M dict) ↔ ¬QuaternionOverflows M dict := by
  unfold validateQuaternion
  simp only [getattr_bind_caught]
  constructor
  · rintro caught ⟨x, y, z, w, isX, isY, isZ, isW, tooLarge⟩
    have checked := (Caught.bind_iff.mp (caught x isX y isY z isZ w isW)).1
    exact (anyUnfit_caught_iff M _).mp checked tooLarge
  · intro fits x isX y isY z isZ w isW
    refine Caught.bind_iff.mpr ⟨(anyUnfit_caught_iff M _).mpr ?_, fun unfit _ => ?_⟩
    · exact fun tooLarge => fits ⟨x, y, z, w, isX, isY, isZ, isW, tooLarge⟩
    · split
      · exact .error rfl
      · split
        · split
          · exact .ok _
          · exact .error rfl
        · exact .error rfl

omit [LinearOrder K] in
theorem validatePosition_caught_iff (dict : PyDict K) :
    Caught (validatePosition M dict) ↔ ¬PositionOverflows M dict := by
  unfold validatePosition
  simp only [getattr_bind_caught]
  constructor
  · rintro caught ⟨x, y, z, isX, isY, isZ, tooLarge⟩
    have checked := (Caught.bind_iff.mp (caught x isX y isY z isZ)).1
    exact (anyUnfit_caught_iff M _).mp checked tooLarge
  · intro fits x isX y isY z isZ
    refine Caught.bind_iff.mpr ⟨(anyUnfit_caught_iff M _).mpr ?_, fun unfit _ => ?_⟩
    · exact fun tooLarge => fits ⟨x, y, z, isX, isY, isZ, tooLarge⟩
    · split
      · exact .error rfl
      · exact .ok _

/-! ## Payloads -/

/-- A pose with its frame whose orientation overflows, or whose orientation is fit and
whose position overflows. -/
inductive PoseOverflows (M : FloatMath K) (dict : PyDict K) : Prop where
  | orientation {orientation : PyDict K}
      (framed : dict.get? .frame = some (.str questLocalFrame))
      (oriented : dict.get? .orientation = some (.instanceOf .quaternion orientation))
      (overflows : QuaternionOverflows M orientation)
  | position {orientation position : PyDict K} {value : Quaternion M}
      (framed : dict.get? .frame = some (.str questLocalFrame))
      (oriented : dict.get? .orientation = some (.instanceOf .quaternion orientation))
      (fit : validateQuaternion M orientation = .ok value)
      (placed : dict.get? .position = some (.instanceOf .position position))
      (overflows : PositionOverflows M position)

omit [Field K] [LinearOrder K] in
theorem requireNonemptyString_caught (value : PyObject K) (fieldName : String) :
    Caught (requireNonemptyString value fieldName) := by
  unfold requireNonemptyString
  split
  · split
    · exact .ok _
    · exact .error rfl
  · exact .error rfl

omit [Field K] [LinearOrder K] in
theorem requireInteger_caught (value : PyObject K) (minimum : ℤ) (wrongType tooSmall : String) :
    Caught (requireInteger value minimum wrongType tooSmall) := by
  unfold requireInteger
  split
  · split
    · exact .ok _
    · exact .error rfl
  · exact .error rfl

omit [Field K] [LinearOrder K] in
theorem requireSchemaVersion_caught (value : PyObject K) :
    Caught (requireSchemaVersion value) := by
  unfold requireSchemaVersion
  split
  · split
    · exact .ok _
    · exact .error rfl
  · exact .error rfl

omit [Field K] [LinearOrder K] in
theorem postInitFrame_caught (value : PyObject K) : Caught (PosePayload.postInitFrame value) := by
  unfold PosePayload.postInitFrame
  split
  · split
    · exact .ok _
    · exact .error rfl
  · exact .error rfl

omit [Field K] [LinearOrder K] in
theorem postInitFrame_ok {value : PyObject K} {frame : { frame : PyStr // frame = questLocalFrame }}
    (checked : PosePayload.postInitFrame value = .ok frame) : value = .str questLocalFrame := by
  unfold PosePayload.postInitFrame at checked
  split at checked
  · split at checked
    · next exact =>
        cases checked
        rw [exact]
    · cases checked
  · cases checked

omit [Field K] [LinearOrder K] in
theorem postInitFrame_questLocalFrame :
    PosePayload.postInitFrame (.str questLocalFrame : PyObject K) =
      .ok ⟨questLocalFrame, rfl⟩ := by
  unfold PosePayload.postInitFrame
  exact dif_pos rfl

theorem postInitOrientation_caught_iff (value : PyObject K) :
    Caught (PosePayload.postInitOrientation M value) ↔
      ¬∃ dict, value = .instanceOf .quaternion dict ∧ QuaternionOverflows M dict := by
  unfold PosePayload.postInitOrientation
  split
  · rw [validateQuaternion_caught_iff]
    simp
  · next notQuaternion =>
      apply iff_of_true (.error rfl)
      rintro ⟨dict, rfl, _⟩
      exact notQuaternion dict rfl

omit [LinearOrder K] in
theorem postInitPosition_caught_iff (dict : PyDict K) :
    Caught (PosePayload.postInitPosition M dict) ↔
      ¬∃ position, dict.get? .position = some (.instanceOf .position position) ∧
        PositionOverflows M position := by
  unfold PosePayload.postInitPosition getattrD
  cases held : dict.get? .position with
  | none =>
      apply iff_of_true (.ok _)
      rintro ⟨_, ⟨⟩, _⟩
  | some value =>
      simp only [Option.getD_some, Option.some.injEq]
      split
      · apply iff_of_true (.ok _)
        rintro ⟨_, ⟨⟩, _⟩
      · rw [Caught.map_iff, validatePosition_caught_iff]
        simp
      · next notPosition =>
          apply iff_of_true (.error rfl)
          rintro ⟨position, rfl, _⟩
          exact notPosition position rfl

theorem postInitOrientation_ok {value : PyObject K} {orientation : Quaternion M}
    (checked : PosePayload.postInitOrientation M value = .ok orientation) :
    ∃ dict, value = .instanceOf .quaternion dict ∧ validateQuaternion M dict = .ok orientation := by
  unfold PosePayload.postInitOrientation at checked
  split at checked
  · exact ⟨_, rfl, checked⟩
  · cases checked

theorem posePostInit_caught_iff (dict : PyDict K) :
    Caught (PosePayload.postInit M dict) ↔ ¬PoseOverflows M dict := by
  unfold PosePayload.postInit
  simp only [getattr_bind_caught]
  constructor
  · intro caught overflows
    cases overflows with
    | @orientation orientation framed oriented overflows =>
        have afterFrame := (Caught.bind_iff.mp (caught _ framed)).2 _ postInitFrame_questLocalFrame
        have checked := (Caught.bind_iff.mp (getattr_bind_caught.mp afterFrame _ oriented)).1
        exact (postInitOrientation_caught_iff _).mp checked ⟨orientation, rfl, overflows⟩
    | @position orientation position value framed oriented fit placed overflows =>
        have afterFrame := (Caught.bind_iff.mp (caught _ framed)).2 _ postInitFrame_questLocalFrame
        have afterOrientation :=
          (Caught.bind_iff.mp (getattr_bind_caught.mp afterFrame _ oriented)).2 value fit
        have checked := (Caught.bind_iff.mp afterOrientation).1
        exact (postInitPosition_caught_iff dict).mp checked ⟨position, placed, overflows⟩
  · intro fits frame framed
    refine Caught.bind_iff.mpr ⟨postInitFrame_caught frame, fun exactFrame isFrame => ?_⟩
    obtain rfl := postInitFrame_ok isFrame
    refine getattr_bind_caught.mpr fun object oriented => Caught.bind_iff.mpr ⟨?_, ?_⟩
    · apply (postInitOrientation_caught_iff object).mpr
      rintro ⟨orientation, rfl, overflows⟩
      exact fits (.orientation framed oriented overflows)
    · intro value checked
      obtain ⟨orientation, rfl, fit⟩ := postInitOrientation_ok checked
      refine Caught.bind_iff.mpr ⟨(postInitPosition_caught_iff dict).mpr ?_, fun _ _ => .ok _⟩
      rintro ⟨position, placed, overflows⟩
      exact fits (.position framed oriented fit placed overflows)

theorem validatePayload_caught_iff (value : PyObject K) :
    Caught (validatePayload M value) ↔
      ¬∃ dict, value = .instanceOf .posePayload dict ∧ PoseOverflows M dict := by
  unfold validatePayload
  split
  · refine iff_of_true (Caught.map_iff.mpr ?_) (by rintro ⟨_, ⟨⟩, _⟩)
    apply getattr_bind_caught.mpr
    intro mode _
    exact Caught.bind_iff.mpr ⟨requireNonemptyString_caught mode _, fun _ _ => .ok _⟩
  · refine iff_of_true (Caught.map_iff.mpr ?_) (by rintro ⟨_, ⟨⟩, _⟩)
    apply getattr_bind_caught.mpr
    intro mode _
    exact Caught.bind_iff.mpr ⟨requireNonemptyString_caught mode _, fun _ _ => .ok _⟩
  · rw [Caught.map_iff, posePostInit_caught_iff]
    simp
  · exact iff_of_true (.ok _) (by rintro ⟨_, ⟨⟩, _⟩)
  · next notPose _ =>
      apply iff_of_true (.error rfl)
      rintro ⟨dict, rfl, _⟩
      exact notPose dict rfl

/-! ## Envelopes -/

/-- The object is an envelope with a session id. -/
def HasSessionId (dict : PyDict K) : Prop :=
  ∃ text, dict.get? .sessionId = some (.str text) ∧ text ≠ []

/-- The object is an envelope with a sequence number. -/
def HasSequence (dict : PyDict K) : Prop :=
  ∃ number, dict.get? .sequence = some (.int number) ∧ 1 ≤ number

/-- The fields of an envelope in front of its payload are what they should be. -/
structure HeaderFits (dict : PyDict K) : Prop where
  version : dict.get? .schemaVersion = some (.str schemaVersion)
  command : ∃ name, dict.get? .command = some (.commandName name)
  sessionId : HasSessionId dict
  sequence : HasSequence dict
  timestampMs : ∃ number, dict.get? .timestampMs = some (.int number) ∧ 0 ≤ number

/-- An envelope, fit but for a pose that overflows. -/
def Overflows (M : FloatMath K) (object : PyObject K) : Prop :=
  ∃ dict payload : PyDict K, object = .instanceOf .commandEnvelope dict ∧ HeaderFits dict ∧
    dict.get? .payload = some (.instanceOf .posePayload payload) ∧ PoseOverflows M payload

omit [Field K] [LinearOrder K] in
theorem requireNonemptyString_ok {value : PyObject K} {fieldName : String}
    {text : { text : PyStr // text ≠ [] }}
    (checked : requireNonemptyString value fieldName = .ok text) :
    value = .str text.1 := by
  unfold requireNonemptyString at checked
  split at checked
  · split at checked
    · cases checked
      rfl
    · cases checked
  · cases checked

omit [Field K] [LinearOrder K] in
theorem requireInteger_ok {value : PyObject K} {minimum : ℤ} {wrongType tooSmall : String}
    {number : { number : ℤ // minimum ≤ number }}
    (checked : requireInteger value minimum wrongType tooSmall = .ok number) :
    value = .int number.1 := by
  unfold requireInteger at checked
  split at checked
  · split at checked
    · cases checked
      rfl
    · cases checked
  · cases checked

omit [Field K] [LinearOrder K] in
theorem requireSchemaVersion_ok {value : PyObject K}
    {version : { version : PyStr // version = schemaVersion }}
    (checked : requireSchemaVersion value = .ok version) : value = .str schemaVersion := by
  unfold requireSchemaVersion at checked
  split at checked
  · split at checked
    · next exact =>
        cases checked
        rw [exact]
    · cases checked
  · cases checked

omit [Field K] [LinearOrder K] in
theorem requireSchemaVersion_schemaVersion :
    requireSchemaVersion (.str schemaVersion : PyObject K) = .ok ⟨schemaVersion, rfl⟩ := by
  unfold requireSchemaVersion
  exact dif_pos rfl

theorem not_caught_of_overflows {dict payload : PyDict K} (header : HeaderFits dict)
    (sent : dict.get? .payload = some (.instanceOf .posePayload payload))
    (overflows : PoseOverflows M payload) : ¬Caught (CommandEnvelope.postInit M dict) := by
  intro caught
  obtain ⟨name, named⟩ := header.command
  obtain ⟨sessionId, identified, nonempty⟩ := header.sessionId
  obtain ⟨sequence, numbered, positive⟩ := header.sequence
  obtain ⟨timestampMs, sampled, nonnegative⟩ := header.timestampMs
  have afterVersion := (Caught.bind_iff.mp (getattr_bind_caught.mp caught _ header.version)).2 _
    requireSchemaVersion_schemaVersion
  have afterCommand := (Caught.bind_iff.mp (getattr_bind_caught.mp afterVersion _ named)).2 name rfl
  have afterSession := (Caught.bind_iff.mp (getattr_bind_caught.mp afterCommand _ identified)).2 _
    (requireNonemptyString_str nonempty _)
  have afterSequence := (Caught.bind_iff.mp (getattr_bind_caught.mp afterSession _ numbered)).2 _
    (requireInteger_int positive _ _)
  have afterTimestamp := (Caught.bind_iff.mp (getattr_bind_caught.mp afterSequence _ sampled)).2 _
    (requireInteger_int nonnegative _ _)
  have checked := (Caught.bind_iff.mp (getattr_bind_caught.mp afterTimestamp _ sent)).1
  exact (validatePayload_caught_iff _).mp checked ⟨payload, rfl, overflows⟩

theorem caught_of_not_overflows {dict : PyDict K}
    (fits : ¬Overflows M (.instanceOf .commandEnvelope dict)) :
    Caught (CommandEnvelope.postInit M dict) := by
  apply getattr_bind_caught.mpr
  intro version isVersion
  refine Caught.bind_iff.mpr ⟨requireSchemaVersion_caught _, fun _ versioned => ?_⟩
  apply getattr_bind_caught.mpr
  intro name isName
  split
  · next command =>
      refine Caught.bind_iff.mpr ⟨.ok command, fun _ _ => ?_⟩
      apply getattr_bind_caught.mpr
      intro sessionId isSessionId
      refine Caught.bind_iff.mpr ⟨requireNonemptyString_caught _ _, fun text identified => ?_⟩
      apply getattr_bind_caught.mpr
      intro sequence isSequence
      refine Caught.bind_iff.mpr ⟨requireInteger_caught _ _ _ _, fun number numbered => ?_⟩
      apply getattr_bind_caught.mpr
      intro timestampMs isTimestampMs
      refine Caught.bind_iff.mpr ⟨requireInteger_caught _ _ _ _, fun time sampled => ?_⟩
      apply getattr_bind_caught.mpr
      intro payload isPayload
      refine Caught.bind_iff.mpr ⟨(validatePayload_caught_iff payload).mpr ?_, fun _ _ => .ok _⟩
      rintro ⟨pose, rfl, overflows⟩
      rw [requireSchemaVersion_ok versioned] at isVersion
      rw [requireNonemptyString_ok identified] at isSessionId
      rw [requireInteger_ok numbered] at isSequence
      rw [requireInteger_ok sampled] at isTimestampMs
      exact fits ⟨dict, pose, rfl, ⟨isVersion, ⟨command, isName⟩, ⟨text.1, isSessionId, text.2⟩,
        ⟨number.1, isSequence, number.2⟩, ⟨time.1, isTimestampMs, time.2⟩⟩, isPayload, overflows⟩
  · exact .error rfl

/-- Validation raises what `handle` does not catch exactly on the envelopes that overflow. -/
theorem validateCommandEnvelope_caught_iff (object : PyObject K) :
    Caught (validateCommandEnvelope M object) ↔ ¬Overflows M object := by
  unfold validateCommandEnvelope
  split
  · next dict =>
      refine ⟨?_, caught_of_not_overflows⟩
      rintro caught ⟨other, payload, ⟨⟩, header, sent, overflows⟩
      exact not_caught_of_overflows header sent overflows caught
  · next notEnvelope =>
      apply iff_of_true (.error rfl)
      rintro ⟨dict, _, rfl, _⟩
      exact notEnvelope dict rfl

end ValeraControlTower

import ValeraControlTower.VrGateway.EventChecks
import ValeraControlTower.VrGateway.EventEncoding
import ValeraControlTower.VrGateway.EventText
import ValeraControlTower.VrGateway.TextFormat

/-!
# `encode_event` fails closed

An event is refused with a `WireError`, or `_parse_json` reads its fields back from the
text.  It is neither where an attribute is missing, where an angle is an integer that no
float can hold, and where a text that passes the checks has a surrogate.
-/

namespace ValeraControlTower

open Unicode Json

variable {K : Type}

namespace Wire

/-! ## The steps of the four encoders -/

section Steps

variable (M : FloatMath K) (dict : PyDict K)

def headerSteps (expected : EventName) : List Step :=
  [reads dict .gatewayMonotonicNs,
    check (Holds dict .gatewayMonotonicNs (IsInt 0)),
    check (dict.getattrD .schemaVersion (.str schemaVersion) = .str schemaVersion),
    check (dict.getattrD .eventType (.eventName expected) = .eventName expected)]

def correlationSteps (required : Bool) : List Step :=
  [reads dict .sessionId,
    reads dict .sequence,
    check (Holds dict .sessionId fun sessionId =>
      Holds dict .sequence (Correlates required sessionId))]

/-- An attribute that has to be a member of an enumeration. -/
def memberSteps {Member : Type} (name : PyAttribute) (object : Member → PyObject K) : List Step :=
  [reads dict name, check (Holds dict name fun value => ∃ member, value = object member)]

def numberSteps (name : PyAttribute) : List Step :=
  [reads dict name, check (Holds dict name fun value => value.isNumber = true)]

/-- `math.isfinite` of an attribute. -/
def finiteStep (name : PyAttribute) : Step :=
  ⟨Holds dict name (TooLarge M), Holds dict name (FiniteAngle M)⟩

/-- What `encode_event` does with an event, in order. -/
def eventSteps : EventName → List Step
  | .gatewayState =>
      headerSteps dict .gatewayState ++ memberSteps dict .state PyObject.gatewayState ++
        correlationSteps dict false
  | .neckTarget =>
      headerSteps dict .neckTarget ++ correlationSteps dict true ++
        numberSteps dict .panDegrees ++ numberSteps dict .tiltDegrees ++
        [finiteStep M dict .panDegrees, finiteStep M dict .tiltDegrees,
          check (∃ hold, dict.getattrD .hold (.bool false) = .bool hold)]
  | .safetyStop =>
      headerSteps dict .safetyStop ++ memberSteps dict .reason PyObject.stopReason ++
        correlationSteps dict false ++
        [check (VisibleText (dict.getattrD .neckAction (.str (py "HOLD_LAST_POSITION")))),
          check (VisibleText (dict.getattrD .baseAction (.str (py "STOP")))),
          check (VisibleText (dict.getattrD .armAction (.str (py "HOLD"))))]
  | .commandRejected =>
      headerSteps dict .commandRejected ++ memberSteps dict .code PyObject.rejectionCode ++
        [reads dict .message, check (Holds dict .message VisibleText)] ++
        correlationSteps dict false

end Steps

variable {M : FloatMath K} {dict : PyDict K}

theorem takes_requireEventHeader (expected : EventName) (name : String) :
    Takes (headerSteps dict expected) (requireEventHeader dict expected name) := by
  apply (takes_getattr .gatewayMonotonicNs).cons
  intro value isThere
  rw [holds_iff isThere]
  apply (takes_validateIntField value _ 0).cons
  intro _ _
  apply (takes_requireEventSchemaVersion _).cons
  intro _ _
  exact takes_requireEventType _ _ _

/-- The two ids and the check of their correlation. -/
theorem takes_correlation {Result : Type} {required : Bool} {steps : List Step}
    {next : PyObject K → PyObject K → Except PyException Result}
    (goesOn : ∀ sessionId sequence, Takes steps (next sessionId sequence)) :
    Takes (correlationSteps dict required ++ steps) (do
      let sessionId ← dict.getattr .sessionId
      let sequence ← dict.getattr .sequence
      validateCorrelation sessionId sequence required
      next sessionId sequence) := by
  apply (takes_getattr .sessionId).cons
  intro sessionId isSession
  apply (takes_getattr .sequence).cons
  intro sequence isSequence
  rw [holds_iff isSession, holds_iff isSequence]
  apply (takes_validateCorrelation sessionId sequence required).cons
  exact fun _ _ => goesOn sessionId sequence

theorem takes_member {Member Result : Type} {name : PyAttribute} {object : Member → PyObject K}
    {steps : List Step} {next : PyObject K → Except PyException Result}
    (isMember : ∀ member, Takes steps (next (object member)))
    (refuses : ∀ value, (¬∃ member, value = object member) →
      ∃ message, next value = .error (.wireError message)) :
    Takes (memberSteps dict name object ++ steps) (dict.getattr name >>= next) := by
  apply (takes_getattr name).cons
  intro value isThere
  rw [holds_iff isThere]
  by_cases member : ∃ member, value = object member
  · obtain ⟨member, rfl⟩ := member
    exact (takes_ok () ⟨member, rfl⟩).cons fun _ _ => isMember member
  · obtain ⟨message, refused⟩ := refuses value member
    rw [refused]
    exact takes_error message member

theorem takes_number {Result : Type} {name : PyAttribute} {label : String}
    {steps : List Step} {next : PyObject K → Except PyException Result}
    (goesOn : ∀ value, dict.getattr name = .ok value → value.isNumber = true →
      Takes steps (next value)) :
    Takes (numberSteps dict name ++ steps) (do
      let value ← dict.getattr name
      requireNumber value label
      next value) := by
  apply (takes_getattr name).cons
  intro value isThere
  rw [holds_iff isThere]
  apply (takes_requireNumber value label).cons
  intro _ passed
  apply goesOn value isThere
  unfold requireNumber at passed
  split at passed
  · assumption
  · cases passed

theorem finiteStep_eq {name : PyAttribute} {value : PyObject K}
    (isThere : dict.getattr name = .ok value) : finiteStep M dict name = finite M value := by
  unfold finiteStep finite
  rw [holds_iff isThere, holds_iff isThere]

/-- The time is read once more for the document. -/
theorem takes_document {expected : EventName} {name : String}
    (passed : requireEventHeader dict expected name = .ok ())
    (document : PyObject K → EventDocument K) :
    Takes [] (dict.getattr .gatewayMonotonicNs >>= fun nowNs => .ok (document nowNs)) := by
  obtain ⟨nowNs, _, isTime⟩ := requireEventHeader_time passed
  rw [isTime]
  exact .nil _

theorem takes_encodeGatewayStateEvent :
    Takes (eventSteps M dict .gatewayState) (encodeGatewayStateEvent dict) := by
  unfold eventSteps
  rw [List.append_assoc]
  apply (takes_requireEventHeader _ _).append
  intro _ passed
  apply takes_member
  · intro state
    rw [← List.append_nil (correlationSteps dict false)]
    apply takes_correlation
    intro sessionId sequence
    exact takes_document passed _
  · intro value other
    cases value with
    | gatewayState state => exact absurd ⟨state, rfl⟩ other
    | none | bool _ | int _ | float _ | str _ | commandName _ | rejectionCode _
    | stopReason _ | eventName _ | instanceOf _ _ | other => exact ⟨_, rfl⟩

theorem takes_encodeSafetyStopEvent :
    Takes (eventSteps M dict .safetyStop) (encodeSafetyStopEvent dict) := by
  unfold eventSteps
  rw [List.append_assoc, List.append_assoc]
  apply (takes_requireEventHeader _ _).append
  intro _ passed
  apply takes_member
  · intro reason
    apply takes_correlation
    intro sessionId sequence
    apply (takes_validateNonEmptyNonWhitespace _ _).cons
    intro _ _
    apply (takes_validateNonEmptyNonWhitespace _ _).cons
    intro _ _
    apply (takes_validateNonEmptyNonWhitespace _ _).cons
    intro _ _
    exact takes_document passed _
  · intro value other
    cases value with
    | stopReason reason => exact absurd ⟨reason, rfl⟩ other
    | none | bool _ | int _ | float _ | str _ | commandName _ | gatewayState _ | rejectionCode _
    | eventName _ | instanceOf _ _ | other => exact ⟨_, rfl⟩

theorem takes_encodeCommandRejectedEvent :
    Takes (eventSteps M dict .commandRejected) (encodeCommandRejectedEvent dict) := by
  unfold eventSteps
  rw [List.append_assoc, List.append_assoc]
  apply (takes_requireEventHeader _ _).append
  intro _ passed
  apply takes_member
  · intro code
    apply (takes_getattr .message).cons
    intro message isMessage
    rw [holds_iff isMessage]
    apply (takes_validateNonEmptyNonWhitespace message _).cons
    intro _ _
    rw [← List.append_nil (correlationSteps dict false)]
    apply takes_correlation
    intro sessionId sequence
    exact takes_document passed _
  · intro value other
    cases value with
    | rejectionCode code => exact absurd ⟨code, rfl⟩ other
    | none | bool _ | int _ | float _ | str _ | commandName _ | gatewayState _ | stopReason _
    | eventName _ | instanceOf _ _ | other => exact ⟨_, rfl⟩

theorem takes_encodeNeckTargetEvent :
    Takes (eventSteps M dict .neckTarget) (encodeNeckTargetEvent M dict) := by
  unfold eventSteps
  simp only [List.append_assoc]
  apply (takes_requireEventHeader _ _).append
  intro _ passed
  apply takes_correlation
  intro sessionId sequence
  apply takes_number
  intro panDegrees isPan panNumber
  apply takes_number
  intro tiltDegrees isTilt tiltNumber
  rw [finiteStep_eq isPan, finiteStep_eq isTilt]
  apply takes_isfinite panNumber rfl
  apply takes_isfinite tiltNumber rfl
  dsimp only
  generalize dict.getattrD .hold (.bool false) = value
  cases value with
  | bool hold =>
      have isHold : Takes [check (∃ known : Bool, PyObject.bool (K := K) hold = .bool known)]
          (.ok hold) := takes_ok hold ⟨hold, rfl⟩
      apply isHold.cons
      rintro _ ⟨⟩
      exact takes_document passed _
  | none | int _ | float _ | str _ | commandName _ | gatewayState _ | rejectionCode _
  | stopReason _ | eventName _ | instanceOf _ _ | other => exact takes_error _ nofun

/-! ## Declared fields -/

/-- A field of an event: its name on the wire, its attribute and the default of its class. -/
structure EventField (K : Type) where
  name : String
  attr : PyAttribute
  default : Option (PyObject K) := none

/-- The value of a field: that of the instance, or else that of its class. -/
def EventField.held (field : EventField K) (dict : PyDict K) : Option (PyObject K) :=
  (dict.get? field.attr).or field.default

def eventClass : EventName → PyClass
  | .gatewayState => .gatewayStateEvent
  | .neckTarget => .neckTargetEvent
  | .safetyStop => .safetyStopEvent
  | .commandRejected => .commandRejectedEvent

/-- The fields all events start with. -/
def headerFields (event : EventName) : List (EventField K) :=
  [⟨"schema_version", .schemaVersion, some (.str schemaVersion)⟩,
    ⟨"event_type", .eventType, some (.eventName event)⟩,
    ⟨"gateway_monotonic_ns", .gatewayMonotonicNs, none⟩]

/-- The fields of an event. -/
def eventFields : EventName → List (EventField K)
  | .gatewayState => headerFields .gatewayState ++ [⟨"state", .state, none⟩,
      ⟨"session_id", .sessionId, none⟩, ⟨"sequence", .sequence, none⟩]
  | .neckTarget => headerFields .neckTarget ++ [⟨"session_id", .sessionId, none⟩,
      ⟨"sequence", .sequence, none⟩, ⟨"pan_degrees", .panDegrees, none⟩,
      ⟨"tilt_degrees", .tiltDegrees, none⟩, ⟨"hold", .hold, some (.bool false)⟩]
  | .safetyStop => headerFields .safetyStop ++ [⟨"reason", .reason, none⟩,
      ⟨"session_id", .sessionId, none⟩, ⟨"sequence", .sequence, none⟩,
      ⟨"neck_action", .neckAction, some (.str (py "HOLD_LAST_POSITION"))⟩,
      ⟨"base_action", .baseAction, some (.str (py "STOP"))⟩,
      ⟨"arm_action", .armAction, some (.str (py "HOLD"))⟩]
  | .commandRejected => headerFields .commandRejected ++ [⟨"code", .code, none⟩,
      ⟨"message", .message, none⟩, ⟨"session_id", .sessionId, none⟩,
      ⟨"sequence", .sequence, none⟩]

/-- A value of an attribute, and the JSON value that stands for it. -/
inductive StandsFor : PyObject K → PyJson K → Prop where
  | none : StandsFor .none .null
  | bool {value : Bool} : StandsFor (.bool value) (.bool value)
  | int {value : ℤ} : StandsFor (.int value) (.num (.int value))
  | float {value : PyFloat K} : StandsFor (.float value) (.num (.float value))
  | str {text : PyStr} : StandsFor (.str text) (.str text)
  | gatewayState {state : GatewayState} : StandsFor (.gatewayState state) (.str state.value)
  | stopReason {reason : StopReason} : StandsFor (.stopReason reason) (.str reason.value)
  | rejectionCode {code : RejectionCode} : StandsFor (.rejectionCode code) (.str code.value)
  | eventName {event : EventName} : StandsFor (.eventName event) (.str event.value)

/-- The members of a JSON object are the fields, in order. -/
abbrev Declares (dict : PyDict K) (fields : List (EventField K)) (members : PyPairs K) : Prop :=
  List.Forall₂ (fun field member => member.1 = py field.name ∧
    ∃ value, field.held dict = some value ∧ StandsFor value member.2) fields members

/-- A JSON object has the fields of an event and no others. -/
def DeclaredBy (object : PyObject K) (document : PyJson K) : Prop :=
  ∃ event dict members declared, object = .instanceOf (eventClass event) dict ∧
    document = .obj members ∧ members.Perm declared ∧ Declares dict (eventFields event) declared

/-- `encode_event` raises a `WireError`, or returns a text that `_parse_json` reads the
fields of the event from. -/
def EncodesFailClosed (M : FloatMath K) (object : PyObject K) : Prop :=
  (∃ message, encodeEvent M object = .error (.wireError message)) ∨
    ∃ text document, encodeEvent M object = .ok text ∧
      parseJson M parseInt (ofChars text) = .ok document ∧ DeclaredBy object document

/-- A text among the fields has a surrogate, paired or not. -/
def HasSurrogate (event : EventName) (dict : PyDict K) : Prop :=
  ∃ field ∈ (eventFields event : List (EventField K)), ∃ text : PyStr,
    field.held dict = some (.str text) ∧ text.any CodePoint.isSurrogate = true

/-- An event that trips a check, or passes all of them with a surrogate. -/
def FailsOpen (M : FloatMath K) (object : PyObject K) : Prop :=
  ∃ event dict, object = .instanceOf (eventClass event) dict ∧
    (Trips (eventSteps M dict event) ∨
      (AllPass (eventSteps M dict event) ∧ HasSurrogate event dict))

/-- `repr` of a finite float of the object is a literal with a fraction or an exponent, which
is read back as the float. -/
def ReprReadsBack (M : FloatMath K) (object : PyObject K) : Prop :=
  ∀ (cls : PyClass) (dict : PyDict K) (name : PyAttribute) (value : K),
    object = .instanceOf cls dict → dict.getattr name = .ok (.float (.finite value)) →
      ∃ literal : Literal, literal.1.isInteger = false ∧ M.repr value = literal.1.text ∧
        M.ofRat literal.1.value = some value

/-! ## Documents -/

/-- A value of an attribute, and what the document holds for it. -/
inductive Spells (M : FloatMath K) : PyObject K → PyObject K → Prop where
  | none : Spells M .none .none
  | bool {value : Bool} : Spells M (.bool value) (.bool value)
  | int {value : ℤ} (short : (Numeral.ofInt value).integer.length ≤ intMaxStrDigits) :
      Spells M (.int value) (.int value)
  | float {value : K} {literal : Literal} (fractional : literal.1.isInteger = false)
      (isText : M.repr value = literal.1.text)
      (readsBack : M.ofRat literal.1.value = some value) :
      Spells M (.float (.finite value)) (.float (.finite value))
  | str {text : PyStr} : Spells M (.str text) (.str text)
  | gatewayState {state : GatewayState} : Spells M (.gatewayState state) (.str state.value)
  | stopReason {reason : StopReason} : Spells M (.stopReason reason) (.str reason.value)
  | rejectionCode {code : RejectionCode} : Spells M (.rejectionCode code) (.str code.value)
  | eventName {event : EventName} : Spells M (.eventName event) (.str event.value)

theorem Spells.serializable {value entry : PyObject K} (spells : Spells M value entry) :
    JsonEncoder.Serializable M entry := by
  cases spells with
  | int short =>
      apply JsonEncoder.serializable_of_ok
      exact if_neg (not_lt.mpr short)
  | none | bool | float _ _ _ | str | gatewayState | stopReason | rejectionCode | eventName => rfl

/-- A value that `_parse_json` accepts inside an object. -/
structure Plain (tree : Document) : Prop where
  distinct : tree.DistinctKeys
  short : ShortIntegers tree
  flat : tree.depth ≤ 1
  proper : tree.Strings Proper

theorem plain_str {text : PyStr} (noSurrogate : text.any CodePoint.isSurrogate = false) :
    Plain (.str (units text)) ∧ codePoints (units text) = text := by
  obtain ⟨chars, rfl⟩ := exists_ofChars noSurrogate
  exact ⟨⟨trivial, trivial, Nat.le_refl 1, wellFormed_utf16 chars⟩, codePoints_utf16 chars⟩

theorem Spells.reads {value entry : PyObject K} (spells : Spells M value entry)
    (noSurrogate : ∀ text, value = .str text → text.any CodePoint.isSurrogate = false) :
    ∃ tree, JsonEncoder.Writes M entry tree ∧ Plain tree ∧ StandsFor value (pyDocument M tree) := by
  have member {value : PyObject K} {text : PyStr} (stands : StandsFor value (.str text))
      (plain : text.any CodePoint.isSurrogate = false) :
      ∃ tree, JsonEncoder.Writes M (.str text) tree ∧ Plain tree ∧
        StandsFor value (pyDocument M tree) := by
    obtain ⟨isPlain, same⟩ := plain_str plain
    refine ⟨_, .str, isPlain, ?_⟩
    change StandsFor value (.str (codePoints (units text)))
    rwa [same]
  cases spells with
  | none => exact ⟨_, .none, ⟨trivial, trivial, Nat.le_refl 1, trivial⟩, .none⟩
  | bool => exact ⟨_, .bool, ⟨trivial, trivial, Nat.le_refl 1, trivial⟩, .bool⟩
  | @int number short =>
      refine ⟨_, .int, ⟨trivial, ?_, Nat.le_refl 1, trivial⟩, ?_⟩
      · rintro ⟨_, long⟩
        exact not_lt.mpr short long
      · change StandsFor _ (.num (pyNumber M (.ofInt number)))
        unfold pyNumber
        rw [if_pos (Numeral.isInteger_ofInt number), Numeral.intValue_ofInt]
        exact .int
  | @float number literal fractional isText readsBack =>
      refine ⟨_, .float literal.2 isText, ⟨trivial, ?_, Nat.le_refl 1, trivial⟩, ?_⟩
      · rintro ⟨isInteger, _⟩
        rw [fractional] at isInteger
        cases isInteger
      · change StandsFor _ (.num (pyNumber M literal.1))
        unfold pyNumber parseFloat
        rw [fractional, readsBack]
        exact .float
  | @str text => exact member .str (noSurrogate text rfl)
  | @gatewayState state => exact member .gatewayState (by cases state <;> rfl)
  | @stopReason reason => exact member .stopReason (by cases reason <;> rfl)
  | @rejectionCode code => exact member .rejectionCode (by cases code <;> rfl)
  | @eventName event => exact member .eventName (by cases event <;> rfl)

/-- A document holds the fields, in order. -/
abbrev Fills (M : FloatMath K) (dict : PyDict K) (fields : List (EventField K))
    (document : EventDocument K) : Prop :=
  List.Forall₂ (fun field entry => entry.1 = py field.name ∧
    ∃ value, field.held dict = some value ∧ Spells M value entry.2) fields document

theorem serializable_of_fills {fields : List (EventField K)} {document : EventDocument K}
    (fills : Fills M dict fields document) :
    ∀ entry ∈ document, JsonEncoder.Serializable M entry.2 := by
  intro entry membership
  obtain ⟨index, isLess, rfl⟩ := List.getElem_of_mem membership
  have isField := (List.forall₂_iff_get.mp fills).2 index (fills.length_eq ▸ isLess) isLess
  obtain ⟨_, value, _, spells⟩ := isField
  exact spells.serializable

/-- The members that are written for fields without surrogates. -/
structure ReadBack (M : FloatMath K) (dict : PyDict K) (fields : List (EventField K))
    (document : EventDocument K) (members : List (List CodeUnit × Document)) : Prop where
  names : members.map Prod.fst = fields.map fun field => utf16 field.name.toList
  written : JsonEncoder.WritesMembers M document members
  declares : Declares dict fields (pyMembers M members)
  distinct : Tree.DistinctKeysMembers members
  short : Tree.NumbersMembers (¬Overlong ·) members
  flat : Tree.depthMembers members ≤ 1
  proper : Tree.StringsMembers Proper members

theorem exists_readBack {fields : List (EventField K)} {document : EventDocument K}
    (fills : Fills M dict fields document)
    (noSurrogate : ∀ field ∈ fields, ∀ text, field.held dict = some (.str text) →
      text.any CodePoint.isSurrogate = false) :
        ∃ members, ReadBack M dict fields document members := by
  induction fills with
  | nil => exact ⟨[], rfl, .nil, .nil, trivial, trivial, Nat.zero_le 1, trivial⟩
  | @cons field entry fields document isField others inductionHypothesis =>
      obtain ⟨isName, value, held, spells⟩ := isField
      obtain ⟨members, rest⟩ := inductionHypothesis fun other membership =>
        noSurrogate other (List.mem_cons_of_mem field membership)
      obtain ⟨tree, writes, plain, stands⟩ := spells.reads fun text isText =>
        noSurrogate field List.mem_cons_self text (isText ▸ held)
      refine ⟨(utf16 field.name.toList, tree) :: members, ?_, ?_, ?_, ?_, ?_, ?_, ?_⟩
      · exact congrArg (List.cons _) rest.names
      · exact .cons ⟨congrArg units isName, writes⟩ rest.written
      · exact .cons ⟨codePoints_utf16 _, value, held, stands⟩ rest.declares
      · exact ⟨plain.distinct, rest.distinct⟩
      · exact ⟨plain.short, rest.short⟩
      · exact max_le plain.flat rest.flat
      · exact ⟨wellFormed_utf16 _, plain.proper, rest.proper⟩

/-! ## Events that pass -/

theorem held_of_getattr {name : String} {attr : PyAttribute} {default : Option (PyObject K)}
    {value : PyObject K} (isThere : dict.getattr attr = .ok value) :
    (EventField.mk name attr default).held dict = some value := by
  unfold EventField.held
  rw [PyDict.getattr_eq_ok.mp isThere]
  rfl

theorem held_of_getattrD {name : String} {attr : PyAttribute} {default value : PyObject K}
    (isValue : dict.getattrD attr default = value) :
    (EventField.mk name attr (some default)).held dict = some value := by
  unfold EventField.held
  rw [← isValue]
  unfold PyDict.getattrD
  cases dict.get? attr with
  | none => rfl
  | some found => rfl

theorem CorrelationIds.spells {sessionId sequence : PyObject K}
    (ids : CorrelationIds sessionId sequence) :
    Spells M sessionId sessionId ∧ Spells M sequence sequence := by
  cases ids with
  | absent => exact ⟨.none, .none⟩
  | present _ _ inRange =>
      exact ⟨.str, .int (JsonEncoder.short_of_inRange (inRange.weaken (by decide)))⟩

theorem VisibleText.spells {value : PyObject K} (visible : VisibleText value) :
    Spells M value value := by
  obtain ⟨text, rfl, _⟩ := visible
  exact .str

theorem FiniteAngle.spells {cls : PyClass} (overflows : M.Overflows)
    (readsBack : ReprReadsBack M (.instanceOf cls dict)) {name : PyAttribute} {value : PyObject K}
    (isThere : dict.getattr name = .ok value)
    (finite : FiniteAngle M value) : Spells M value value := by
  cases finite with
  | @float number =>
      obtain ⟨literal, fractional, isText, sameFloat⟩ := readsBack cls dict name number rfl isThere
      exact .float fractional isText sameFloat
  | @int number float nearest =>
      have short : ¬Overlong (Literal.ofInt number).1 :=
        not_overlong_of_denotes overflows (by rw [Literal.value_ofInt]; exact nearest)
      exact .int (not_lt.mp fun long => short ⟨Numeral.isInteger_ofInt number, long⟩)

theorem fills_header {event : EventName} {nowNs : ℤ} {sessionId sequence : PyObject K}
    (passes : AllPass (headerSteps dict event))
    (attributes : EventAttributes dict nowNs sessionId sequence) {fields : List (EventField K)}
    {document : EventDocument K} (rest : Fills M dict fields document) :
    Fills M dict (headerFields event ++ fields) ((py "schema_version", .str schemaVersion) ::
      (py "event_type", .str event.value) :: (py "gateway_monotonic_ns", .int nowNs) ::
        document) := by
  obtain ⟨_, _, version, isEvent, _⟩ := passes
  refine .cons ⟨rfl, _, held_of_getattrD version, .str⟩ ?_
  refine .cons ⟨rfl, _, held_of_getattrD isEvent, .eventName⟩ ?_
  refine .cons ⟨rfl, _, held_of_getattr attributes.isTime, ?_⟩ rest
  exact .int (JsonEncoder.short_of_inRange attributes.clock)

theorem fills_of_validated {event : EventName}
    (overflows : M.Overflows) (readsBack : ReprReadsBack M (.instanceOf (eventClass event) dict))
    (passes : AllPass (eventSteps M dict event)) {document : EventDocument K}
    (validated : eventToValidatedDict M (.instanceOf (eventClass event) dict) = .ok document) :
    Fills M dict (eventFields event) document := by
  cases event with
  | gatewayState =>
      obtain ⟨nowNs, state, sessionId, sequence, attributes, isState, rfl⟩ :=
        encodeGatewayStateEvent_ok validated
      obtain ⟨session, number⟩ := attributes.ids.spells
      apply fills_header (allPass_append.mp (allPass_append.mp passes).1).1 attributes
      exact .cons ⟨rfl, _, held_of_getattr isState, .gatewayState⟩
        (.cons ⟨rfl, _, held_of_getattr attributes.isSession, session⟩
          (.cons ⟨rfl, _, held_of_getattr attributes.isSequence, number⟩ .nil))
  | neckTarget =>
      obtain ⟨nowNs, sessionId, sequence, panDegrees, tiltDegrees, hold, attributes, _, isPan,
        isTilt, panFinite, tiltFinite, isHold, rfl⟩ := encodeNeckTargetEvent_ok validated
      obtain ⟨session, number⟩ := attributes.ids.spells
      unfold eventSteps at passes
      simp only [List.append_assoc] at passes
      apply fills_header (allPass_append.mp passes).1 attributes
      exact .cons ⟨rfl, _, held_of_getattr attributes.isSession, session⟩
        (.cons ⟨rfl, _, held_of_getattr attributes.isSequence, number⟩
          (.cons ⟨rfl, _, held_of_getattr isPan, panFinite.spells overflows readsBack isPan⟩
            (.cons ⟨rfl, _, held_of_getattr isTilt, tiltFinite.spells overflows readsBack isTilt⟩
              (.cons ⟨rfl, _, held_of_getattrD isHold, .bool⟩ .nil))))
  | safetyStop =>
      obtain ⟨nowNs, reason, sessionId, sequence, neckAction, baseAction, armAction, attributes,
        isReason, isNeck, isBase, isArm, neck, base, arm, rfl⟩ :=
        encodeSafetyStopEvent_ok validated
      obtain ⟨session, number⟩ := attributes.ids.spells
      unfold eventSteps at passes
      simp only [List.append_assoc] at passes
      apply fills_header (allPass_append.mp passes).1 attributes
      exact .cons ⟨rfl, _, held_of_getattr isReason, .stopReason⟩
        (.cons ⟨rfl, _, held_of_getattr attributes.isSession, session⟩
          (.cons ⟨rfl, _, held_of_getattr attributes.isSequence, number⟩
            (.cons ⟨rfl, _, held_of_getattrD isNeck, neck.spells⟩
              (.cons ⟨rfl, _, held_of_getattrD isBase, base.spells⟩
                (.cons ⟨rfl, _, held_of_getattrD isArm, arm.spells⟩ .nil)))))
  | commandRejected =>
      obtain ⟨nowNs, code, message, sessionId, sequence, attributes, isCode, isMessage, visible,
        rfl⟩ := encodeCommandRejectedEvent_ok validated
      obtain ⟨session, number⟩ := attributes.ids.spells
      unfold eventSteps at passes
      simp only [List.append_assoc] at passes
      apply fills_header (allPass_append.mp passes).1 attributes
      exact .cons ⟨rfl, _, held_of_getattr isCode, .rejectionCode⟩
        (.cons ⟨rfl, _, held_of_getattr isMessage, visible.spells⟩
          (.cons ⟨rfl, _, held_of_getattr attributes.isSession, session⟩
            (.cons ⟨rfl, _, held_of_getattr attributes.isSequence, number⟩ .nil)))

theorem takes_eventToValidatedDict (event : EventName) :
    Takes (eventSteps M dict event)
      (eventToValidatedDict M (.instanceOf (eventClass event) dict)) := by
  cases event with
  | gatewayState => exact takes_encodeGatewayStateEvent
  | neckTarget => exact takes_encodeNeckTargetEvent
  | safetyStop => exact takes_encodeSafetyStopEvent
  | commandRejected => exact takes_encodeCommandRejectedEvent

/-- An object of another type is refused. -/
theorem encodeEvent_of_other {object : PyObject K}
    (other : ∀ event dict, object ≠ .instanceOf (eventClass event) dict) :
    ∃ message, encodeEvent M object = .error (.wireError message) := by
  cases object with
  | instanceOf cls dict =>
      cases cls with
      | gatewayStateEvent => exact absurd rfl (other .gatewayState dict)
      | neckTargetEvent => exact absurd rfl (other .neckTarget dict)
      | safetyStopEvent => exact absurd rfl (other .safetyStop dict)
      | commandRejectedEvent => exact absurd rfl (other .commandRejected dict)
      | quaternion | position | sessionStartPayload | modeSetPayload | posePayload
      | emptyPayload | commandEnvelope => exact ⟨_, rfl⟩
  | none | bool _ | int _ | float _ | str _ | commandName _ | gatewayState _ | rejectionCode _
  | stopReason _ | eventName _ | other => exact ⟨_, rfl⟩

theorem nodup_names (event : EventName) :
    ((eventFields event : List (EventField K)).map EventField.name).Nodup := by
  cases event <;> simp [eventFields, headerFields]

theorem ReadBack.readable {event : EventName} {document : EventDocument K}
    {members : List (List CodeUnit × Document)}
    (readBack : ReadBack M dict (eventFields event) document members) :
    Readable (.obj members) where
  distinct := by
    refine ⟨?_, readBack.distinct⟩
    have units : (eventFields event : List (EventField K)).map
        (fun field => utf16 field.name.toList) =
        ((eventFields event : List (EventField K)).map EventField.name).map
          fun name => utf16 name.toList := by
      rw [List.map_map]
      rfl
    rw [readBack.names, units]
    apply (nodup_names event).map
    intro first second same
    exact String.toList_injective (utf16_injective same)
  short := readBack.short
  shallow := by
    have flat := readBack.flat
    change 1 + Tree.depthMembers members ≤ 16
    omega
  proper := readBack.proper

/-- The text of an event without surrogates is read back. -/
theorem parseJson_of_fills {event : EventName} {document : EventDocument K}
    (fills : Fills M dict (eventFields event) document) (plain : ¬HasSurrogate event dict)
    {text : List Char} (dumped : JsonEncoder.dumps M document = .ok text) :
    ∃ members, parseJson M parseInt (ofChars text) = .ok (.obj members) ∧
      Declares dict (eventFields event) members := by
  obtain ⟨members, readBack⟩ := exists_readBack fills fun field membership text held =>
    Bool.eq_false_of_not_eq_true fun surrogate => plain ⟨field, membership, text, held, surrogate⟩
  have derived := (JsonEncoder.derives_dumps_object readBack.written dumped).1
  have denotes : Denotes text (.obj members) :=
    ⟨[], text, [], by simp, .nil, derived, rfl⟩
  exact ⟨_, parseJson_of_denotes M denotes readBack.readable, readBack.declares⟩

/-- What `_parse_json` returns has no surrogates. -/
theorem rejectSurrogates_of_parseJson {source : List Char} {document : PyJson K}
    (parsed : parseJson M parseInt (ofChars source) = .ok document) :
    rejectSurrogates document = .ok () := by
  obtain ⟨tree, _, readable, rfl⟩ := parseJson_sound parsed
  exact (rejectSurrogates_checks M tree).ok_iff.mpr readable.proper

theorem rejectSurrogates_of_mem {members : PyPairs K} {member : PyStr × PyJson K}
    (checked : rejectSurrogatesMembers members = .ok ()) (membership : member ∈ members) :
    rejectSurrogates member.2 = .ok () := by
  induction members with
  | nil => cases membership
  | cons first members inductionHypothesis =>
      obtain ⟨_, _, checked⟩ := bind_eq_ok checked
      obtain ⟨_, isFirst, rest⟩ := bind_eq_ok checked
      rcases List.mem_cons.mp membership with rfl | later
      · exact isFirst
      · exact inductionHypothesis rest later

theorem exists_surrogate_member {event : EventName} {members : PyPairs K}
    (surrogate : HasSurrogate event dict) (declares : Declares dict (eventFields event) members) :
    ∃ member ∈ members, rejectSurrogates member.2 ≠ .ok () := by
  obtain ⟨field, membership, text, held, isSurrogate⟩ := surrogate
  obtain ⟨index, isLess, rfl⟩ := List.getElem_of_mem membership
  have inMembers : index < members.length := declares.length_eq ▸ isLess
  obtain ⟨_, value, same, stands⟩ := (List.forall₂_iff_get.mp declares).2 index isLess inMembers
  refine ⟨members[index], List.getElem_mem inMembers, ?_⟩
  simp only [List.get_eq_getElem] at same stands
  rw [held] at same
  cases same
  generalize members[index].2 = written at stands ⊢
  cases stands
  unfold rejectSurrogates rejectSurrogateString
  rw [if_pos isSurrogate]
  exact nofun

theorem eventClass_injective : Function.Injective eventClass := by
  intro first second same
  cases first <;> cases second <;> first | rfl | cases same

theorem instanceOf_eventClass_inj {event other : EventName} {held : PyDict K}
    (same : PyObject.instanceOf (eventClass event) dict = .instanceOf (eventClass other) held) :
    event = other ∧ dict = held := by
  obtain ⟨sameClass, sameDict⟩ := PyObject.instanceOf.inj same
  exact ⟨eventClass_injective sameClass, sameDict⟩

theorem not_declaredBy {event : EventName} (surrogate : HasSurrogate event dict)
    {source : List Char} {document : PyJson K}
    (parsed : parseJson M parseInt (ofChars source) = .ok document) :
    ¬DeclaredBy (.instanceOf (eventClass event) dict) document := by
  rintro ⟨other, held, members, declared, isObject, rfl, isPerm, declares⟩
  obtain ⟨rfl, rfl⟩ := instanceOf_eventClass_inj isObject
  obtain ⟨member, membership, rejected⟩ := exists_surrogate_member surrogate declares
  have checked := rejectSurrogates_of_parseJson parsed
  exact rejected (rejectSurrogates_of_mem checked (isPerm.mem_iff.mpr membership))

theorem failsOpen_iff {event : EventName} :
    FailsOpen M (.instanceOf (eventClass event) dict) ↔
      Trips (eventSteps M dict event) ∨
        (AllPass (eventSteps M dict event) ∧ HasSurrogate event dict) := by
  constructor
  · rintro ⟨other, held, isObject, fails⟩
    obtain ⟨rfl, rfl⟩ := instanceOf_eventClass_inj isObject
    exact fails
  · exact fun fails => ⟨event, dict, rfl, fails⟩

/-- An event that passes all checks has a text; it is read back without a surrogate only. -/
theorem encodesFailClosed_of_passes {event : EventName}
    (overflows : M.Overflows) (readsBack : ReprReadsBack M (.instanceOf (eventClass event) dict))
    (passes : AllPass (eventSteps M dict event)) {document : EventDocument K}
    (validated : eventToValidatedDict M (.instanceOf (eventClass event) dict) = .ok document) :
    EncodesFailClosed M (.instanceOf (eventClass event) dict) ↔ ¬HasSurrogate event dict := by
  have fills := fills_of_validated overflows readsBack passes validated
  have dumped := JsonEncoder.dumps_ok (serializable_of_fills fills)
  generalize '{' :: JsonEncoder.joinMembers (document.map (JsonEncoder.memberText M)) = text
    at dumped
  have encoded : encodeEvent M (.instanceOf (eventClass event) dict) = .ok text := by
    unfold encodeEvent
    rw [validated]
    change catchSerializationErrors (JsonEncoder.dumps M document) = _
    rw [dumped]
    rfl
  constructor
  · rintro (⟨message, refused⟩ | ⟨other, result, isText, parsed, declared⟩) surrogate
    · rw [encoded] at refused
      cases refused
    · exact not_declaredBy surrogate parsed declared
  · intro plain
    obtain ⟨members, parsed, declares⟩ := parseJson_of_fills fills plain dumped
    exact .inr
      ⟨text, _, encoded, parsed, event, dict, members, members, rfl, rfl, .refl _, declares⟩

/-- `encode_event` fails closed exactly on the objects that do not trip a check and do not
bring a surrogate past all of them. -/
theorem encodesFailClosed_iff (overflows : M.Overflows) {object : PyObject K}
    (readsBack : ReprReadsBack M object) :
    EncodesFailClosed M object ↔ ¬FailsOpen M object := by
  by_cases isEvent : ∃ event dict, object = .instanceOf (eventClass event) dict
  · obtain ⟨event, dict, rfl⟩ := isEvent
    rw [failsOpen_iff, not_or, not_and]
    have takes := @takes_eventToValidatedDict K M dict event
    cases validated : eventToValidatedDict M (.instanceOf (eventClass event) dict) with
    | ok document =>
        rw [validated] at takes
        cases takes with
        | returns passes notTrips =>
            rw [encodesFailClosed_of_passes overflows readsBack passes validated]
            exact ⟨fun plain => ⟨notTrips, fun _ => plain⟩, fun both => both.2 passes⟩
    | error exception =>
        have raised : encodeEvent M (.instanceOf (eventClass event) dict) = .error exception := by
          unfold encodeEvent
          rw [validated]
          rfl
        rw [validated] at takes
        cases takes with
        | @refuses message notPasses notTrips =>
            refine iff_of_true (.inl ⟨message, raised⟩) ⟨notTrips, fun passes => ?_⟩
            exact absurd passes notPasses
        | trips trips other =>
            refine iff_of_false ?_ fun both => both.1 trips
            rintro (⟨message, refused⟩ | ⟨text, _, encoded, _⟩)
            · rw [raised] at refused
              exact other message (Except.error.inj refused)
            · rw [raised] at encoded
              cases encoded
  · have refused : ∃ message, encodeEvent M object = .error (.wireError message) :=
      encodeEvent_of_other fun event dict same => isEvent ⟨event, dict, same⟩
    apply iff_of_true (.inl refused)
    rintro ⟨event, dict, same, _⟩
    exact isEvent ⟨event, dict, same⟩

/-! ## Two events -/

/-- `repr(30.0)` in rational arithmetic. -/
theorem exists_literal_thirty : ∃ literal : Literal, literal.1.isInteger = false ∧
    FloatMath.axis.repr 30 = literal.1.text ∧ FloatMath.axis.ofRat literal.1.value = some 30 := by
  have wellFormed : (⟨false, [3, 0], some [0], none⟩ : Numeral).WellFormed := by
    constructor <;> simp
  have isValue : (⟨false, [3, 0], some [0], none⟩ : Numeral).value = 30 := by
    norm_num [Numeral.value, Numeral.exponentValue, Digit.natValue]
  refine ⟨⟨_, wellFormed⟩, rfl, rfl, ?_⟩
  change FloatMath.axis.ofRat (⟨false, [3, 0], some [0], none⟩ : Numeral).value = _
  rw [isValue]
  have small : (30 : ℤ) < 2 ^ 1024 - 2 ^ 970 := by decide +kernel
  apply if_pos
  rw [abs_of_pos (by norm_num)]
  exact_mod_cast small

/-- A `neck.target` of the gateway. -/
def turned : PyObject ℚ :=
  NeckTargetEvent.toObject {
    gatewayMonotonicNs := 0, sessionId := py "s", sequence := 1, panDegrees := 30,
    tiltDegrees := 30 }

theorem encodesFailClosed_iff_turned :
    EncodesFailClosed FloatMath.axis turned ↔ ¬FailsOpen FloatMath.axis turned := by
  apply encodesFailClosed_iff FloatMath.overflows_axis
  rintro cls dict name value ⟨⟩ found
  cases name with
  | panDegrees | tiltDegrees =>
      cases found
      exact exists_literal_thirty
  | _ => cases found

/-- A `command.rejected` whose message is a lone surrogate. -/
def malformed : CommandRejectedEvent where
  gatewayMonotonicNs := 0
  code := .invalidPayload
  message := [0xD800]
  sessionId := none
  sequence := none

/-- The lone surrogate is written as an escape, which `_parse_json` refuses. -/
theorem not_always_encodesFailClosed : ¬∀ object : PyObject ℚ,
    ReprReadsBack FloatMath.axis object → EncodesFailClosed FloatMath.axis object := by
  intro always
  have surrogate : HasSurrogate .commandRejected [(.gatewayMonotonicNs, .int 0),
      (.code, .rejectionCode .invalidPayload), (.message, .str [0xD800]), (.sessionId, .none),
      (.sequence, .none), (.schemaVersion, .str schemaVersion),
      (.eventType, (.eventName .commandRejected : PyObject ℚ))] :=
    ⟨⟨"message", .message, none⟩, by simp [eventFields], [0xD800], rfl, rfl⟩
  have closed := always malformed.toObject (by
    rintro cls dict name value ⟨⟩ found
    cases name <;> cases found)
  rcases closed with ⟨message, refused⟩ | ⟨text, document, _, parsed, declared⟩
  · cases refused
  · exact not_declaredBy surrogate parsed declared

end Wire

end ValeraControlTower

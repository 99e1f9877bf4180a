import ValeraControlTower.Contract.CodecRoundTrip
import ValeraControlTower.VrGateway.TextFormat

/-!
# Commands from the client to the gateway

A text that `EncodeCommand` returns denotes one document.  `decode_command` reads the same
document and makes the same command of it, unless a text in it is white space for Python
and not for C#.
-/

namespace ValeraControlTower

open Unicode Json Unity Unity.WireCodec StrictJsonParser

variable {K : Type} {M : FloatMath K} {toText : FiniteDouble M → List Char}

/-! ## Texts -/

/-- `str.isspace` of what the string is in Python. -/
def IsBlankText (text : Option CsString) : Prop :=
  ∃ value, text = some value ∧ Wire.isspace (codePoints value) = true

/-- The session id or the mode is white space for Python. -/
def IsBlank : CommandDto M → Prop
  | .modeSet dto =>
      IsBlankText dto.sessionId ∨ ∃ payload, dto.payload = some payload ∧ IsBlankText payload.mode
  | .sessionStart dto => IsBlankText dto.sessionId
  | .sessionStop dto | .emergencyStop dto => IsBlankText dto.sessionId
  | .headPose dto => IsBlankText dto.sessionId
  | .headRecenter dto => IsBlankText dto.sessionId

theorem isBlankText_utf16 {text : List Char} :
    IsBlankText (some (utf16 text)) ↔ Wire.isspace (ofChars text) = true := by
  constructor
  · rintro ⟨_, ⟨⟩, blank⟩
    rwa [codePoints_utf16] at blank
  · intro blank
    exact ⟨_, rfl, by rwa [codePoints_utf16]⟩

/-- An object is blank if the command it holds is. -/
theorem isBlank_iff {dto : CommandDto M} {command : WireCommand} (holds : Holds dto command) :
    IsBlank dto ↔ command.IsBlank := by
  obtain ⟨header, holdsHeader, made⟩ := holds
  have isSession : IsBlankText (some header.sessionId) ↔
      Wire.isspace (ofChars command.sessionId) = true := by
    rw [holdsHeader.isSessionId]
    exact isBlankText_utf16
  unfold WireCommand.IsBlank
  generalize command.command = name at made
  generalize command.payload = wire at made
  cases made with
  | modeSet =>
      refine or_congr isSession ⟨?_, ?_⟩
      · rintro ⟨_, ⟨⟩, blank⟩
        exact ⟨_, rfl, isBlankText_utf16.mp blank⟩
      · rintro ⟨_, ⟨⟩, blank⟩
        exact ⟨_, rfl, isBlankText_utf16.mpr blank⟩
  | sessionStart | sessionStop | emergencyStop | headPose _ _ | headRecenter _ =>
      refine isSession.trans (or_iff_left ?_).symm
      rintro ⟨_, ⟨⟩, _⟩

/-- The limits of the client are those of the gateway. -/
theorem withinLimits_of_checkLimits {text : List Char}
    (within : checkLimits (utf16 text) = .ok ()) : WithinLimits (ofChars text) := by
  unfold checkLimits getByteCount at within
  rw [wellFormed_utf16, codePoints_utf16, if_pos rfl] at within
  dsimp only at within
  split at within
  · cases within
  · next short =>
      split at within
      · cases within
      · next narrow =>
          refine ⟨?_, not_lt.mp narrow⟩
          unfold ofChars
          rw [List.length_map]
          exact (length_le_utf16 text).trans (not_lt.mp short)

/-! ## Commands -/

variable [Field K] [LinearOrder K]

/-- `_parse_json` refuses no document of a command that the client finds acceptable. -/
theorem readable_of_unity (overflows : M.Overflows) {command : WireCommand}
    (acceptable : command.Acceptable M (Reading.unity M)) :
    Wire.Readable command.tree.document := by
  have denoting : (Reading.unity M).Denoting M := by
    intro orientation turns
    obtain ⟨x, y, z, w, denotes, _⟩ := turns
    exact ⟨x, y, z, w, denotes⟩
  have payload := not_overlong_of_payload denoting overflows acceptable.payload
  have bounded : Bounded 4 (fun literal => ¬Overlong literal.1) command.tree :=
    ⟨command.depth_tree, WireCommand.numbers_tree
      (not_overlong_of_integer (by decide) acceptable.sequence)
      (not_overlong_of_integer (by decide) acceptable.timestampMs) payload⟩
  exact readable_of_bounded command.distinctKeys_tree (by decide) bounded

/-- `decode_command` decodes the document of the text. -/
theorem decodeCommand_eq {tree : WireTree} {text : List Char}
    (within : WithinLimits (ofChars text)) (derived : Derives text (.value tree.document))
    (readable : Wire.Readable tree.document) :
    Wire.decodeCommand M (ofChars text) = Wire.decodeDocument M (pyTree M tree) := by
  unfold Wire.decodeCommand
  rw [checkSize_iff.mpr within, Wire.parseJson_of_denotes M
    ⟨[], text, [], by simp, Blank.nil, derived, rfl⟩ readable, pyDocument_document]
  rfl

variable [IsStrictOrderedRing K]

omit [IsStrictOrderedRing K] in
/-- What the gateway reads of a text that the client has encoded. -/
theorem decodeCommand_encoded (roundTrips : RoundTrips M toText) (exact : M.Exact)
    (overflows : M.Overflows) {dto : CommandDto M} {json : CsString}
    (encoded : encodeCommand M toText dto = .ok json) :
    ∃ command : WireCommand, Holds dto command ∧ IsCommand command.tree command ∧
      command.Acceptable M (Reading.loosest M) ∧
      Wire.decodeCommand M (codePoints json) = Wire.decodeDocument M (pyTree M command.tree) := by
  obtain ⟨within, _, command, holds, fits, acceptable, text, rfl, derived⟩ :=
    encodeCommand_ok roundTrips encoded
  refine ⟨command, holds, command.isCommand_tree fits,
    ((acceptable_unity_iff exact).mp acceptable).1, ?_⟩
  rw [codePoints_utf16]
  exact decodeCommand_eq (withinLimits_of_checkLimits within) derived
    (readable_of_unity overflows acceptable)

/-- A command that is white space for Python is refused. -/
theorem not_isBlank_of_decoded (roundTrips : RoundTrips M toText) (exact : M.Exact)
    (overflows : M.Overflows) {dto : CommandDto M} {json : CsString}
    (encoded : encodeCommand M toText dto = .ok json) {envelope : CommandEnvelope M}
    (decoded : Wire.decodeCommand M (codePoints json) = .ok envelope) : ¬IsBlank dto := by
  obtain ⟨command, holds, isCommand, _, same⟩ :=
    decodeCommand_encoded roundTrips exact overflows encoded
  rw [same] at decoded
  obtain ⟨command', isCommand', acceptable, _⟩ := decodeDocument_iff.mp decoded
  cases isCommand.unique isCommand'
  rw [isBlank_iff holds]
  exact ((acceptable_python_iff exact).mp acceptable).2

/-- What the client encodes the gateway decodes to the same command, unless its session id
or its mode is white space for Python. -/
theorem decodesEncoded_iff (roundTrips : RoundTrips M toText) (exact : M.Exact)
    (overflows : M.Overflows) {dto : CommandDto M} {json : CsString}
    (encoded : encodeCommand M toText dto = .ok json) :
    (∃ envelope, Wire.decodeCommand M (codePoints json) = .ok envelope ∧
      SameCommand envelope dto) ↔ ¬IsBlank dto := by
  constructor
  · rintro ⟨envelope, decoded, _⟩
    exact not_isBlank_of_decoded roundTrips exact overflows encoded decoded
  · intro shown
    obtain ⟨command, holds, isCommand, loosest, same⟩ :=
      decodeCommand_encoded roundTrips exact overflows encoded
    rw [isBlank_iff holds] at shown
    have acceptable := (acceptable_python_iff exact).mpr ⟨loosest, shown⟩
    obtain ⟨envelope, decoded⟩ := exists_decodeDocument_iff.mpr ⟨command, isCommand, acceptable⟩
    obtain ⟨command', isCommand', _, holds'⟩ := decodeDocument_iff.mp decoded
    cases isCommand.unique isCommand'
    exact ⟨envelope, same.trans decoded, sameCommand_of_holds holds' holds⟩

/-! ## A command -/

theorem FloatMath.overflows_integers : FloatMath.integers.Overflows := by
  intro value large
  refine if_neg fun whole => absurd (whole.2.trans_lt ?_) (not_lt.mpr large)
  calc (2 : ℚ) ^ 53 + 1 < 10 ^ 16 := by norm_num
    _ ≤ 10 ^ intMaxStrDigits := pow_le_pow_right₀ (by norm_num) (by decide)

/-- A `session.stop` under an id. -/
def stopDto (M : FloatMath ℝ) (sessionId : List Char) : CommandDto M :=
  .sessionStop ⟨some WireValues.schemaVersion, some WireValues.sessionStop,
    some (utf16 sessionId), ⟨1, by decide⟩, ⟨0, by decide⟩, some ⟨⟩⟩

/-- Its text, where the id needs no escape but `\u001C`. -/
def stopJson (sessionId : String) : CsString :=
  cs ("\x7b\"schema_version\":\"0.1\",\"command\":\"session.stop\",\"session_id\":\"" ++
    sessionId ++ "\",\"sequence\":1,\"timestamp_ms\":0,\"payload\":\x7b\x7d\x7d")

set_option maxRecDepth 4000 in
theorem encodeCommand_stopDto :
    encodeCommand FloatMath.integers integerText (stopDto FloatMath.integers ['s']) =
      .ok (stopJson "s") := rfl

theorem decodesEncoded_iff_stop :
    (∃ envelope, Wire.decodeCommand FloatMath.integers (codePoints (stopJson "s")) = .ok envelope ∧
      SameCommand envelope (stopDto FloatMath.integers ['s'])) ↔
      ¬IsBlank (stopDto FloatMath.integers ['s']) :=
  decodesEncoded_iff roundTrips_integers FloatMath.exact_integers FloatMath.overflows_integers
    encodeCommand_stopDto

set_option maxRecDepth 4000 in
/-- The client sends a file separator for an id, and the gateway takes it for white space. -/
theorem not_always_decodesEncoded :
    ¬∀ (dto : CommandDto FloatMath.integers) (json : CsString),
      encodeCommand FloatMath.integers integerText dto = .ok json →
      ∃ envelope, Wire.decodeCommand FloatMath.integers (codePoints json) = .ok envelope ∧
        SameCommand envelope dto := by
  intro always
  have encoded : encodeCommand FloatMath.integers integerText
      (stopDto FloatMath.integers ['\x1c']) = .ok (stopJson "\\u001C") := rfl
  obtain ⟨envelope, decoded, _⟩ := always _ _ encoded
  refine not_isBlank_of_decoded roundTrips_integers FloatMath.exact_integers
    FloatMath.overflows_integers encoded decoded ?_
  exact isBlankText_utf16.mpr (by decide)

end ValeraControlTower

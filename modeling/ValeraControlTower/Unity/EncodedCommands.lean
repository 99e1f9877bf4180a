import ValeraControlTower.Unity.CommandReading
import ValeraControlTower.Unity.EncodedText

/-!
# The documents `EncodeCommand` writes

Where the text is well formed, it denotes the document of a command that the object
holds.
-/

namespace ValeraControlTower.Unity.WireCodec

open Unicode Json CsString StrictJsonParser

/-! ## Members -/

/-- What was appended is a member. -/
def Appends (appended : CsString) (name : String) (tree : WireTree) : Prop :=
  ∃ text, appended = utf16 text ∧ WritesMember text (utf16 name.toList, tree.document)

/-- A name whose characters stand for themselves. -/
def Plain (name : String) : Prop :=
  ∀ char ∈ name.toList, 0x20 ≤ char.toNat ∧ char ≠ '"' ∧ char ≠ '\\'

instance (name : String) : Decidable (Plain name) := List.decidableBAll _ _

/-- The value behind a name. -/
theorem appends_value {name : String} (plain : Plain name) {text : List Char} {tree : WireTree}
    (derived : Derives text (.value tree.document)) :
    Appends (appendName name ++ utf16 text) name tree := by
  refine ⟨memberText name.toList text, ?_, .member (stringBody_plain plain) derived⟩
  unfold appendName memberText
  change utf16 ['"'] ++ utf16 name.toList ++ utf16 ['"', ':'] ++ utf16 text = _
  rw [← utf16_append, ← utf16_append, ← utf16_append]
  simp

theorem appends_long {name : String} (plain : Plain name) (value : CsLong) :
    Appends (appendLong name value) name (.num (.ofInt value.1)) :=
  appends_value plain (.number (Numeral.wellFormed_ofInt value.1))

/-- A string, where the text it is in is well formed. -/
theorem appends_string {name : String} (plain : Plain name) {text rest : CsString}
    (proper : wellFormed (appendString name (some text) ++ rest) = true) :
    ∃ chars, text = utf16 chars ∧ Appends (appendString name (some text)) name (.str chars) ∧
      wellFormed rest = true := by
  have shape : appendString name (some text) ++ rest =
      utf16 ('"' :: (name.toList ++ ['"', ':', '"'])) ++
        (text.flatMap appendChar ++ CodeUnit.ofChar '"' :: rest) := by
    change cs "\"" ++ cs name ++ cs "\":" ++ (cs "\"" ++ text.flatMap appendChar ++ cs "\"") ++
      rest = _
    rw [← List.cons_append, utf16_append]
    simp only [List.append_assoc]
    rfl
  rw [shape, wellFormed_utf16_append] at proper
  obtain ⟨body, isBody, denotes, paired, remains⟩ := written text rest proper
  obtain ⟨chars, rfl⟩ := exists_utf16 paired
  refine ⟨chars, rfl, ?_, ?_⟩
  · have appended : appendString name (some (utf16 chars)) =
        appendName name ++ utf16 ('"' :: (body ++ ['"'])) := by
      unfold appendString
      dsimp only
      rw [isBody, utf16_basic (by decide), utf16_append]
      rfl
    rw [appended]
    exact appends_value plain (.string denotes)
  · rwa [wellFormed_cons (by decide)] at remains

/-- What was appended to it is well-formed. -/
theorem Appends.proper {appended rest : CsString} {name : String} {tree : WireTree}
    (appends : Appends appended name tree) :
    wellFormed (appended ++ rest) = wellFormed rest := by
  obtain ⟨text, rfl, _⟩ := appends
  exact wellFormed_utf16_append text rest

/-! ## Objects -/

/-- Members in order. -/
abbrev AppendsAll (pieces : List CsString) (members : List (String × WireTree)) : Prop :=
  List.Forall₂ (fun piece member => Appends piece member.1 member.2) pieces members

theorem AppendsAll.cons {piece : CsString} {name : String} {tree : WireTree}
    {pieces : List CsString} {members : List (String × WireTree)}
    (isMember : Appends piece name tree)
    (others : AppendsAll pieces members) :
    AppendsAll (piece :: pieces) ((name, tree) :: members) :=
  List.Forall₂.cons isMember others

theorem AppendsAll.nil : AppendsAll [] [] := List.Forall₂.nil

def objectTree (members : List (String × WireTree)) : WireTree :=
  .obj (members.map fun member => (member.1.toList, member.2))

theorem exists_texts {pieces : List CsString} {members : List (String × WireTree)}
    (appends : AppendsAll pieces members) :
    ∃ texts, pieces = texts.map utf16 ∧ List.Forall₂ WritesMember texts
      (members.map fun member => (utf16 member.1.toList, member.2.document)) := by
  induction appends with
  | nil => exact ⟨[], rfl, .nil⟩
  | cons isMember others inductionHypothesis =>
      obtain ⟨text, rfl, writes⟩ := isMember
      obtain ⟨texts, rfl, written⟩ := inductionHypothesis
      exact ⟨text :: texts, rfl, .cons writes written⟩

theorem utf16_intercalate (texts : List (List Char)) :
    utf16 (List.intercalate [','] texts) = List.intercalate (cs ",") (texts.map utf16) := by
  induction texts with
  | nil => rfl
  | cons text texts inductionHypothesis =>
      cases texts with
      | nil => simp
      | cons second texts =>
          rw [intercalate_cons (List.cons_ne_nil _ _), utf16_append, utf16_basic (by decide),
            inductionHypothesis]
          rfl

/-- Members between braces, joined by commas. -/
theorem exists_objectText {pieces : List CsString} {members : List (String × WireTree)}
    (appends : AppendsAll pieces members) :
    ∃ text, cs "\x7b" ++ (List.intercalate (cs ",") pieces ++ cs "\x7d") = utf16 text ∧
      Derives text (.value (objectTree members).document) := by
  obtain ⟨texts, rfl, written⟩ := exists_texts appends
  refine ⟨objectText texts, ?_, ?_⟩
  · unfold objectText
    rw [utf16_basic (by decide), utf16_append, utf16_intercalate]
    rfl
  · have same : (objectTree members).document =
        .obj (members.map fun member => (utf16 member.1.toList, member.2.document)) := by
      change Tree.obj (Tree.mapMembers utf16 Subtype.val
        (members.map fun member => (member.1.toList, member.2))) = _
      rw [Tree.mapMembers_eq_map, List.map_map]
      rfl
    rw [same]
    exact derives_objectText written

/-! ## Headers -/

theorem requireNonEmpty_ok {value : Option CsString} {name : String}
    (passed : requireNonEmpty value name = .ok ()) :
    ∃ text, value = some text ∧ text ≠ [] ∧ isWhiteSpaceOnly text = false := by
  cases value with
  | none => cases passed
  | some text =>
      unfold requireNonEmpty at passed
      dsimp only at passed
      split at passed
      · cases passed
      · next shown =>
          rw [Bool.or_eq_true, not_or, List.isEmpty_iff, Bool.not_eq_true] at shown
          exact ⟨text, rfl, shown⟩

/-- What a command that passed the first checks is like. -/
theorem validateCommand_ok {Payload : Type} {dto : CommandFields Payload} {expected : CsString}
    {payload : Payload} (valid : validateCommand dto expected = .ok payload) :
    ∃ sessionId, dto = ⟨some WireValues.schemaVersion, some expected, some sessionId, dto.sequence,
      dto.timestampMs, some payload⟩ ∧ sessionId ≠ [] ∧ isWhiteSpaceOnly sessionId = false ∧
      1 ≤ dto.sequence.1 ∧ 0 ≤ dto.timestampMs.1 := by
  obtain ⟨schemaVersion, command, sessionId, sequence, timestampMs, payload'⟩ := dto
  obtain ⟨_, isHeader, valid⟩ := bind_eq_ok valid
  obtain ⟨_, isSession, valid⟩ := bind_eq_ok valid
  obtain ⟨_, isSequence, valid⟩ := bind_eq_ok valid
  obtain ⟨_, isTimestamp, valid⟩ := bind_eq_ok valid
  obtain ⟨text, rfl, nonempty, visible⟩ := requireNonEmpty_ok isSession
  unfold validateCommandHeader at isHeader
  split at isHeader
  · cases isHeader
  · next version =>
      split at isHeader
      · cases isHeader
      · next name =>
          unfold requireSequence at isSequence
          split at isSequence
          · cases isSequence
          · next positive =>
              unfold requireTimestamp at isTimestamp
              split at isTimestamp
              · cases isTimestamp
              · next nonnegative =>
                  cases payload' with
                  | none => cases valid
                  | some payload' =>
                      cases valid
                      cases not_not.mp version
                      cases not_not.mp name
                      exact ⟨text, rfl, nonempty, visible, not_lt.mp positive,
                        not_lt.mp nonnegative⟩

theorem appendCommand_eq {Payload : Type} (dto : CommandFields Payload) (inner : CsString) :
    appendCommand dto ++ (inner ++ cs "\x7d\x7d") =
      cs "\x7b" ++ (List.intercalate (cs ",") [appendString "schema_version" dto.schemaVersion,
        appendString "command" dto.command, appendString "session_id" dto.sessionId,
        appendLong "sequence" dto.sequence, appendLong "timestamp_ms" dto.timestampMs,
        appendName "payload" ++ (cs "\x7b" ++ (inner ++ cs "\x7d"))] ++ cs "\x7d") := by
  have braces : cs "\x7d\x7d" = cs "\x7d" ++ cs "\x7d" := rfl
  have opened : cs "\":\x7b" = cs "\":" ++ cs "\x7b" := rfl
  unfold appendCommand appendName
  rw [braces, opened]
  simp [List.intercalate]

/-- The text of a command around its payload. -/
theorem command_text {Payload : Type} {dto : CommandFields Payload} {payload : Payload}
    {name : CommandName} (valid : validateCommand dto (cs name.wire) = .ok payload)
    {inner : CsString}
    (proper : wellFormed (appendCommand dto ++ (inner ++ cs "\x7d\x7d")) = true) :
    ∃ chars, dto.sessionId = some (utf16 chars) ∧ wellFormed (inner ++ cs "\x7d\x7d") = true ∧
      ∀ (wire : WirePayload) (text : List Char), cs "\x7b" ++ (inner ++ cs "\x7d") = utf16 text →
        Derives text (.value wire.tree.document) →
        ∃ whole, appendCommand dto ++ (inner ++ cs "\x7d\x7d") = utf16 whole ∧
          Derives whole (.value (WireCommand.tree ⟨name, chars, .ofInt dto.sequence.1,
            .ofInt dto.timestampMs.1, wire⟩).document) := by
  obtain ⟨sessionId, same, _⟩ := validateCommand_ok valid
  generalize dto.sequence = sequence at same
  generalize dto.timestampMs = timestampMs at same
  subst same
  rw [appendCommand_eq]
  unfold appendCommand at proper
  simp only [List.append_assoc] at proper
  have literal (text : String) (rest : CsString) : wellFormed (cs text ++ rest) = wellFormed rest :=
    wellFormed_utf16_append text.toList rest
  rw [literal] at proper
  obtain ⟨version, sameVersion, isVersion, proper⟩ := appends_string (by decide) proper
  rw [literal] at proper
  obtain ⟨command, sameCommand, isCommand, proper⟩ := appends_string (by decide) proper
  rw [literal] at proper
  obtain ⟨chars, rfl, isSession, proper⟩ := appends_string (by decide) proper
  have isSequence := @appends_long "sequence" (by decide) sequence
  have isTimestamp := @appends_long "timestamp_ms" (by decide) timestampMs
  rw [literal, isSequence.proper, literal, isTimestamp.proper, literal, literal, literal,
    literal] at proper
  cases utf16_injective sameVersion
  cases utf16_injective sameCommand
  refine ⟨chars, rfl, proper, fun wire text isText derived => ?_⟩
  have isPayload : Appends (appendName "payload" ++ (cs "\x7b" ++ (inner ++ cs "\x7d"))) "payload"
      wire.tree := by
    rw [isText]
    exact appends_value (by decide) derived
  have isTree : WireCommand.tree ⟨name, chars, .ofInt sequence.1, .ofInt timestampMs.1, wire⟩ =
      objectTree [("schema_version", .str "0.1".toList), ("command", .str name.wire.toList),
        ("session_id", .str chars), ("sequence", .num (.ofInt sequence.1)),
        ("timestamp_ms", .num (.ofInt timestampMs.1)), ("payload", wire.tree)] := rfl
  have appends := AppendsAll.cons isVersion (AppendsAll.cons isCommand (AppendsAll.cons isSession
    (AppendsAll.cons isSequence (AppendsAll.cons isTimestamp
      (AppendsAll.cons isPayload AppendsAll.nil)))))
  rw [isTree]
  exact exists_objectText appends

/-! ## Numbers -/

variable {K : Type} {M : FloatMath K} {toText : FiniteDouble M → List Char}

/-- Formatting writes a number literal that is read as the same `double`. -/
def RoundTrips (M : FloatMath K) (toText : FiniteDouble M → List Char) : Prop :=
  ∀ value, ∃ literal : Literal, toText value = literal.1.text ∧
    M.ofRat literal.1.value = some value.1

theorem appends_double (roundTrips : RoundTrips M toText) {name : String} (plain : Plain name)
    {dto : CsDouble M} {appended : CsString}
    (encoded : appendDouble toText name dto = .ok appended) :
    ∃ literal, HoldsNumber M dto literal ∧ Appends appended name (.num literal) := by
  cases dto with
  | infinity _ | nan => cases encoded
  | finite value =>
      cases encoded
      obtain ⟨literal, same, isValue⟩ := roundTrips value
      rw [same]
      exact ⟨literal, isValue, appends_value plain (.number literal.2)⟩

/-- An object of members behind its name. -/
theorem appends_object {name : String} (plain : Plain name) {pieces : List CsString}
    {members : List (String × WireTree)} (appends : AppendsAll pieces members) :
    Appends (appendName name ++ (cs "\x7b" ++ (List.intercalate (cs ",") pieces ++ cs "\x7d"))) name
      (objectTree members) := by
  obtain ⟨text, isText, derived⟩ := exists_objectText appends
  rw [isText]
  exact appends_value plain derived

theorem appends_quaternion (roundTrips : RoundTrips M toText) {dto : QuaternionDto M}
    {appended : CsString} (encoded : appendQuaternion toText dto = .ok appended) :
    ∃ orientation, HoldsOrientation dto orientation ∧
      Appends appended "orientation" orientation.tree := by
  obtain ⟨_, isX, encoded⟩ := bind_eq_ok encoded
  obtain ⟨_, isY, encoded⟩ := bind_eq_ok encoded
  obtain ⟨_, isZ, encoded⟩ := bind_eq_ok encoded
  obtain ⟨_, isW, encoded⟩ := bind_eq_ok encoded
  obtain ⟨x, holdsX, appendsX⟩ := appends_double roundTrips (by decide) isX
  obtain ⟨y, holdsY, appendsY⟩ := appends_double roundTrips (by decide) isY
  obtain ⟨z, holdsZ, appendsZ⟩ := appends_double roundTrips (by decide) isZ
  obtain ⟨w, holdsW, appendsW⟩ := appends_double roundTrips (by decide) isW
  refine ⟨⟨x, y, z, w⟩, ⟨holdsX, holdsY, holdsZ, holdsW⟩, ?_⟩
  cases encoded
  have opened : cs "\":\x7b" = cs "\":" ++ cs "\x7b" := rfl
  have isTree : WireOrientation.tree ⟨x, y, z, w⟩ =
      objectTree [("x", .num x), ("y", .num y), ("z", .num z), ("w", .num w)] := rfl
  rw [opened, isTree]
  convert @appends_object "orientation" (by decide) _ _ (AppendsAll.cons appendsX
    (AppendsAll.cons appendsY (AppendsAll.cons appendsZ (AppendsAll.cons appendsW AppendsAll.nil))))
    using 1
  simp [appendName, List.intercalate]

theorem appends_position (roundTrips : RoundTrips M toText) {dto : PositionDto M}
    {appended : CsString} (encoded : appendPosition toText dto = .ok appended) :
    ∃ position, HoldsPosition dto position ∧ Appends appended "position" position.tree := by
  obtain ⟨_, isX, encoded⟩ := bind_eq_ok encoded
  obtain ⟨_, isY, encoded⟩ := bind_eq_ok encoded
  obtain ⟨_, isZ, encoded⟩ := bind_eq_ok encoded
  obtain ⟨x, holdsX, appendsX⟩ := appends_double roundTrips (by decide) isX
  obtain ⟨y, holdsY, appendsY⟩ := appends_double roundTrips (by decide) isY
  obtain ⟨z, holdsZ, appendsZ⟩ := appends_double roundTrips (by decide) isZ
  refine ⟨⟨x, y, z⟩, ⟨holdsX, holdsY, holdsZ⟩, ?_⟩
  cases encoded
  have opened : cs "\":\x7b" = cs "\":" ++ cs "\x7b" := rfl
  have isTree : WirePosition.tree ⟨x, y, z⟩ =
      objectTree [("x", .num x), ("y", .num y), ("z", .num z)] := rfl
  rw [opened, isTree]
  convert @appends_object "position" (by decide) _ _ (AppendsAll.cons appendsX
    (AppendsAll.cons appendsY (AppendsAll.cons appendsZ AppendsAll.nil))) using 1
  simp [appendName, List.intercalate]

/-! ## Commands -/

/-- The text denotes the document of a command that the object holds. -/
def Writes (dto : CommandDto M) (json : CsString) : Prop :=
  ∃ command : WireCommand, command.payload.Fits command.command ∧ Holds dto command ∧
    ∃ text, json = utf16 text ∧ Derives text (.value command.tree.document)

/-- The object is one with a header and the payload of its class. -/
theorem dto_eq {Payload : Type} {dto : CommandFields Payload} {payload : Payload}
    {expected : CsString} (valid : validateCommand dto expected = .ok payload) {chars : List Char}
    (isSession : dto.sessionId = some (utf16 chars)) :
    dto = Header.fields ⟨expected, utf16 chars, dto.sequence, dto.timestampMs⟩ payload := by
  obtain ⟨sessionId, same, _⟩ := validateCommand_ok valid
  rw [same] at isSession ⊢
  cases isSession
  rfl

theorem holds_header (name : CommandName) (chars : List Char) (sequence timestampMs : CsLong)
    (wire : WirePayload) :
    Header.Holds ⟨cs name.wire, utf16 chars, sequence, timestampMs⟩
      ⟨name, chars, .ofInt sequence.1, .ofInt timestampMs.1, wire⟩ :=
  ⟨rfl, rfl, (Numeral.intValue_ofInt sequence.1).symm, (Numeral.intValue_ofInt timestampMs.1).symm⟩

/-- A command whose payload was written. -/
theorem writes_of_payload {Payload : Type} {fields : CommandFields Payload} {payload : Payload}
    {name : CommandName} (valid : validateCommand fields (cs name.wire) = .ok payload)
    {wire : WirePayload} (fits : wire.Fits name) {dto : CommandDto M}
    (made : ∀ header : Header, fields = header.fields payload → Made header dto name wire)
    {inner : CsString}
    (proper : wellFormed (appendCommand fields ++ (inner ++ cs "\x7d\x7d")) = true)
    {text : List Char} (isText : cs "\x7b" ++ (inner ++ cs "\x7d") = utf16 text)
    (derived : Derives text (.value wire.tree.document)) :
    Writes dto (appendCommand fields ++ (inner ++ cs "\x7d\x7d")) := by
  obtain ⟨chars, isSession, _, written⟩ := command_text valid proper
  obtain ⟨whole, isWhole, isDocument⟩ := written wire text isText derived
  exact ⟨_, fits, ⟨_, holds_header name chars fields.sequence fields.timestampMs wire,
    made _ (dto_eq valid isSession)⟩, whole, isWhole, isDocument⟩

/-- The inside of a payload of one member. -/
theorem payload_text {inner : CsString} {name : String} {tree : WireTree}
    (appends : Appends inner name tree) :
    ∃ text, cs "\x7b" ++ (inner ++ cs "\x7d") = utf16 text ∧
      Derives text (.value (objectTree [(name, tree)]).document) := by
  obtain ⟨text, isText, derived⟩ := exists_objectText (AppendsAll.cons appends AppendsAll.nil)
  refine ⟨text, ?_, derived⟩
  rw [← isText]
  simp [List.intercalate]

theorem requireStringExact_ok {value : Option CsString} {name : String} {expected : CsString}
    (passed : requireStringExact value name expected = .ok ()) : value = some expected := by
  unfold requireStringExact at passed
  split at passed
  · cases passed
  · next same => exact not_not.mp same

theorem requireModeString_ok {mode : Option CsString} (passed : requireModeString mode = .ok ()) :
    ∃ text, mode = some text := by
  cases mode with
  | none => cases passed
  | some text => exact ⟨text, rfl⟩

/-- A command whose payload is one string. -/
theorem writes_string {Payload : Type} {fields : CommandFields Payload} {payload : Payload}
    {name : CommandName} (valid : validateCommand fields (cs name.wire) = .ok payload)
    {member : String} (plain : Plain member) {value : CsString} {wire : List Char → WirePayload}
    (isTree : ∀ chars, value = utf16 chars →
      (wire chars).tree = objectTree [(member, .str chars)])
    (fits : ∀ chars, value = utf16 chars → (wire chars).Fits name) {dto : CommandDto M}
    (made : ∀ (header : Header) (chars : List Char), value = utf16 chars →
      fields = header.fields payload → Made header dto name (wire chars))
    (proper : wellFormed
      (appendCommand fields ++ appendString member (some value) ++ cs "\x7d\x7d") = true) :
    Writes dto (appendCommand fields ++ appendString member (some value) ++ cs "\x7d\x7d") := by
  rw [List.append_assoc] at proper ⊢
  obtain ⟨_, _, remains, _⟩ := command_text valid proper
  obtain ⟨chars, same, appends, _⟩ := appends_string plain remains
  obtain ⟨text, isText, derived⟩ := payload_text appends
  rw [← isTree chars same] at derived
  exact writes_of_payload valid (fits chars same) (fun header => made header chars same) proper
    isText derived

theorem writes_sessionStart {fields : CommandFields SessionStartPayloadDto} {json : CsString}
    (encoded : encodeSessionStart fields = .ok json) (proper : wellFormed json = true) :
    Writes (M := M) (.sessionStart fields) json := by
  obtain ⟨⟨requestedMode⟩, valid, encoded⟩ := bind_eq_ok encoded
  obtain ⟨_, isExact, encoded⟩ := bind_eq_ok encoded
  cases encoded
  cases requireStringExact_ok isExact
  refine @writes_string _ _ _ _ _ .sessionStart valid "requested_mode" (by decide) (cs "head")
    (fun _ => .sessionStart) ?_ (fun _ _ => trivial) _ ?_ proper
  · intro chars same
    cases utf16_injective same
    rfl
  · rintro header _ _ rfl
    exact .sessionStart

theorem writes_modeSet {fields : CommandFields ModeSetPayloadDto} {json : CsString}
    (encoded : encodeModeSet fields = .ok json) (proper : wellFormed json = true) :
    Writes (M := M) (.modeSet fields) json := by
  obtain ⟨⟨mode⟩, valid, encoded⟩ := bind_eq_ok encoded
  obtain ⟨_, isMode, encoded⟩ := bind_eq_ok encoded
  cases encoded
  obtain ⟨text, rfl⟩ := requireModeString_ok isMode
  refine @writes_string _ _ _ _ _ .modeSet valid "mode" (by decide) text .mode
    (fun _ _ => rfl) (fun _ _ => trivial) _ ?_ proper
  rintro header chars rfl rfl
  exact .modeSet

/-- A command whose payload is empty. -/
theorem writes_empty {fields : CommandFields EmptyPayloadDto} {name : CommandName}
    (fits : WirePayload.empty.Fits name) {json : CsString}
    (encoded : encodeEmpty (cs name.wire) fields = .ok json) {dto : CommandDto M}
    (made : ∀ header : Header, fields = header.fields ⟨⟩ → Made header dto name .empty)
    (proper : wellFormed json = true) : Writes dto json := by
  obtain ⟨payload, valid, encoded⟩ := bind_eq_ok encoded
  cases encoded
  have closed : appendCommand fields ++ cs "\x7d" ++ cs "\x7d" =
      appendCommand fields ++ ([] ++ cs "\x7d\x7d") := by
    rw [List.append_assoc]
    rfl
  rw [closed] at proper ⊢
  obtain ⟨text, isText, derived⟩ := exists_objectText AppendsAll.nil
  exact writes_of_payload valid fits made proper isText derived

/-- The position of a pose, as it is appended. -/
theorem appends_optionalPosition (roundTrips : RoundTrips M toText) {dto : Option (PositionDto M)}
    {appended : CsString} (encoded : appendOptionalPosition toText dto = .ok appended) :
    ∃ position, HoldsOptional dto position ∧
      ((position = none ∧ appended = []) ∨ ∃ present text, position = some present ∧
        appended = cs "," ++ text ∧ Appends text "position" present.tree) := by
  cases dto with
  | none =>
      cases encoded
      exact ⟨none, .none, .inl ⟨rfl, rfl⟩⟩
  | some dto =>
      obtain ⟨text, isText, encoded⟩ := bind_eq_ok encoded
      cases encoded
      obtain ⟨position, holds, appends⟩ := appends_position roundTrips isText
      exact ⟨some position, .some holds, .inr ⟨position, text, rfl, rfl, appends⟩⟩

/-- A pose between the braces of its payload. -/
theorem pose_text {quaternion : CsString} {orientation : WireOrientation}
    (isQuaternion : Appends quaternion "orientation" orientation.tree) {place : CsString}
    {position : Option WirePosition}
    (isPlace : (position = none ∧ place = []) ∨ ∃ present text, position = some present ∧
      place = cs "," ++ text ∧ Appends text "position" present.tree) :
    ∃ text, cs "\x7b" ++ (appendString "frame" (some (cs "quest_local")) ++ cs "," ++ quaternion ++
        place ++ cs "\x7d") = utf16 text ∧
      Derives text (.value (WirePayload.pose orientation position).tree.document) := by
  have proper : wellFormed (appendString "frame" (some (cs "quest_local")) ++ []) = true := by
    decide
  obtain ⟨chars, same, isFrame, _⟩ := appends_string (by decide) proper
  cases utf16_injective same
  rcases isPlace with ⟨rfl, rfl⟩ | ⟨present, text, rfl, rfl, isPosition⟩
  · obtain ⟨text, isText, derived⟩ := exists_objectText (AppendsAll.cons isFrame
      (AppendsAll.cons isQuaternion AppendsAll.nil))
    refine ⟨text, ?_, derived⟩
    rw [← isText]
    simp [List.intercalate]
  · obtain ⟨text, isText, derived⟩ := exists_objectText (AppendsAll.cons isFrame
      (AppendsAll.cons isQuaternion (AppendsAll.cons isPosition AppendsAll.nil)))
    refine ⟨text, ?_, derived⟩
    rw [← isText]
    simp [List.intercalate]

variable [Field K] [LinearOrder K]

theorem writes_headPose (roundTrips : RoundTrips M toText)
    {fields : CommandFields (HeadPosePayloadDto M)} {json : CsString}
    (encoded : encodeHeadPose M toText fields = .ok json) (proper : wellFormed json = true) :
    Writes (.headPose fields) json := by
  obtain ⟨⟨frame, orientation, position⟩, valid, encoded⟩ := bind_eq_ok encoded
  obtain ⟨read, isPresent, encoded⟩ := bind_eq_ok encoded
  obtain ⟨_, isExact, encoded⟩ := bind_eq_ok encoded
  obtain ⟨_, _, encoded⟩ := bind_eq_ok encoded
  obtain ⟨quaternion, isQuaternion, encoded⟩ := bind_eq_ok encoded
  obtain ⟨place, isPlace, encoded⟩ := bind_eq_ok encoded
  cases encoded
  cases requireStringExact_ok isExact
  cases orientation with
  | none => cases isPresent
  | some orientation =>
      cases isPresent
      obtain ⟨wire, holds, appends⟩ := appends_quaternion roundTrips isQuaternion
      obtain ⟨wirePosition, holdsPosition, appendsPosition⟩ :=
        appends_optionalPosition roundTrips isPlace
      obtain ⟨text, isText, derived⟩ := pose_text appends appendsPosition
      have gathered : appendCommand fields ++ appendString "frame" (some (cs "quest_local")) ++
          cs "," ++ quaternion ++ place ++ cs "\x7d\x7d" = appendCommand fields ++
          (appendString "frame" (some (cs "quest_local")) ++ cs "," ++ quaternion ++ place ++
            cs "\x7d\x7d") := by
        simp
      rw [gathered] at proper ⊢
      refine @writes_of_payload _ _ _ _ _ .headPose valid (.pose wire wirePosition) trivial _ ?_ _
        proper _ isText derived
      rintro header rfl
      exact .headPose holds holdsPosition

theorem writes_headRecenter (roundTrips : RoundTrips M toText)
    {fields : CommandFields (HeadRecenterPayloadDto M)} {json : CsString}
    (encoded : encodeHeadRecenter M toText fields = .ok json) (proper : wellFormed json = true) :
    Writes (.headRecenter fields) json := by
  obtain ⟨⟨frame, orientation⟩, valid, encoded⟩ := bind_eq_ok encoded
  obtain ⟨read, isPresent, encoded⟩ := bind_eq_ok encoded
  obtain ⟨_, isExact, encoded⟩ := bind_eq_ok encoded
  obtain ⟨_, _, encoded⟩ := bind_eq_ok encoded
  obtain ⟨quaternion, isQuaternion, encoded⟩ := bind_eq_ok encoded
  cases encoded
  cases requireStringExact_ok isExact
  cases orientation with
  | none => cases isPresent
  | some orientation =>
      cases isPresent
      obtain ⟨wire, holds, appends⟩ := appends_quaternion roundTrips isQuaternion
      obtain ⟨text, isText, derived⟩ := pose_text appends (.inl ⟨rfl, rfl⟩)
      have gathered : appendCommand fields ++ appendString "frame" (some (cs "quest_local")) ++
          cs "," ++ quaternion ++ cs "\x7d\x7d" = appendCommand fields ++
          (appendString "frame" (some (cs "quest_local")) ++ cs "," ++ quaternion ++ [] ++
            cs "\x7d\x7d") := by
        simp
      rw [gathered] at proper ⊢
      refine @writes_of_payload _ _ _ _ _ .headRecenter valid (.pose wire none) trivial _ ?_ _
        proper _ isText derived
      rintro header rfl
      exact .headRecenter holds

/-- What an encoder writes denotes the object. -/
theorem writes_of_encodeFields (roundTrips : RoundTrips M toText) {dto : CommandDto M}
    {json : CsString} (encoded : encodeFields M toText dto = .ok json)
    (proper : wellFormed json = true) : Writes dto json := by
  cases dto with
  | sessionStart fields => exact writes_sessionStart encoded proper
  | modeSet fields => exact writes_modeSet encoded proper
  | headPose fields => exact writes_headPose roundTrips encoded proper
  | headRecenter fields => exact writes_headRecenter roundTrips encoded proper
  | sessionStop fields =>
      refine @writes_empty _ _ _ .sessionStop trivial _ encoded _ ?_ proper
      rintro header rfl
      exact .sessionStop
  | emergencyStop fields =>
      refine @writes_empty _ _ _ .emergencyStop trivial _ encoded _ ?_ proper
      rintro header rfl
      exact .emergencyStop

/-! ## Reading back -/

omit [Field K] [LinearOrder K] in
theorem csDocument_document (tree : WireTree) : csDocument tree.document = csTree tree :=
  Tree.map_map utf16 Subtype.val id numberText tree

omit [Field K] [LinearOrder K] in
/-- The text of a command is parsed to its document. -/
theorem parse_command {command : WireCommand} {text : List Char}
    (derived : Derives text (.value command.tree.document))
    (within : checkLimits (utf16 text) = .ok ()) :
    parse (utf16 text) = .ok (csTree command.tree) := by
  have distinct := Tree.distinctKeys_map utf16 Subtype.val utf16_injective command.tree
    command.distinctKeys_tree
  have paired : command.tree.document.Strings Paired :=
    Tree.strings_map utf16 Subtype.val wellFormed_utf16 command.tree
  have shallow : command.tree.document.depth ≤ maximumDepth + 1 := by
    unfold WireTree.document
    rw [Tree.depth_map]
    exact Nat.le_trans command.depth_tree (by decide)
  rw [parse_of_isText (isText_of_derives derived) distinct paired shallow within,
    csDocument_document]

theorem wellFormed_of_limits {json : CsString} (within : checkLimits json = .ok ()) :
    wellFormed json = true := by
  unfold checkLimits getByteCount at within
  split at within
  · cases within
  · cases proper : wellFormed json with
    | true => rfl
    | false =>
        rw [proper] at within
        cases within

theorem limits_of_decodeCommand {json : CsString} {dto : CommandDto M}
    (decoded : decodeCommand M json = .ok dto) : checkLimits json = .ok () := by
  obtain ⟨root, parsed, _⟩ := bind_eq_ok decoded
  obtain ⟨_, within, _⟩ := bind_eq_ok parsed
  exact within

/-- What an encoded command denotes, and that its decoding is the object itself. -/
theorem encodeCommand_ok (roundTrips : RoundTrips M toText) {dto : CommandDto M} {json : CsString}
    (encoded : encodeCommand M toText dto = .ok json) :
    checkLimits json = .ok () ∧ decodeCommand M json = .ok dto ∧
      ∃ command : WireCommand, Holds dto command ∧ command.payload.Fits command.command ∧
        command.Acceptable M (Reading.unity M) ∧
        ∃ text, json = utf16 text ∧ Derives text (.value command.tree.document) := by
  obtain ⟨json', written, encoded⟩ := bind_eq_ok encoded
  obtain ⟨dto', decoded, same⟩ := bind_eq_ok encoded
  cases same
  have within := limits_of_decodeCommand decoded
  obtain ⟨command, fits, holds, text, rfl, derived⟩ :=
    writes_of_encodeFields roundTrips written (wellFormed_of_limits within)
  have parsed := parse_command derived within
  have isCommand := command.isCommand_tree fits
  obtain ⟨command', isCommand', acceptable, _⟩ := decodeCommandRoot_iff.mp (by
    unfold decodeCommand at decoded
    rw [parsed] at decoded
    exact decoded)
  cases isCommand.unique isCommand'
  refine ⟨within, ?_, command, holds, fits, acceptable, text, rfl, derived⟩
  unfold decodeCommand
  rw [parsed]
  exact decodeCommandRoot_iff.mpr ⟨command, isCommand, acceptable, holds⟩

end ValeraControlTower.Unity.WireCodec

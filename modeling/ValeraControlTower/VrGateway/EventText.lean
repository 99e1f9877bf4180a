import ValeraControlTower.Contract.Events
import ValeraControlTower.Library.JsonWriter
import ValeraControlTower.VrGateway.WireEvents

/-!
# What `json.dumps` writes

The text of a flat document is ASCII and denotes the object of its members.
-/

namespace ValeraControlTower

open Unicode Json

namespace JsonEncoder

/-! ## Strings -/

/-- A text of one byte a character. -/
def Ascii (text : List Char) : Prop := ∀ char ∈ text, char.toNat < 0x80

instance decidableAscii (text : List Char) : Decidable (Ascii text) := List.decidableBAll _ _

theorem Ascii.nil : Ascii [] := by
  rintro _ ⟨⟩

theorem Ascii.append {first second : List Char} (isFirst : Ascii first) (isSecond : Ascii second) :
    Ascii (first ++ second) := by
  intro char membership
  exact (List.mem_append.mp membership).elim (isFirst char) (isSecond char)

theorem Ascii.cons {char : Char} {text : List Char} (isFirst : char.toNat < 0x80)
    (isText : Ascii text) : Ascii (char :: text) := by
  intro other membership
  rcases List.mem_cons.mp membership with rfl | inText
  · exact isFirst
  · exact isText other inText

/-- An ASCII text has a code unit a character. -/
theorem length_utf16_ascii {text : List Char} (ascii : Ascii text) :
    (utf16 text).length = text.length := by
  induction text with
  | nil => rfl
  | cons char text inductionHypothesis =>
      have small : (CodePoint.ofChar char).val < 0x10000 :=
        (ascii char (by simp)).trans (by decide)
      have single : (CodePoint.ofChar char).units.length = 1 := by
        unfold CodePoint.units
        rw [if_pos small]
        rfl
      rw [utf16_cons, List.length_append, single, List.length_cons,
        inductionHypothesis fun other membership => ascii other (List.mem_cons_of_mem _ membership),
        Nat.add_comm]

/-- An ASCII text has a byte a character. -/
theorem utf8Length_ascii {text : List Char} (ascii : Ascii text) :
    ((ofChars text).map CodePoint.utf8Length).sum = text.length := by
  induction text with
  | nil => rfl
  | cons char text inductionHypothesis =>
      have single : (CodePoint.ofChar char).utf8Length = 1 := if_pos (ascii char (by simp))
      change (CodePoint.ofChar char).utf8Length + ((ofChars text).map CodePoint.utf8Length).sum = _
      rw [single, List.length_cons,
        inductionHypothesis fun other membership => ascii other (List.mem_cons_of_mem _ membership),
        Nat.add_comm]

theorem hexDigit?_hexChar : ∀ digit : Fin 16, hexDigit? (hexChar digit.val).toNat = some digit := by
  decide

theorem ascii_hexChar : ∀ digit : Fin 16, (hexChar digit.val).toNat < 0x80 := by
  decide

/-- A code unit is read back from its escape. -/
theorem stringBody_unicodeEscape {body : List Char} {denoted : List CodeUnit} (unit : CodeUnit)
    (isBody : StringBody body denoted) :
    StringBody (unicodeEscape unit ++ body) (unit :: denoted) := by
  have inRange := unit.isLt
  have first := hexDigit?_hexChar ⟨unit.val / 4096, by omega⟩
  have second := hexDigit?_hexChar ⟨unit.val / 256 % 16, Nat.mod_lt _ (by decide)⟩
  have third := hexDigit?_hexChar ⟨unit.val / 16 % 16, Nat.mod_lt _ (by decide)⟩
  have fourth := hexDigit?_hexChar ⟨unit.val % 16, Nat.mod_lt _ (by decide)⟩
  refine .unicode ?_ isBody
  unfold hexUnit?
  rw [first, second, third, fourth]
  refine congrArg some (Fin.ext ?_)
  unfold hexUnit
  rw [Fin.val_ofNat]
  dsimp only
  omega

theorem stringBody_unicodeEscapes {body : List Char} {denoted : List CodeUnit}
    (codes : List CodeUnit) (isBody : StringBody body denoted) :
    StringBody (codes.flatMap unicodeEscape ++ body) (codes ++ denoted) := by
  induction codes with
  | nil => exact isBody
  | cons unit codes inductionHypothesis =>
      rw [List.flatMap_cons, List.append_assoc]
      exact stringBody_unicodeEscape unit inductionHypothesis

theorem ascii_unicodeEscape (unit : CodeUnit) : Ascii (unicodeEscape unit) := by
  have inRange := unit.isLt
  have first := ascii_hexChar ⟨unit.val / 4096, by omega⟩
  have second := ascii_hexChar ⟨unit.val / 256 % 16, Nat.mod_lt _ (by decide)⟩
  have third := ascii_hexChar ⟨unit.val / 16 % 16, Nat.mod_lt _ (by decide)⟩
  have fourth := ascii_hexChar ⟨unit.val % 16, Nat.mod_lt _ (by decide)⟩
  exact .cons (by decide) (.cons (by decide) (.cons first (.cons second (.cons third
    (.cons fourth .nil)))))

theorem toNat_ofNat_ascii : ∀ code : Fin 0x80, (Char.ofNat code.val).toNat = code.val := by
  decide

theorem ascii_flatMap {α : Type} {write : α → List Char} (items : List α)
    (each : ∀ item, Ascii (write item)) : Ascii (items.flatMap write) := by
  intro char membership
  obtain ⟨item, _, inText⟩ := List.mem_flatMap.mp membership
  exact each item char inText

theorem stringBody_escapeAscii {body : List Char} {denoted : List CodeUnit} (point : CodePoint)
    (isBody : StringBody body denoted) :
    StringBody (escapeAscii point ++ body) (point.units ++ denoted) := by
  have letter {code : CodePoint} {char : Char} {unit : CodeUnit} (same : point.val = code.val)
      (isUnits : code.units = [unit]) (known : escape? char.toNat = some unit) :
      StringBody ('\\' :: char :: body) (point.units ++ denoted) := by
    rw [Fin.ext same, isUnits]
    exact .escaped known isBody
  unfold escapeAscii
  by_cases quote : point.val = 0x22
  · rw [if_pos quote]
    exact @letter 0x22 '"' _ quote rfl rfl
  by_cases backslash : point.val = 0x5C
  · rw [if_neg quote, if_pos backslash]
    exact @letter 0x5C '\\' _ backslash rfl rfl
  rw [if_neg quote, if_neg backslash]
  split
  · next lineFeed => exact @letter 0x0A 'n' _ lineFeed rfl rfl
  split
  · next carriageReturn => exact @letter 0x0D 'r' _ carriageReturn rfl rfl
  split
  · next tab => exact @letter 0x09 't' _ tab rfl rfl
  split
  · next formFeed => exact @letter 0x0C 'f' _ formFeed rfl rfl
  split
  · next backspace => exact @letter 0x08 'b' _ backspace rfl rfl
  split
  · next printable =>
      have isChar : (Char.ofNat point.val).toNat = point.val :=
        toNat_ofNat_ascii ⟨point.val, by omega⟩
      have same : CodePoint.ofChar (Char.ofNat point.val) = point := Fin.ext isChar
      have notQuote : Char.ofNat point.val ≠ '"' := fun equal =>
        quote (by rw [← isChar, equal]; rfl)
      have notBackslash : Char.ofNat point.val ≠ '\\' := fun equal =>
        backslash (by rw [← isChar, equal]; rfl)
      have plain := StringBody.unescaped (isChar.symm ▸ printable.1) notQuote notBackslash isBody
      rwa [same] at plain
  · exact stringBody_unicodeEscapes point.units isBody

/-- A string denotes itself, surrogates included. -/
theorem stringBody_escaped (text : PyStr) :
    StringBody (text.flatMap escapeAscii) (units text) := by
  induction text with
  | nil => exact .nil
  | cons point text inductionHypothesis =>
      exact stringBody_escapeAscii point inductionHypothesis

theorem ascii_escapeAscii (point : CodePoint) : Ascii (escapeAscii point) := by
  unfold escapeAscii
  split
  · decide
  split
  · decide
  split
  · decide
  split
  · decide
  split
  · decide
  split
  · decide
  split
  · decide
  split
  · next printable =>
      have isChar : (Char.ofNat point.val).toNat = point.val :=
        toNat_ofNat_ascii ⟨point.val, by omega⟩
      exact .cons (by omega) .nil
  · exact ascii_flatMap point.units ascii_unicodeEscape

theorem derives_encodeString (text : PyStr) :
    Derives (encodeString text) (.value (.str (units text))) :=
  .string (stringBody_escaped text)

theorem ascii_encodeString (text : PyStr) : Ascii (encodeString text) :=
  .cons (by decide) ((ascii_flatMap text ascii_escapeAscii).append (by decide))

/-! ## Values -/

theorem ascii_digits (digits : List Digit) : Ascii (digits.map Digit.char) := by
  have each : ∀ digit : Digit, digit.char.toNat < 0x80 := by decide
  intro char membership
  obtain ⟨digit, _, rfl⟩ := List.mem_map.mp membership
  exact each digit

theorem ascii_numeral (numeral : Numeral) : Ascii numeral.text := by
  obtain ⟨negative, integer, fraction, exponent⟩ := numeral
  have sign : Ascii (if negative then ['-'] else []) := by
    cases negative <;> decide
  have fractional : Ascii (Numeral.fractionText fraction) := by
    cases fraction with
    | none => exact .nil
    | some digits => exact .cons (by decide) (ascii_digits digits)
  have scale : Ascii (Numeral.exponentText exponent) := by
    cases exponent with
    | none => exact .nil
    | some exponent =>
        obtain ⟨capital, sign, digits⟩ := exponent
        have isSign : Ascii (Numeral.signText sign) := by
          rcases sign with _ | _ | _ <;> decide
        exact .cons (by cases capital <;> decide) (isSign.append (ascii_digits digits))
  exact (sign.append (ascii_digits integer)).append (fractional.append scale)

variable {K : Type} {M : FloatMath K}

/-- A field of a document, and what the text it is written as denotes. -/
inductive Writes (M : FloatMath K) : PyObject K → Document → Prop where
  | none : Writes M .none .null
  | bool {value : Bool} : Writes M (.bool value) (.bool value)
  | int {value : ℤ} : Writes M (.int value) (.num (.ofInt value))
  | float {value : K} {numeral : Numeral} (wellFormed : numeral.WellFormed)
      (isText : M.repr value = numeral.text) : Writes M (.float (.finite value)) (.num numeral)
  | str {value : PyStr} : Writes M (.str value) (.str (units value))

theorem derives_encodeValue {value : PyObject K} {tree : Document} (writes : Writes M value tree)
    {text : List Char} (encoded : encodeValue M value = .ok text) :
    Derives text (.value tree) ∧ Ascii text := by
  cases writes with
  | none =>
      cases encoded
      exact ⟨.null, by decide⟩
  | @bool value =>
      cases encoded
      cases value
      · exact ⟨.false, by decide⟩
      · exact ⟨.true, by decide⟩
  | @int value =>
      unfold encodeValue encodeInt at encoded
      dsimp only at encoded
      split at encoded
      · cases encoded
      · cases encoded
        exact ⟨.number (Numeral.wellFormed_ofInt value), ascii_numeral _⟩
  | @float value numeral wellFormed isText =>
      cases encoded
      rw [isText]
      exact ⟨.number wellFormed, ascii_numeral numeral⟩
  | @str value =>
      cases encoded
      exact ⟨derives_encodeString value, ascii_encodeString value⟩

/-! ## Documents -/

/-- The fields of a document, and the members they are written as. -/
abbrev WritesMembers (M : FloatMath K) (document : List (PyStr × PyObject K))
    (members : List (List CodeUnit × Document)) : Prop :=
  List.Forall₂ (fun field member => units field.1 = member.1 ∧ Writes M field.2 member.2)
    document members

theorem encodeMember_writes {field : PyStr × PyObject K} {member : List CodeUnit × Document}
    (isName : units field.1 = member.1) (writes : Writes M field.2 member.2) {text : List Char}
    (encoded : encodeMember M field = .ok text) : WritesMember text member ∧ Ascii text := by
  obtain ⟨name, tree⟩ := member
  unfold encodeMember at encoded
  cases isValue : encodeValue M field.2 with
  | error exception =>
      rw [isValue] at encoded
      cases encoded
  | ok value =>
      rw [isValue] at encoded
      cases encoded
      obtain ⟨derived, ascii⟩ := derives_encodeValue writes isValue
      have shape : encodeString field.1 ++ ':' :: value =
          Json.memberText (field.1.flatMap escapeAscii) value := by
        simp [encodeString, Json.memberText]
      refine ⟨?_, (ascii_encodeString _).append (.cons (by decide) ascii)⟩
      dsimp only at isName ⊢
      rw [shape, ← isName]
      exact .member (stringBody_escaped field.1) derived

theorem encodeMembers_writes {document : List (PyStr × PyObject K)}
    {members : List (List CodeUnit × Document)} (written : WritesMembers M document members)
    {text : List Char} (encoded : encodeMembers M document = .ok text) :
    ∃ texts, text = List.intercalate [','] texts ++ ['}'] ∧ Ascii text ∧
      List.Forall₂ WritesMember texts members := by
  induction written generalizing text with
  | nil =>
      cases encoded
      exact ⟨[], rfl, by decide, .nil⟩
  | @cons field member document members isField others inductionHypothesis =>
      obtain ⟨isName, isValue⟩ := isField
      cases others with
      | nil =>
          unfold encodeMembers at encoded
          cases first : encodeMember M field with
          | error exception =>
              rw [first] at encoded
              cases encoded
          | ok value =>
              rw [first] at encoded
              cases encoded
              obtain ⟨writes, ascii⟩ := encodeMember_writes isName isValue first
              exact ⟨[value], by simp, ascii.append (by decide), .cons writes .nil⟩
      | cons isSecond others =>
          rw [encodeMembers] at encoded
          · obtain ⟨value, first, encoded⟩ := bind_eq_ok encoded
            obtain ⟨rest, isRest, encoded⟩ := bind_eq_ok encoded
            cases encoded
            obtain ⟨writes, ascii⟩ := encodeMember_writes isName isValue first
            obtain ⟨texts, rfl, asciiRest, writesRest⟩ := inductionHypothesis isRest
            refine ⟨value :: texts, ?_, ascii.append (.cons (by decide) asciiRest),
              .cons writes writesRest⟩
            have present : texts ≠ [] := by
              rintro rfl
              cases writesRest
            rw [intercalate_cons present, List.append_assoc]
            rfl
          · simp

/-- The text of a document denotes the object of its members. -/
theorem derives_dumps_object {document : List (PyStr × PyObject K)}
    {members : List (List CodeUnit × Document)} (written : WritesMembers M document members)
    {text : List Char} (dumped : dumps M document = .ok text) :
    Derives text (.value (.obj members)) ∧ Ascii text := by
  unfold dumps at dumped
  cases inside : encodeMembers M document with
  | error exception =>
      rw [inside] at dumped
      cases dumped
  | ok rest =>
      rw [inside] at dumped
      cases dumped
      obtain ⟨texts, rfl, ascii, writes⟩ := encodeMembers_writes written inside
      exact ⟨derives_objectText writes, .cons (by decide) ascii⟩

/-! ## Events -/

/-- A field of an event without lone surrogates, and the value it is written as. -/
inductive WrittenAs (M : FloatMath K) : PyObject K → WireTree → Prop where
  | none : WrittenAs M .none .null
  | bool {value : Bool} : WrittenAs M (.bool value) (.bool value)
  | int {value : ℤ} : WrittenAs M (.int value) (.num (.ofInt value))
  | float {value : K} {literal : Literal} (isText : M.repr value = literal.1.text) :
      WrittenAs M (.float (.finite value)) (.num literal)
  | str {value : PyStr} {text : List Char} (same : units value = utf16 text) :
      WrittenAs M (.str value) (.str text)

theorem WrittenAs.writes {value : PyObject K} {tree : WireTree} (written : WrittenAs M value tree) :
    Writes M value tree.document := by
  cases written with
  | none => exact .none
  | bool => exact .bool
  | int => exact .int
  | @float value literal isText => exact .float literal.2 isText
  | @str value text same =>
      have writes := @Writes.str K M value
      rwa [same] at writes

abbrev WrittenMembers (M : FloatMath K) (document : List (PyStr × PyObject K))
    (members : List (String × WireTree)) : Prop :=
  List.Forall₂ (fun field member => field.1 = py member.1 ∧ WrittenAs M field.2 member.2)
    document members

/-- The text of an event. -/
theorem derives_dumps {document : List (PyStr × PyObject K)} {event : WireEvent}
    (written : WrittenMembers M document event.members) {text : List Char}
    (dumped : dumps M document = .ok text) :
    Derives text (.value event.tree.document) ∧ Ascii text := by
  have same : event.tree.document =
      .obj (event.members.map fun member => (utf16 member.1.toList, member.2.document)) := by
    change Tree.obj (Tree.mapMembers utf16 Subtype.val
      (event.members.map fun member => (member.1.toList, member.2))) = _
    rw [Tree.mapMembers_eq_map, List.map_map]
    rfl
  rw [same]
  apply derives_dumps_object _ dumped
  apply List.forall₂_map_right_iff.mpr
  apply written.imp
  rintro field member ⟨isName, isValue⟩
  exact ⟨congrArg units isName, isValue.writes⟩

end JsonEncoder

end ValeraControlTower

import ValeraControlTower.Contract.Commands
import ValeraControlTower.Unity.ParserCompleteness
import ValeraControlTower.Unity.WireCodec

/-!
# What the field checks of `WireCodec` accept

On an object of texts and literals, each check accepts exactly the members that the
contract describes, white space, lengths and integers being C#'s.
-/

namespace ValeraControlTower.Unity

open Unicode Json CsString StrictJsonParser

/-- C#'s reading: code units count, and `NumberStyles.None` allows no sign. -/
def Dialect.unity : Dialect where
  blank text := isWhiteSpaceOnly (utf16 text)
  length text := (utf16 text).length
  signed := false

/-- The document as `Parse` returns it. -/
abbrev csTree (tree : WireTree) : JsonValue :=
  tree.map utf16 fun literal => numberText literal.1

abbrev csTreeMembers (members : WireMembers) : List (CsString × JsonValue) :=
  Tree.mapMembers utf16 (fun literal => numberText literal.1) members

namespace WireCodec

/-! ## Fields -/

theorem mem_names_iff (members : WireMembers) (name : String) :
    cs name ∈ (csTreeMembers members).map Prod.fst ↔ name.toList ∈ members.map Prod.fst := by
  rw [Tree.map_fst_mapMembers]
  exact List.mem_map_of_injective utf16_injective

theorem requireExactFields_iff {members : WireMembers} {required optional : List String} :
    requireExactFields (csTree (.obj members)) required optional = .ok () ↔
      members.HasFields required optional := by
  rw [show csTree (.obj members) = .obj (csTreeMembers members) from rfl]
  unfold requireExactFields
  dsimp only
  cases missing : required.find? (cs · ∉ (csTreeMembers members).map Prod.fst) with
  | some name =>
      have absent := List.find?_some missing
      rw [decide_eq_true_eq, mem_names_iff] at absent
      refine iff_of_false ?_ fun fields =>
        absent (fields.present name (List.mem_of_find?_eq_some missing))
      rintro ⟨⟩
  | none =>
      have present : ∀ name ∈ required, name.toList ∈ members.map Prod.fst := by
        intro name membership
        have found := List.find?_eq_none.mp missing name membership
        rwa [decide_eq_true_eq, not_not, mem_names_iff] at found
      dsimp only
      have same : (required ++ optional).map cs =
          ((required ++ optional).map String.toList).map utf16 := by
        rw [List.map_map]
        rfl
      rw [Tree.map_fst_mapMembers, same]
      cases unknown : ((members.map Prod.fst).map utf16).find?
          (· ∉ ((required ++ optional).map String.toList).map utf16) with
      | some name =>
          have other := List.find?_some unknown
          rw [decide_eq_true_eq] at other
          obtain ⟨key, membership, rfl⟩ := List.mem_map.mp (List.mem_of_find?_eq_some unknown)
          refine iff_of_false ?_ fun fields =>
            other (List.mem_map_of_mem (fields.known key membership))
          rintro ⟨⟩
      | none =>
          refine iff_of_true rfl ⟨present, fun key membership => ?_⟩
          have known := List.find?_eq_none.mp unknown (utf16 key) (List.mem_map_of_mem membership)
          rwa [decide_eq_true_eq, not_not, List.mem_map_of_injective utf16_injective] at known

/-- A value with the fields of an object is an object. -/
theorem requireExactFields_obj {value : WireTree} {required optional : List String}
    (checked : requireExactFields (csTree value) required optional = .ok ()) :
    ∃ members, value = .obj members := by
  cases value with
  | null | bool _ | num _ | str _ | arr _ => cases checked
  | obj members => exact ⟨members, rfl⟩

theorem requireMember_iff {members : WireMembers} {name : String} {result : JsonValue} :
    requireMember (csTree (.obj members)) name = .ok result ↔
      ∃ value, members.Has name value ∧ result = csTree value := by
  have found := Tree.lookup_mapMembers utf16 (fun literal : Literal => numberText literal.1)
    utf16_injective members name.toList
  change (csTreeMembers members).lookup (cs name) = _ at found
  rw [show csTree (.obj members) = .obj (csTreeMembers members) from rfl]
  unfold requireMember
  dsimp only
  rw [found]
  unfold WireMembers.Has
  cases members.lookup name.toList with
  | none =>
      refine iff_of_false ?_ ?_
      · rintro ⟨⟩
      · rintro ⟨_, ⟨⟩, _⟩
  | some value =>
      constructor
      · rintro ⟨⟩
        exact ⟨value, rfl, rfl⟩
      · rintro ⟨_, ⟨⟩, rfl⟩
        rfl

theorem requireMember_of_has {members : WireMembers} {name : String} {value : WireTree}
    (has : members.Has name value) :
    requireMember (csTree (.obj members)) name = .ok (csTree value) :=
  requireMember_iff.mpr ⟨value, has, rfl⟩

theorem requireString_iff {members : WireMembers} {name : String} {expected : Option CsString}
    {text : CsString} :
    requireString (csTree (.obj members)) name expected = .ok text ↔
      ∃ chars, members.Has name (.str chars) ∧ text = utf16 chars ∧
        ∀ other, expected = some other → utf16 chars = other := by
  constructor
  · intro required
    obtain ⟨member, found, required⟩ := bind_eq_ok required
    obtain ⟨value, has, rfl⟩ := requireMember_iff.mp found
    cases value with
    | null | bool _ | num _ | arr _ | obj _ => cases required
    | str chars =>
        cases expected with
        | none =>
            cases required
            refine ⟨chars, has, rfl, ?_⟩
            rintro _ ⟨⟩
        | some expected =>
            change (if utf16 chars = expected then _ else _) = _ at required
            split at required
            · next same =>
                cases required
                refine ⟨chars, has, rfl, ?_⟩
                rintro _ ⟨⟩
                exact same
            · cases required
  · rintro ⟨chars, has, rfl, same⟩
    unfold requireString
    rw [requireMember_of_has has]
    cases expected with
    | none => rfl
    | some expected =>
        exact if_pos (same expected rfl)

/-- A string that must be a certain one. -/
theorem requireLiteral_iff {members : WireMembers} {name expected : String} {text : CsString} :
    requireString (csTree (.obj members)) name (some (cs expected)) = .ok text ↔
      members.Has name (.str expected.toList) ∧ text = cs expected := by
  rw [requireString_iff]
  constructor
  · rintro ⟨chars, has, rfl, same⟩
    have same := same _ rfl
    cases utf16_injective same
    exact ⟨has, same⟩
  · rintro ⟨has, rfl⟩
    refine ⟨_, has, rfl, ?_⟩
    rintro _ ⟨⟩
    rfl

theorem requireText_iff {members : WireMembers} {name : String} {text : CsString} :
    requireString (csTree (.obj members)) name none = .ok text ↔
      ∃ chars, members.Has name (.str chars) ∧ text = utf16 chars := by
  rw [requireString_iff]
  constructor
  · rintro ⟨chars, has, same, _⟩
    exact ⟨chars, has, same⟩
  · rintro ⟨chars, has, same⟩
    refine ⟨chars, has, same, ?_⟩
    rintro _ ⟨⟩

theorem utf16_eq_nil_iff {text : List Char} : utf16 text = [] ↔ text = [] :=
  ⟨fun empty => utf16_injective empty, fun empty => congrArg utf16 empty⟩

theorem requireNonEmptyString_iff {members : WireMembers} {name : String} {text : CsString} :
    requireNonEmptyString (csTree (.obj members)) name = .ok text ↔
      ∃ chars, members.Has name (.str chars) ∧ text = utf16 chars ∧ chars ≠ [] ∧
        Dialect.unity.blank chars = false := by
  have visible (chars : List Char) :
      ¬((utf16 chars).isEmpty || isWhiteSpaceOnly (utf16 chars)) = true ↔
        chars ≠ [] ∧ Dialect.unity.blank chars = false := by
    rw [Bool.or_eq_true, not_or, List.isEmpty_iff, utf16_eq_nil_iff, Bool.not_eq_true]
    rfl
  constructor
  · intro required
    obtain ⟨text, found, required⟩ := bind_eq_ok required
    obtain ⟨chars, has, rfl⟩ := requireText_iff.mp found
    split at required
    · cases required
    · next shown =>
        cases required
        exact ⟨chars, has, rfl, (visible chars).mp shown⟩
  · rintro ⟨chars, has, rfl, shown⟩
    unfold requireNonEmptyString
    rw [requireText_iff.mpr ⟨chars, has, rfl⟩]
    exact if_neg ((visible chars).mpr shown)

theorem requireModeStringFromJson_iff {members : WireMembers} :
    requireModeStringFromJson (csTree (.obj members)) = .ok () ↔
      ∃ chars, members.Has "mode" (.str chars) ∧ chars ≠ [] ∧
        Dialect.unity.blank chars = false ∧ Dialect.unity.length chars ≤ 64 := by
  have bounded (chars : List Char) :
      ¬((utf16 chars).isEmpty || (utf16 chars).length > 64 ||
          isWhiteSpaceOnly (utf16 chars)) = true ↔
        chars ≠ [] ∧ Dialect.unity.blank chars = false ∧ Dialect.unity.length chars ≤ 64 := by
    rw [Bool.or_eq_true, Bool.or_eq_true, not_or, not_or, List.isEmpty_iff, utf16_eq_nil_iff,
      decide_eq_true_eq, gt_iff_lt, not_lt, Bool.not_eq_true, and_assoc,
      and_comm (a := (utf16 chars).length ≤ 64)]
    rfl
  constructor
  · intro required
    obtain ⟨text, found, required⟩ := bind_eq_ok required
    obtain ⟨chars, has, rfl⟩ := requireText_iff.mp found
    split at required
    · cases required
    · next fits => exact ⟨chars, has, (bounded chars).mp fits⟩
  · rintro ⟨chars, has, fits⟩
    unfold requireModeStringFromJson
    rw [requireText_iff.mpr ⟨chars, has, rfl⟩]
    exact if_neg ((bounded chars).mpr fits)

/-! ## Numbers -/

theorem hasFractionOrExponent_append (first second : CsString) :
    hasFractionOrExponent (first ++ second) =
      (hasFractionOrExponent first || hasFractionOrExponent second) :=
  List.any_append

theorem hasFractionOrExponent_digits (digits : List Digit) :
    hasFractionOrExponent (digitUnits digits) = false := by
  have plain : ∀ digit : Digit, ¬(decide (CodeUnit.ofChar digit.char = CodeUnit.ofChar '.') ||
      decide (CodeUnit.ofChar digit.char = CodeUnit.ofChar 'e') ||
      decide (CodeUnit.ofChar digit.char = CodeUnit.ofChar 'E')) = true := by
    decide
  apply List.any_eq_false.mpr
  intro unit membership
  obtain ⟨digit, _, rfl⟩ := List.mem_map.mp membership
  exact plain digit

/-- A point or an exponent is found exactly in the literals that are not integers. -/
theorem hasFractionOrExponent_numberText (numeral : Numeral) :
    hasFractionOrExponent (numberText numeral) = !numeral.isInteger := by
  obtain ⟨negative, integer, fraction, exponent⟩ := numeral
  have sign : hasFractionOrExponent (Numeral.encode 0x10000 (if negative then ['-'] else [])) =
      false := by
    cases negative <;> decide
  have point : hasFractionOrExponent (Numeral.encode 0x10000 (Numeral.fractionText fraction)) =
      !fraction.isNone := by
    cases fraction with
    | none => rfl
    | some digits => rfl
  have letter : hasFractionOrExponent (Numeral.encode 0x10000 (Numeral.exponentText exponent)) =
      !exponent.isNone := by
    cases exponent with
    | none => rfl
    | some exponent =>
        obtain ⟨capital, sign, digits⟩ := exponent
        cases capital <;> rfl
  rw [numberText_eq]
  unfold Numeral.text Numeral.integerText Numeral.isInteger
  rw [Numeral.encode_append, Numeral.encode_append, Numeral.encode_append, encode_digits,
    hasFractionOrExponent_append, hasFractionOrExponent_append, hasFractionOrExponent_append,
    sign, hasFractionOrExponent_digits, point, letter, Bool.not_and]
  rfl

/-- `NumberStyles.None` reads a literal without a sign whose value fits. -/
theorem tryParseLong_iff {numeral : Numeral} (wellFormed : numeral.WellFormed)
    (integral : numeral.isInteger = true) {result : CsLong} :
    tryParseLong (numberText numeral) = some result ↔
      numeral.negative = false ∧ numeral.intValue ≤ 9223372036854775807 ∧
        result.1 = numeral.intValue := by
  obtain ⟨negative, integer, fraction, exponent⟩ := numeral
  simp only [Numeral.isInteger, Bool.and_eq_true, Option.isNone_iff_eq_none] at integral
  obtain ⟨rfl, rfl⟩ := integral
  have written : numberText ⟨negative, integer, none, none⟩ =
      Numeral.encode 0x10000 (if negative then ['-'] else []) ++ digitUnits integer := by
    rw [numberText_eq]
    change Numeral.encode 0x10000 (((if negative then ['-'] else []) ++ _) ++ []) = _
    rw [List.append_nil, Numeral.encode_append, encode_digits]
  rw [written]
  cases negative with
  | true =>
      refine iff_of_false ?_ ?_
      · rintro ⟨⟩
      · rintro ⟨⟨⟩, _⟩
  | false =>
      have closed : Numeral.NoDigit ([] : CsString) := by
        rintro _ ⟨⟩
      have scanned := Numeral.scanDigits_encode (by decide) integer closed
      rw [encode_digits, List.append_nil] at scanned
      change tryParseLong (digitUnits integer) = some result ↔
        _ ∧ (Digit.natValue integer : ℤ) ≤ _ ∧ result.1 = (Digit.natValue integer : ℤ)
      unfold tryParseLong
      rw [scanned]
      dsimp only
      by_cases fits : (Digit.natValue integer : ℤ) ≤ 9223372036854775807
      · rw [dif_pos ⟨wellFormed.integer, rfl, fits⟩, Option.some.injEq]
        constructor
        · rintro rfl
          exact ⟨rfl, fits, rfl⟩
        · rintro ⟨_, _, same⟩
          exact Subtype.ext same.symm
      · rw [dif_neg fun all => fits all.2.2]
        refine iff_of_false ?_ fun all => fits all.2.1
        rintro ⟨⟩

theorem requireInteger_iff {members : WireMembers} {name : String} {minimum : ℤ} {result : CsLong} :
    requireInteger (csTree (.obj members)) name minimum = .ok result ↔
      ∃ literal, members.Has name (.num literal) ∧ Dialect.unity.Integer minimum literal ∧
        result.1 = literal.1.intValue := by
  constructor
  · intro required
    obtain ⟨member, found, required⟩ := bind_eq_ok required
    obtain ⟨value, has, rfl⟩ := requireMember_iff.mp found
    cases value with
    | null | bool _ | str _ | arr _ | obj _ => cases required
    | num literal =>
        dsimp only [csTree, Json.Tree.map] at required
        rw [hasFractionOrExponent_numberText] at required
        by_cases integral : literal.1.isInteger = true
        · rw [integral, Bool.not_true, if_neg Bool.false_ne_true] at required
          cases parsed : tryParseLong (numberText literal.1) with
          | none =>
              rw [parsed] at required
              cases required
          | some value =>
              obtain ⟨unsigned, below, same⟩ := (tryParseLong_iff literal.2 integral).mp parsed
              rw [parsed] at required
              change (if value.1 < minimum then _ else _) = _ at required
              split at required
              · cases required
              · next above =>
                  cases required
                  rw [same, not_lt] at above
                  exact ⟨literal, has, ⟨integral, fun _ => unsigned, above, below⟩, same⟩
        · rw [if_pos (by simpa using integral)] at required
          cases required
  · rintro ⟨literal, has, ⟨integral, unsigned, above, below⟩, same⟩
    have parsed := (tryParseLong_iff literal.2 integral).mpr ⟨unsigned rfl, below, same⟩
    unfold requireInteger
    rw [requireMember_of_has has]
    dsimp only [bind, Except.bind, csTree, Json.Tree.map]
    rw [hasFractionOrExponent_numberText, integral, Bool.not_true, if_neg Bool.false_ne_true,
      parsed]
    apply if_neg
    rw [same]
    exact not_lt.mpr above

variable {K : Type} {M : FloatMath K}

theorem tryParseDouble_iff {numeral : Numeral} (wellFormed : numeral.WellFormed)
    {result : FiniteDouble M} :
    tryParseDouble M (numberText numeral) = some result ↔
      M.ofRat numeral.value = some result.1 := by
  have closed : Numeral.Closed ([] : CsString) := by
    rintro _ ⟨⟩
  have scanned := Numeral.scan_utf16 wellFormed closed
  rw [List.append_nil] at scanned
  unfold tryParseDouble numberText
  rw [scanned]
  dsimp only
  split
  · next value same =>
      constructor
      · rintro ⟨⟩
        exact same
      · intro denotes
        exact congrArg some (Subtype.ext (Option.some.inj (same.symm.trans denotes)))
  · next same =>
      apply iff_of_false (by rintro ⟨⟩)
      intro denotes
      cases same.symm.trans denotes

theorem requireFiniteNumber_iff {members : WireMembers} {name : String} {result : FiniteDouble M} :
    requireFiniteNumber M (csTree (.obj members)) name = .ok result ↔
      ∃ literal, members.Has name (.num literal) ∧ M.ofRat literal.1.value = some result.1 := by
  constructor
  · intro required
    obtain ⟨member, found, required⟩ := bind_eq_ok required
    obtain ⟨value, has, rfl⟩ := requireMember_iff.mp found
    cases value with
    | null | bool _ | str _ | arr _ | obj _ => cases required
    | num literal =>
        dsimp only [csTree, Json.Tree.map] at required
        cases parsed : tryParseDouble M (numberText literal.1) with
        | none =>
            rw [parsed] at required
            cases required
        | some value =>
            rw [parsed] at required
            cases required
            exact ⟨literal, has, (tryParseDouble_iff literal.2).mp parsed⟩
  · rintro ⟨literal, has, denotes⟩
    unfold requireFiniteNumber
    rw [requireMember_of_has has]
    dsimp only [bind, Except.bind, csTree, Json.Tree.map]
    rw [(tryParseDouble_iff literal.2).mpr denotes]
    rfl

end WireCodec

end ValeraControlTower.Unity

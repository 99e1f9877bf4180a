import ValeraControlTower.Library.JsonLevels
import ValeraControlTower.Unity.ParserSoundness

/-!
# The strict parser and the standard

`Parse` reads the texts of RFC 8259 with distinct keys and paired surrogates, and besides
them those whose numbers go on with decimal digits of other scripts: `char.IsDigit` knows
all of Unicode.  The nesting limit is met by the values inside a container, so that an
empty one may stand a level below it.
-/

namespace ValeraControlTower.Unity

open Unicode Json CsString

namespace StrictJsonParser

/-- Well-formed UTF-16 within both limits on the size. -/
structure WithinLimits (json : CsString) : Prop where
  paired : Paired json
  characters : json.length ≤ maximumCharacters
  bytes : ((codePoints json).map CodePoint.utf8Length).sum ≤ maximumBytes

theorem checkLimits_eq_ok_iff {json : CsString} : checkLimits json = .ok () ↔
    WithinLimits json := by
  unfold checkLimits getByteCount
  constructor
  · intro checked
    split at checked
    · cases checked
    · next characters =>
        split at checked
        · cases checked
        · next bytes counted =>
            split at counted
            · next paired =>
                cases counted
                split at checked
                · cases checked
                · next few => exact ⟨paired, Nat.le_of_not_lt characters, Nat.le_of_not_lt few⟩
            · cases counted
  · rintro ⟨paired, characters, bytes⟩
    have isPaired : wellFormed json = true := paired
    rw [if_neg (Nat.not_lt.mpr characters), isPaired, if_pos rfl]
    exact if_neg (Nat.not_lt.mpr bytes)

/-! ## Numbers -/

/-- The string is a JSON text of the standard that denotes the value. -/
def IsStrictJson (json : CsString) (value : JsonValue) : Prop :=
  ∃ source tree, json = utf16 source ∧ IsText source tree ∧ tree.DistinctKeys ∧
    tree.Strings Paired ∧ value = csDocument tree

/-- A JSON text but for its numbers, in some of which a digit of another script stands
behind the first digit. -/
def HasForeignDigits (json : CsString) : Prop :=
  ∃ source value, json = utf16 source ∧ IsTextBy Literal source value ∧ value.DistinctKeys ∧
    value.Strings Paired ∧ value.nesting ≤ maximumDepth ∧ ¬value.Numbers IsAscii

theorem isAscii_numberText (numeral : Numeral) : IsAscii (numberText numeral) := by
  intro unit membership
  rw [numberText_eq] at membership
  obtain ⟨char, isChar, rfl⟩ := List.mem_map.mp membership
  have ascii := numeral.ascii_text char isChar
  rwa [Numeral.ofNat_val (by decide) ascii]

/-- The numbers of a text of the standard are ASCII. -/
theorem IsStrictJson.ascii {json : CsString} {value : JsonValue}
    (strict : IsStrictJson json value) :
    value.Numbers IsAscii := by
  obtain ⟨source, tree, rfl, _, _, _, rfl⟩ := strict
  apply Tree.numbers_map
  exact tree.numbers_of_forall isAscii_numberText

theorem IsStrictJson.parsed {json : CsString} {value : JsonValue} (strict : IsStrictJson json value)
    (within : WithinLimits json) (shallow : value.nesting ≤ maximumDepth) :
    parse json = .ok value := by
  obtain ⟨source, tree, rfl, isText, distinct, paired, rfl⟩ := strict
  apply parse_of_isText isText distinct paired _ (checkLimits_eq_ok_iff.mpr within)
  rw [← Tree.depth_map id numberText]
  exact (Tree.depth_le_nesting_succ _).trans (Nat.succ_le_succ shallow)

/-- What is parsed is a text of the standard, where its numbers are ASCII. -/
theorem isStrictJson_of_parsed {json : CsString} {value : JsonValue}
    (parsed : parse json = .ok value) (ascii : value.Numbers IsAscii) :
      IsStrictJson json value := by
  obtain ⟨_, source, rfl, isText, distinct, paired, _⟩ := parse_eq_ok_iff.mp parsed
  have literal : ∀ text denoted, Literal text denoted → IsAscii denoted →
      ∃ numeral : Numeral, numeral.WellFormed ∧ numeral.text = text ∧
        numberText numeral = denoted := by
    rintro text _ ⟨rfl, isNumber⟩ asciiText
    obtain ⟨numeral, proper, same⟩ := exists_numeral isNumber asciiText
    exact ⟨numeral, proper, utf16_injective same, same⟩
  obtain ⟨tree, strict, rfl⟩ := isText.exists_isText literal ascii
  exact ⟨source, tree, rfl, strict, distinctKeys_csDocument.mp distinct,
    strings_csDocument.mp paired, rfl⟩

/-- `Parse` and the standard agree on a string within the limits, but for digits of other
scripts. -/
theorem parse_isStrictJson_iff {json : CsString} (within : WithinLimits json) :
    (∀ value, value.nesting ≤ maximumDepth →
      (parse json = .ok value ↔ IsStrictJson json value)) ↔ ¬HasForeignDigits json := by
  constructor
  · rintro agree ⟨source, value, rfl, isText, distinct, paired, shallow, foreign⟩
    have parsed : parse (utf16 source) = .ok value := by
      apply parse_eq_ok_iff.mpr
      refine ⟨checkLimits_eq_ok_iff.mpr within, source, rfl, isText, distinct, paired, ?_⟩
      exact value.depth_le_nesting_succ.trans (Nat.succ_le_succ shallow)
    exact foreign ((agree value shallow).mp parsed).ascii
  · intro none value shallow
    constructor
    · intro parsed
      apply isStrictJson_of_parsed parsed
      by_contra foreign
      obtain ⟨_, source, same, isText, distinct, paired, _⟩ := parse_eq_ok_iff.mp parsed
      exact none ⟨source, value, same, isText, distinct, paired, shallow, foreign⟩
    · exact fun strict => strict.parsed within shallow

/-- `13` has no digits of other scripts, so that the two agree on it. -/
theorem parse_isStrictJson_iff_ascii : WithinLimits (cs "13") ∧
    ((∀ value, value.nesting ≤ maximumDepth →
      (parse (cs "13") = .ok value ↔ IsStrictJson (cs "13") value)) ↔
        ¬HasForeignDigits (cs "13")) := by
  have within : WithinLimits (cs "13") := checkLimits_eq_ok_iff.mp (by decide)
  exact ⟨within, parse_isStrictJson_iff within⟩

/-- A one followed by an Arabic-Indic three is parsed, and is no JSON. -/
theorem arabic_digit_parsed : ¬∀ json value, WithinLimits json → value.nesting ≤ maximumDepth →
    (parse json = .ok value ↔ IsStrictJson json value) := by
  intro agree
  have within : WithinLimits (cs "1\u0663") := checkLimits_eq_ok_iff.mp (by decide)
  have parsed : parse (cs "1\u0663") = .ok (.num (cs "1\u0663")) := rfl
  have ascii : IsAscii (cs "1\u0663") :=
    ((agree _ _ within (Nat.zero_le _)).mp parsed).ascii
  exact absurd (ascii (Fin.ofNat 0x10000 0x663) (by decide)) (by decide)

/-! ## Nesting -/

section Nesting

variable {source : List Char} {value : JsonValue}

/-- The containers at the first level beyond the limit are empty, and there are some. -/
def EmptyBeyondLimit (value : JsonValue) : Prop :=
  (∃ part, Tree.IsContainer part ∧ Tree.StandsAt (maximumDepth + 1) value part) ∧
    ¬∃ part, Tree.StandsAt (maximumDepth + 2) value part

/-- `Parse` complains of the nesting of what it would else accept exactly where a container
lies beyond the limit, unless all such containers are empty. -/
theorem parse_tooDeep_iff (within : WithinLimits (utf16 source))
    (isText : IsTextBy Literal source value) (distinct : value.DistinctKeys)
    (paired : value.Strings Paired) :
    (parse (utf16 source) = tooDeep ↔ ∃ level part, maximumDepth < level ∧
      Tree.IsContainer part ∧ Tree.StandsAt level value part) ↔ ¬EmptyBeyondLimit value := by
  have outcome := parse_of_isTextBy isText distinct paired (checkLimits_eq_ok_iff.mpr within)
  have refused : parse (utf16 source) = tooDeep ↔ maximumDepth + 1 < value.depth := by
    rw [outcome]
    split
    · next shallow => exact iff_of_false nofun (Nat.not_lt.mpr shallow)
    · next deep => exact iff_of_true rfl (Nat.lt_of_not_le deep)
  have deeper := value.nesting_le_depth
  have last : maximumDepth + 1 < value.depth → maximumDepth < value.nesting :=
    Tree.lt_nesting_of_lt_depth
  unfold EmptyBeyondLimit
  rw [refused, Tree.exists_container_beyond, ← Tree.lt_nesting_iff, ← Tree.lt_depth_iff]
  tauto

/-- That many pairs of brackets around an empty one. -/
def brackets : ℕ → List Char
  | 0 => ['[', ']']
  | count + 1 => '[' :: (brackets count ++ [']'])

def nestedArrays : ℕ → JsonValue
  | 0 => .arr []
  | count + 1 => .arr [nestedArrays count]

theorem isTextBy_brackets (count : ℕ) : IsTextBy Literal (brackets count) (nestedArrays count) := by
  have derived : DerivesBy Literal (brackets count) (.value (nestedArrays count)) := by
    induction count with
    | zero => exact .emptyArray Blank.nil
    | succ count inductionHypothesis =>
        have inside := DerivesBy.lastItem Blank.nil inductionHypothesis Blank.nil
        rw [List.nil_append, List.append_nil] at inside
        exact .array inside
  exact ⟨[], _, [], (List.append_nil _).symm, Blank.nil, derived, Blank.nil⟩

theorem nestedArrays_acceptable (count : ℕ) :
    (nestedArrays count).DistinctKeys ∧ (nestedArrays count).Strings Paired := by
  induction count with
  | zero => exact ⟨trivial, trivial⟩
  | succ count inductionHypothesis =>
      exact ⟨⟨inductionHypothesis.1, trivial⟩, inductionHypothesis.2, trivial⟩

theorem measure_nestedArrays (count : ℕ) :
    (nestedArrays count).depth = count + 1 ∧ (nestedArrays count).nesting = count + 1 := by
  induction count with
  | zero => exact ⟨rfl, rfl⟩
  | succ count inductionHypothesis =>
      simp only [nestedArrays, Tree.depth, Tree.depthItems, Tree.nesting, Tree.nestingItems,
        inductionHypothesis]
      omega

/-- Eighteen arrays inside each other. -/
theorem parse_tooDeep_iff_brackets : WithinLimits (utf16 (brackets 17)) ∧
    ((parse (utf16 (brackets 17)) = tooDeep ↔ ∃ level part, maximumDepth < level ∧
      Tree.IsContainer part ∧ Tree.StandsAt level (nestedArrays 17) part) ↔
        ¬EmptyBeyondLimit (nestedArrays 17)) := by
  have within : WithinLimits (utf16 (brackets 17)) := checkLimits_eq_ok_iff.mp (by decide)
  obtain ⟨distinct, paired⟩ := nestedArrays_acceptable 17
  exact ⟨within, parse_tooDeep_iff within (isTextBy_brackets 17) distinct paired⟩

/-- Seventeen arrays inside each other are accepted, the last being empty. -/
theorem empty_container_beyond_accepted : ¬∀ source value, WithinLimits (utf16 source) →
    IsTextBy Literal source value → value.DistinctKeys → value.Strings Paired →
    (parse (utf16 source) = tooDeep ↔ ∃ level part, maximumDepth < level ∧
      Tree.IsContainer part ∧ Tree.StandsAt level value part) := by
  intro agree
  have within : WithinLimits (utf16 (brackets 16)) := checkLimits_eq_ok_iff.mp (by decide)
  obtain ⟨distinct, paired⟩ := nestedArrays_acceptable 16
  obtain ⟨depth, nesting⟩ := measure_nestedArrays 16
  have beyond : maximumDepth < (nestedArrays 16).nesting := by
    rw [nesting]
    decide
  have refused := (agree _ _ within (isTextBy_brackets 16) distinct paired).mpr
    (Tree.exists_container_beyond.mpr beyond)
  rw [parse_of_isTextBy (isTextBy_brackets 16) distinct paired
    (checkLimits_eq_ok_iff.mpr within), depth, if_pos (by decide)] at refused
  cases refused

end Nesting

end StrictJsonParser

end ValeraControlTower.Unity

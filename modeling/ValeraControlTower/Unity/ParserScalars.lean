import ValeraControlTower.Unity.StrictJsonParser

/-!
# The strings and numbers the strict parser reads

A string body without lone surrogates is read as what it denotes, a number literal as
its own text.
-/

namespace ValeraControlTower.Unity

open Unicode Json CsString

/-- The text a number is kept as. -/
def numberText (numeral : Numeral) : CsString := utf16 numeral.text

/-- No surrogate of the text is on its own. -/
abbrev Paired (text : CsString) : Prop := wellFormed text = true

namespace StrictJsonParser

/-! ## Characters -/

/-- The first code unit of a character tells it apart from the characters of the basic
plane. -/
theorem units_head (char : Char) :
    ∃ unit tail, (CodePoint.ofChar char).units = unit :: tail ∧
      ∀ other : Char, other.toNat < 0x10000 → unit = CodeUnit.ofChar other → char = other := by
  by_cases basic : char.toNat < 0x10000
  · refine ⟨_, _, CodePoint.units_ofChar basic, fun other otherBasic same => ?_⟩
    apply Char.toNat_inj.mp
    rw [← CodeUnit.ofChar_val basic, same, CodeUnit.ofChar_val otherBasic]
  · obtain ⟨high, low, pair, isHigh, _, _⟩ :=
      @CodePoint.units_pair (CodePoint.ofChar char) (Nat.le_of_not_lt basic)
    refine ⟨high, [low], pair, ?_⟩
    rintro other otherBasic rfl
    exfalso
    have proper := CodePoint.ofChar_not_surrogate other
    rw [← CodeUnit.point_ofChar otherBasic, CodeUnit.isSurrogate_point] at proper
    rw [CodeUnit.not_high_of_not_surrogate proper] at isHigh
    cases isHigh

theorem isWhitespace_blank {char : Char} (blank : blankChar char = true) :
    ∃ unit, (CodePoint.ofChar char).units = [unit] ∧ isWhitespace unit = true := by
  simp only [blankChar, Bool.or_eq_true, decide_eq_true_eq] at blank
  rcases blank with ((rfl | rfl) | rfl) | rfl <;> exact ⟨_, rfl, by decide⟩

theorem skipWhitespace_solid {char : Char} (solid : blankChar char = false) (rest : CsString) :
    skipWhitespace ((CodePoint.ofChar char).units ++ rest) =
      (CodePoint.ofChar char).units ++ rest := by
  obtain ⟨unit, tail, same, only⟩ := units_head char
  rw [same, List.cons_append]
  apply List.dropWhile_cons_of_neg
  intro blank
  simp only [isWhitespace, Bool.or_eq_true, decide_eq_true_eq] at blank
  rcases blank with ((isSpace | isTab) | isReturn) | isFeed
  · rw [only _ (by decide) isSpace] at solid
    cases solid
  · rw [only _ (by decide) isTab] at solid
    cases solid
  · rw [only _ (by decide) isReturn] at solid
    cases solid
  · rw [only _ (by decide) isFeed] at solid
    cases solid

theorem skipWhitespace_blank {blank : List Char} (isBlank : Blank blank) (rest : CsString) :
    skipWhitespace (utf16 blank ++ rest) = skipWhitespace rest := by
  induction blank with
  | nil => rfl
  | cons char blank inductionHypothesis =>
      obtain ⟨unit, single, white⟩ := isWhitespace_blank (isBlank char (by simp))
      rw [utf16_cons, single, List.cons_append, List.cons_append, List.nil_append]
      refine (List.dropWhile_cons_of_pos white).trans (inductionHypothesis ?_)
      exact fun other membership => isBlank other (by simp [membership])

theorem skipWhitespace_idempotent (source : CsString) :
    skipWhitespace (skipWhitespace source) = skipWhitespace source :=
  List.dropWhile_idempotent _ source

/-- A character of the basic plane that is no blank. -/
theorem skipWhitespace_char {char : Char} (solid : blankChar char = false)
    (basic : char.toNat < 0x10000) (rest : CsString) :
    skipWhitespace (CodeUnit.ofChar char :: rest) = CodeUnit.ofChar char :: rest := by
  have skipped := skipWhitespace_solid solid rest
  rwa [CodePoint.units_ofChar basic] at skipped

/-- Blanks in front of such a character. -/
theorem skipWhitespace_blank_char {blank : List Char} (isBlank : Blank blank) {char : Char}
    (solid : blankChar char = false) (basic : char.toNat < 0x10000) (rest : CsString) :
    skipWhitespace (utf16 blank ++ CodeUnit.ofChar char :: rest) =
      CodeUnit.ofChar char :: rest := by
  rw [skipWhitespace_blank isBlank, skipWhitespace_char solid basic]

theorem consume?_same (char : Char) (rest : CsString) :
    consume? char (CodeUnit.ofChar char :: rest) = some rest :=
  if_pos rfl

theorem consume?_other {char other : Char} (different : other ≠ char)
    (basic : char.toNat < 0x10000) (rest : CsString) :
    consume? char ((CodePoint.ofChar other).units ++ rest) = none := by
  obtain ⟨unit, tail, same, only⟩ := units_head other
  rw [same]
  exact if_neg fun equal => different (only char basic equal)

theorem require_char {blank : List Char} (isBlank : Blank blank) (char : Char)
    (solid : blankChar char = false) (basic : char.toNat < 0x10000) (rest : CsString) :
    require char (skipWhitespace (utf16 blank ++ CodeUnit.ofChar char :: rest)) = .ok rest := by
  unfold require
  rw [skipWhitespace_idempotent, skipWhitespace_blank_char isBlank solid basic, consume?_same]

/-! ## Strings -/

theorem readEscape_known {char : Char} {unit : CodeUnit} (known : escape? char.toNat = some unit)
    (basic : char.toNat < 0x10000) (rest : CsString) :
    readEscape (CodeUnit.ofChar char :: rest) = .ok ([unit], rest) := by
  have notU : CodeUnit.ofChar char ≠ CodeUnit.ofChar 'u' := by
    intro same
    have code : char.toNat = 'u'.toNat := by
      rw [← CodeUnit.ofChar_val basic, same]
      rfl
    rw [code] at known
    have unknown : escape? 'u'.toNat = none := by decide
    rw [unknown] at known
    cases known
  unfold readEscape
  dsimp only
  rw [if_neg notU, CodeUnit.ofChar_val basic, known]

/-- Escapes are ASCII letters and denote ASCII characters. -/
theorem escape?_ascii {code : ℕ} {unit : CodeUnit} (known : escape? code = some unit) :
    code < 0x80 ∧ unit.isSurrogate = false := by
  unfold escape? at known
  repeat' split at known
  all_goals
    cases known
  all_goals
    subst_vars
    decide

theorem hexDigit?_ascii {code : ℕ} {digit : Fin 16} (read : hexDigit? code = some digit) :
    code < 0x80 := by
  have digits : '9'.toNat = 57 ∧ 'f'.toNat = 102 ∧ 'F'.toNat = 70 := by decide
  unfold hexDigit? at read
  split at read
  · omega
  · split at read
    · omega
    · split at read
      · omega
      · cases read

theorem hexUnit?_ascii {first second third fourth : Char} {unit : CodeUnit}
    (hex : hexUnit? first.toNat second.toNat third.toNat fourth.toNat = some unit) :
    first.toNat < 0x80 ∧ second.toNat < 0x80 ∧ third.toNat < 0x80 ∧ fourth.toNat < 0x80 := by
  obtain ⟨_, _, _, _, isFirst, isSecond, isThird, isFourth, _⟩ := hexUnit?_eq_some hex
  exact ⟨hexDigit?_ascii isFirst, hexDigit?_ascii isSecond, hexDigit?_ascii isThird,
    hexDigit?_ascii isFourth⟩

theorem readHexCodeUnit_hex {first second third fourth : Char} {unit : CodeUnit}
    (hex : hexUnit? first.toNat second.toNat third.toNat fourth.toNat = some unit)
    (rest : CsString) :
    readHexCodeUnit (utf16 [first, second, third, fourth] ++ rest) = .ok (unit, rest) := by
  obtain ⟨isFirst, isSecond, isThird, isFourth⟩ := hexUnit?_ascii hex
  simp only [utf16_cons, utf16_nil, List.append_nil, List.append_assoc]
  rw [CodePoint.units_ofChar (by omega), CodePoint.units_ofChar (by omega),
    CodePoint.units_ofChar (by omega), CodePoint.units_ofChar (by omega)]
  simp only [List.cons_append, List.nil_append, readHexCodeUnit]
  rw [CodeUnit.ofChar_val (by omega), CodeUnit.ofChar_val (by omega),
    CodeUnit.ofChar_val (by omega), CodeUnit.ofChar_val (by omega), hex]

theorem readUnicodeEscape_single {first second third fourth : Char} {unit : CodeUnit}
    (hex : hexUnit? first.toNat second.toNat third.toNat fourth.toNat = some unit)
    (proper : unit.isSurrogate = false) (rest : CsString) :
    readUnicodeEscape (utf16 [first, second, third, fourth] ++ rest) = .ok ([unit], rest) := by
  simp only [CodeUnit.isSurrogate, Bool.or_eq_false_iff] at proper
  unfold readUnicodeEscape
  rw [readHexCodeUnit_hex hex]
  change (if !unit.isHighSurrogate then _ else _) = _
  rw [if_pos (by simp [proper.1]), if_neg (by simp [proper.2])]
  rfl

theorem readUnicodeEscape_pair {first second third fourth first' second' third' fourth' : Char}
    {high low : CodeUnit}
    (hex : hexUnit? first.toNat second.toNat third.toNat fourth.toNat = some high)
    (hex' : hexUnit? first'.toNat second'.toNat third'.toNat fourth'.toNat = some low)
    (isHigh : high.isHighSurrogate = true) (isLow : low.isLowSurrogate = true)
    (rest : CsString) :
    readUnicodeEscape (utf16 [first, second, third, fourth] ++
        (utf16 ['\\', 'u', first', second', third', fourth'] ++ rest)) =
      .ok ([high, low], rest) := by
  unfold readUnicodeEscape
  rw [readHexCodeUnit_hex hex]
  change (if !high.isHighSurrogate then _ else _) = _
  rw [if_neg (by simp [isHigh])]
  change (if _ then _ else readHexCodeUnit (utf16 [first', second', third', fourth'] ++ rest)
    >>= _) = _
  rw [if_neg (by decide), readHexCodeUnit_hex hex']
  change (if !low.isLowSurrogate then _ else _) = _
  rw [if_neg (by simp [isLow])]
  rfl

theorem readEscape_unicode (source : CsString) :
    readEscape (CodeUnit.ofChar 'u' :: source) = readUnicodeEscape source := by
  unfold readEscape
  exact if_pos rfl

/-- One round of the loop behind a character that does not end the string. -/
theorem readCharacters_step {rounds : ℕ} {unit : CodeUnit} {source after : CsString}
    {text : CsString} (notQuote : unit ≠ CodeUnit.ofChar '"') (printable : 0x20 ≤ unit.val)
    (read : readCharacter unit source = .ok (text, after)) :
    readCharacters (rounds + 1) (unit :: source) =
      (readCharacters rounds after).map fun later => (text ++ later.1, later.2) := by
  rw [readCharacters, if_neg notQuote, if_neg (Nat.not_lt.mpr printable), read]
  change (readCharacters rounds after >>= fun later => .ok (text ++ later.1, later.2)) = _
  cases readCharacters rounds after with
  | error exception => rfl
  | ok later => rfl

theorem readCharacters_plain {rounds : ℕ} {char : Char} (printable : 0x20 ≤ char.toNat)
    (notQuote : char ≠ '"') (notBackslash : char ≠ '\\') (source : CsString) :
    readCharacters (rounds + 1) ((CodePoint.ofChar char).units ++ source) =
      (readCharacters rounds source).map fun later =>
        ((CodePoint.ofChar char).units ++ later.1, later.2) := by
  have notSurrogate := CodePoint.ofChar_not_surrogate char
  obtain ⟨head, tail, headSame, only⟩ := units_head char
  by_cases basic : char.toNat < 0x10000
  · rw [CodePoint.units_ofChar basic] at headSame ⊢
    cases headSame
    apply readCharacters_step
    · exact fun same => notQuote (only _ (by decide) same)
    · rwa [CodeUnit.ofChar_val basic]
    · rw [readCharacter, if_pos fun same => notBackslash (only _ (by decide) same)]
      rw [← CodeUnit.point_ofChar basic, CodeUnit.isSurrogate_point] at notSurrogate
      exact if_neg (by simp [notSurrogate])
  · obtain ⟨high, low, pair, isHigh, isLow, _⟩ :=
      @CodePoint.units_pair (CodePoint.ofChar char) (Nat.le_of_not_lt basic)
    rw [pair] at headSame ⊢
    cases headSame
    apply readCharacters_step
    · exact fun same => notQuote (only _ (by decide) same)
    · simp only [CodeUnit.isHighSurrogate, decide_eq_true_eq] at isHigh
      omega
    · rw [readCharacter, if_pos fun same => notBackslash (only _ (by decide) same)]
      simp [readPlain, CodeUnit.isSurrogate, isHigh, isLow]

theorem readCharacters_escape {rounds : ℕ} {source after text : CsString}
    (read : readEscape source = .ok (text, after)) :
    readCharacters (rounds + 1) (CodeUnit.ofChar '\\' :: source) =
      (readCharacters rounds after).map fun later => (text ++ later.1, later.2) := by
  apply readCharacters_step (by decide) (by decide)
  rwa [readCharacter, if_neg (by simp)]

/-- The body that follows the escape of a high surrogate goes on with that of a low one. -/
theorem StringBody.low_escape {text : List Char} {low : CodeUnit} {units : List CodeUnit}
    (body : StringBody text (low :: units)) (isLow : low.isLowSurrogate = true) :
    ∃ first second third fourth after,
      text = '\\' :: 'u' :: first :: second :: third :: fourth :: after ∧
      hexUnit? first.toNat second.toNat third.toNat fourth.toNat = some low ∧
      StringBody after units := by
  generalize same : low :: units = read at body
  cases body with
  | nil => cases same
  | @unescaped char _ _ _ _ _ _ =>
      exfalso
      by_cases basic : char.toNat < 0x10000
      · have proper := CodePoint.ofChar_not_surrogate char
        rw [CodePoint.units_ofChar basic] at same
        cases same
        rw [← CodeUnit.point_ofChar basic, CodeUnit.isSurrogate_point, CodeUnit.isSurrogate, isLow,
          Bool.or_true] at proper
        cases proper
      · obtain ⟨high, other, pair, isHigh, _, _⟩ :=
          @CodePoint.units_pair (CodePoint.ofChar char) (Nat.le_of_not_lt basic)
        rw [pair] at same
        cases same
        simp only [CodeUnit.isHighSurrogate, decide_eq_true_eq] at isHigh
        simp only [CodeUnit.isLowSurrogate, decide_eq_true_eq] at isLow
        omega
  | escaped known _ =>
      exfalso
      cases same
      have proper := (escape?_ascii known).2
      rw [CodeUnit.isSurrogate, isLow, Bool.or_true] at proper
      cases proper
  | unicode hex body =>
      cases same
      exact ⟨_, _, _, _, _, rfl, hex, body⟩

/-- Code units that start with a high surrogate go on with a low one. -/
theorem wellFormed_high {high : CodeUnit} {units : List CodeUnit}
    (proper : Paired (high :: units)) (isHigh : high.isHighSurrogate = true) :
    ∃ low rest, units = low :: rest ∧ low.isLowSurrogate = true ∧ Paired rest := by
  cases units with
  | nil => simp [Paired, wellFormed, CodeUnit.isSurrogate, isHigh] at proper
  | cons low rest =>
      simp only [Paired, wellFormed, isHigh, if_true, Bool.and_eq_true] at proper
      exact ⟨low, rest, rfl, proper.1, proper.2⟩

/-- A string body with properly paired surrogates is read back. -/
theorem readCharacters_body {text : List Char} {units : List CodeUnit}
    (body : StringBody text units) (proper : Paired units) {rounds : ℕ}
    (enough : text.length < rounds) (rest : CsString) :
    readCharacters rounds (utf16 text ++ CodeUnit.ofChar '"' :: rest) = .ok (units, rest) := by
  obtain ⟨rounds, rfl⟩ := Nat.exists_eq_succ_of_ne_zero (Nat.ne_of_gt (Nat.zero_lt_of_lt enough))
  cases body with
  | nil => exact if_pos rfl
  | @unescaped char text units printable notQuote notBackslash body =>
      rw [List.length_cons] at enough
      rw [Paired, wellFormed_units_append (CodePoint.ofChar_not_surrogate char)] at proper
      rw [utf16_cons, List.append_assoc, readCharacters_plain printable notQuote notBackslash,
        readCharacters_body body proper (by omega)]
      rfl
  | @escaped char unit text units known body =>
      simp only [List.length_cons] at enough
      obtain ⟨ascii, notSurrogate⟩ := escape?_ascii known
      rw [Paired, wellFormed_cons notSurrogate] at proper
      rw [utf16_cons, utf16_cons, CodePoint.units_ofChar (by decide),
        CodePoint.units_ofChar (by omega)]
      change readCharacters _ (CodeUnit.ofChar '\\' :: CodeUnit.ofChar char ::
        (utf16 text ++ _)) = _
      rw [readCharacters_escape (readEscape_known known (by omega) _),
        readCharacters_body body proper (by omega)]
      rfl
  | @unicode first second third fourth unit text units hex body =>
      simp only [List.length_cons] at enough
      change readCharacters _ (CodeUnit.ofChar '\\' :: CodeUnit.ofChar 'u' ::
        (utf16 ([first, second, third, fourth] ++ text) ++ _)) = _
      rw [utf16_append, List.append_assoc]
      by_cases surrogate : unit.isSurrogate = true
      · have isHigh : unit.isHighSurrogate = true := by
          by_contra notHigh
          simp only [Bool.not_eq_true] at notHigh
          have isLow : unit.isLowSurrogate = true := by
            simpa [CodeUnit.isSurrogate, notHigh] using surrogate
          cases units with
          | nil => simp [Paired, wellFormed, CodeUnit.isSurrogate, isLow] at proper
          | cons other units => simp [Paired, wellFormed, notHigh, isLow] at proper
        obtain ⟨low, units, rfl, isLow, proper⟩ := wellFormed_high proper isHigh
        obtain ⟨first', second', third', fourth', text, rfl, hex', body⟩ :=
          StringBody.low_escape body isLow
        simp only [List.length_cons] at enough
        change readCharacters _ (_ :: _ :: (_ ++
          (utf16 (['\\', 'u', first', second', third', fourth'] ++ text) ++ _))) = _
        rw [utf16_append, List.append_assoc, readCharacters_escape
          ((readEscape_unicode _).trans (readUnicodeEscape_pair hex hex' isHigh isLow _)),
          readCharacters_body body proper (by omega)]
        rfl
      · simp only [Bool.not_eq_true] at surrogate
        rw [Paired, wellFormed_cons surrogate] at proper
        rw [readCharacters_escape
          ((readEscape_unicode _).trans (readUnicodeEscape_single hex surrogate _)),
          readCharacters_body body proper (by omega)]
        rfl
termination_by text.length

theorem length_le_utf16 (text : List Char) : text.length ≤ (utf16 text).length := by
  induction text with
  | nil => exact Nat.le_refl 0
  | cons char text inductionHypothesis =>
      obtain ⟨unit, tail, same, _⟩ := units_head char
      rw [utf16_cons, same, List.length_append, List.length_cons, List.length_cons]
      omega

theorem readString_body {text : List Char} {units : List CodeUnit}
    (body : StringBody text units) (proper : Paired units) (rest : CsString) :
    readString (CodeUnit.ofChar '"' :: (utf16 text ++ CodeUnit.ofChar '"' :: rest)) =
      .ok (units, rest) := by
  have opened : require '"' (CodeUnit.ofChar '"' :: (utf16 text ++ CodeUnit.ofChar '"' :: rest)) =
      .ok (utf16 text ++ CodeUnit.ofChar '"' :: rest) := by
    unfold require
    rw [skipWhitespace_char (by decide) (by decide), consume?_same]
  unfold readString
  rw [opened]
  apply readCharacters_body body proper
  have bound := length_le_utf16 text
  rw [List.length_append]
  omega

end StrictJsonParser

end ValeraControlTower.Unity

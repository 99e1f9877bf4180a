import ValeraControlTower.Library.JsonWriter
import ValeraControlTower.Unity.Encoding
import ValeraControlTower.Unity.ParserScalars

/-!
# The texts the encoders write

Where the text as a whole is well-formed UTF-16, so are the strings in it, and what
`AppendString` writes of each is the inside of a JSON string that denotes it.
-/

namespace ValeraControlTower.Unity.WireCodec

open Unicode Json CsString StrictJsonParser

/-! ## Characters -/

/-- An escape starts with a backslash and denotes the character. -/
def Escapes (unit : CodeUnit) (escape : List Char) : Prop :=
  appendChar unit = utf16 ('\\' :: escape) ∧ unit.isSurrogate = false ∧
    ∀ text units, StringBody text units → StringBody ('\\' :: (escape ++ text)) (unit :: units)

theorem escapes_letter {unit : CodeUnit} {letter : Char} (known : escape? letter.toNat = some unit)
    (appended : appendChar unit = utf16 ['\\', letter]) (proper : unit.isSurrogate = false) :
    Escapes unit [letter] :=
  ⟨appended, proper, fun _ _ body => .escaped known body⟩

theorem hexUnit?_formatX4 : ∀ number : Fin 32,
    hexUnit? (hexChar (number.val / 4096 % 16)).toNat (hexChar (number.val / 256 % 16)).toNat
      (hexChar (number.val / 16 % 16)).toNat (hexChar (number.val % 16)).toNat =
      some (Fin.ofNat 0x10000 number.val) := by
  decide

/-- A character is escaped, or it is appended as it is. -/
theorem appendChar_cases (unit : CodeUnit) :
    (∃ escape, Escapes unit escape) ∨
      appendChar unit = [unit] ∧ 0x20 ≤ unit.val ∧ unit ≠ CodeUnit.ofChar '"' ∧
        unit ≠ CodeUnit.ofChar '\\' := by
  by_cases quote : unit = CodeUnit.ofChar '"'
  · subst quote
    exact .inl ⟨_, @escapes_letter _ '"' rfl (by decide) (by decide)⟩
  by_cases backslash : unit = CodeUnit.ofChar '\\'
  · subst backslash
    exact .inl ⟨_, @escapes_letter _ '\\' rfl (by decide) (by decide)⟩
  by_cases backspace : unit.val = 0x08
  · cases (Fin.ext backspace : unit = 0x08)
    exact .inl ⟨_, @escapes_letter _ 'b' rfl (by decide) (by decide)⟩
  by_cases formFeed : unit.val = 0x0C
  · cases (Fin.ext formFeed : unit = 0x0C)
    exact .inl ⟨_, @escapes_letter _ 'f' rfl (by decide) (by decide)⟩
  by_cases lineFeed : unit = CodeUnit.ofChar '\n'
  · subst lineFeed
    exact .inl ⟨_, @escapes_letter _ 'n' rfl (by decide) (by decide)⟩
  by_cases carriageReturn : unit = CodeUnit.ofChar '\r'
  · subst carriageReturn
    exact .inl ⟨_, @escapes_letter _ 'r' rfl (by decide) (by decide)⟩
  by_cases tab : unit = CodeUnit.ofChar '\t'
  · subst tab
    exact .inl ⟨_, @escapes_letter _ 't' rfl (by decide) (by decide)⟩
  have plain : appendChar unit =
      if unit.val < 0x20 then cs "\\u" ++ utf16 (formatX4 unit.val) else [unit] := by
    unfold appendChar
    rw [if_neg quote, if_neg backslash, if_neg backspace, if_neg formFeed, if_neg lineFeed,
      if_neg carriageReturn, if_neg tab]
  rw [plain]
  by_cases control : unit.val < 0x20
  · refine .inl ⟨'u' :: formatX4 unit.val, ?_, ?_, fun text units body => ?_⟩
    · rw [plain, if_pos control]
      exact (utf16_append "\\u".toList (formatX4 unit.val)).symm
    · simp only [CodeUnit.isSurrogate, CodeUnit.isHighSurrogate, CodeUnit.isLowSurrogate,
        Bool.or_eq_false_iff, decide_eq_false_iff_not]
      omega
    · refine .unicode ?_ body
      rw [hexUnit?_formatX4 ⟨unit.val, control⟩]
      exact congrArg some (Fin.ext (Nat.mod_eq_of_lt unit.isLt))
  · exact .inr ⟨if_neg control, Nat.le_of_not_lt control, quote, backslash⟩

/-- A character of the basic plane that is no surrogate. -/
theorem exists_ofChar {unit : CodeUnit} (proper : unit.isSurrogate = false) :
    ∃ char : Char, (CodePoint.ofChar char).units = [unit] ∧ char.toNat = unit.val := by
  obtain ⟨char, same⟩ := unit.point.exists_char (by rw [CodeUnit.isSurrogate_point, proper])
  refine ⟨char, ?_, ?_⟩
  · rw [← same, units_point]
  · exact (congrArg Fin.val same).symm

theorem plain_body {unit : CodeUnit} (proper : unit.isSurrogate = false)
    (printable : 0x20 ≤ unit.val) (notQuote : unit ≠ CodeUnit.ofChar '"')
    (notBackslash : unit ≠ CodeUnit.ofChar '\\') :
    ∃ char : Char, [unit] = utf16 [char] ∧ ∀ text units, StringBody text units →
      StringBody (char :: text) (unit :: units) := by
  obtain ⟨char, single, code⟩ := exists_ofChar proper
  refine ⟨char, ?_, fun text units body => ?_⟩
  · rw [utf16_cons, single]
    rfl
  · have different (other : Char) (basic : other.toNat < 0x10000)
        (unequal : unit ≠ CodeUnit.ofChar other) : char ≠ other := by
      rintro rfl
      rw [CodePoint.units_ofChar basic, List.singleton_inj] at single
      exact unequal single.symm
    have read := StringBody.unescaped (code ▸ printable) (different '"' (by decide) notQuote)
      (different '\\' (by decide) notBackslash) body
    rwa [single] at read

/-- A surrogate is appended as it is. -/
theorem appendChar_surrogate {unit : CodeUnit} (surrogate : unit.isSurrogate = true) :
    appendChar unit = [unit] := by
  rcases appendChar_cases unit with ⟨_, _, proper, _⟩ | ⟨same, _⟩
  · rw [proper] at surrogate
    cases surrogate
  · exact same

/-- The head of what is appended is a low surrogate only if the character is. -/
theorem head_appendChar (unit : CodeUnit) :
    ∃ head tail, appendChar unit = head :: tail ∧
      (head.isLowSurrogate = true → unit.isLowSurrogate = true) := by
  rcases appendChar_cases unit with ⟨escape, same, _⟩ | ⟨same, _⟩
  · rw [utf16_basic (by decide)] at same
    have notLow : (CodeUnit.ofChar '\\').isLowSurrogate = false := by decide
    refine ⟨_, _, same, fun isLow => ?_⟩
    rw [notLow] at isLow
    cases isLow
  · exact ⟨unit, [], same, id⟩

theorem notHigh_of_wellFormed {unit : CodeUnit} {text rest : CsString}
    (proper : wellFormed (unit :: (text.flatMap appendChar ++ CodeUnit.ofChar '"' :: rest)) = true)
    (noPair : ∀ second after, text = second :: after → ¬second.isLowSurrogate = true) :
    unit.isHighSurrogate = false := by
  rw [← Bool.not_eq_true]
  intro isHigh
  cases text with
  | nil =>
      simp only [List.flatMap_nil, List.nil_append, wellFormed, isHigh, if_true,
        Bool.and_eq_true] at proper
      have isLow := proper.1
      revert isLow
      decide
  | cons second after =>
      obtain ⟨head, tail, same, low⟩ := head_appendChar second
      rw [List.flatMap_cons, same, List.cons_append, List.cons_append] at proper
      simp only [wellFormed, isHigh, if_true, Bool.and_eq_true] at proper
      exact noPair second after rfl (low proper.1)

/-- Behind a string that was written the text goes on with its quote. -/
def Written (text rest : CsString) : Prop :=
  wellFormed (text.flatMap appendChar ++ CodeUnit.ofChar '"' :: rest) = true →
    ∃ body : List Char, text.flatMap appendChar = utf16 body ∧ StringBody body text ∧
      Paired text ∧ wellFormed (CodeUnit.ofChar '"' :: rest) = true

theorem Written.nil (rest : CsString) : Written [] rest :=
  fun proper => ⟨[], rfl, .nil, rfl, proper⟩

/-- A character that is no part of a surrogate pair. -/
theorem Written.cons {unit : CodeUnit} {text rest : CsString}
    (noPair : ∀ second after, text = second :: after →
      ¬(unit.isHighSurrogate && second.isLowSurrogate) = true)
    (inductionHypothesis : Written text rest) : Written (unit :: text) rest := by
  intro proper
  rw [List.flatMap_cons, List.append_assoc] at proper
  rcases appendChar_cases unit with ⟨escape, same, notSurrogate, escaped⟩ |
    ⟨same, printable, notQuote, notBackslash⟩
  · rw [same, wellFormed_utf16_append] at proper
    obtain ⟨body, isBody, denotes, paired, remains⟩ := inductionHypothesis proper
    refine ⟨'\\' :: (escape ++ body), ?_, escaped body text denotes, ?_, remains⟩
    · rw [List.flatMap_cons, same, isBody, ← utf16_append, List.cons_append]
    · exact (wellFormed_cons notSurrogate text).trans paired
  · rw [same, List.singleton_append] at proper
    have notHigh : unit.isHighSurrogate = false := by
      rw [← Bool.not_eq_true]
      intro isHigh
      have notHigh := notHigh_of_wellFormed proper fun second after shape isLow =>
        noPair second after shape (by rw [isHigh, isLow]; rfl)
      rw [isHigh] at notHigh
      cases notHigh
    have notLow : unit.isLowSurrogate = false := by
      rw [← Bool.not_eq_true]
      intro isLow
      cases shape : text.flatMap appendChar ++ CodeUnit.ofChar '"' :: rest with
      | nil => simp at shape
      | cons second after =>
          rw [shape] at proper
          simp [wellFormed, notHigh, isLow] at proper
    have notSurrogate : unit.isSurrogate = false := by
      rw [CodeUnit.isSurrogate, notHigh, notLow]
      rfl
    rw [wellFormed_cons notSurrogate] at proper
    obtain ⟨body, isBody, denotes, paired, remains⟩ := inductionHypothesis proper
    obtain ⟨char, written, plain⟩ := plain_body notSurrogate printable notQuote notBackslash
    refine ⟨char :: body, ?_, plain body text denotes, ?_, remains⟩
    · rw [List.flatMap_cons, same, isBody, written, ← utf16_append, List.singleton_append]
    · exact (wellFormed_cons notSurrogate text).trans paired

/-- The character of a surrogate pair. -/
theorem exists_pair {high low : CodeUnit} (isHigh : high.isHighSurrogate = true)
    (isLow : low.isLowSurrogate = true) :
    ∃ char : Char, (CodePoint.ofChar char).units = [high, low] ∧ 0x10000 ≤ char.toNat := by
  have joined : (joinSurrogates high low).isSurrogate = false := by
    simp only [CodeUnit.isHighSurrogate, decide_eq_true_eq] at isHigh
    simp only [CodeUnit.isLowSurrogate, decide_eq_true_eq] at isLow
    apply decide_eq_false
    simp only [joinSurrogates, Fin.val_ofNat]
    omega
  obtain ⟨char, same⟩ := (joinSurrogates high low).exists_char joined
  have written : (CodePoint.ofChar char).units = [high, low] := by
    rw [← same, units_joinSurrogates isHigh isLow]
  refine ⟨char, written, ?_⟩
  by_contra small
  rw [CodePoint.units_ofChar (by omega)] at written
  cases written

theorem Written.pair {high low : CodeUnit} {text rest : CsString}
    (isHigh : high.isHighSurrogate = true) (isLow : low.isLowSurrogate = true)
    (inductionHypothesis : Written text rest) : Written (high :: low :: text) rest := by
  intro proper
  obtain ⟨char, written, large⟩ := exists_pair isHigh isLow
  have sameHigh : appendChar high = [high] := appendChar_surrogate (by
    rw [CodeUnit.isSurrogate, isHigh, Bool.true_or])
  have sameLow : appendChar low = [low] := appendChar_surrogate (by
    rw [CodeUnit.isSurrogate, isLow, Bool.or_true])
  have same : (high :: low :: text).flatMap appendChar =
      (CodePoint.ofChar char).units ++ text.flatMap appendChar := by
    rw [List.flatMap_cons, List.flatMap_cons, sameHigh, sameLow, written]
    rfl
  rw [same, List.append_assoc,
    wellFormed_units_append (CodePoint.ofChar_not_surrogate char)] at proper
  obtain ⟨body, isBody, denotes, paired, remains⟩ := inductionHypothesis proper
  refine ⟨char :: body, ?_, ?_, ?_, remains⟩
  · rw [same, isBody, utf16_cons]
  · have printable : 0x20 ≤ char.toNat := by omega
    have other (small : Char) (basic : small.toNat < 0x10000) : char ≠ small := by
      rintro rfl
      omega
    have read := StringBody.unescaped printable (other '"' (by decide)) (other '\\' (by decide))
      denotes
    rwa [written] at read
  · simpa [Paired, wellFormed, isHigh, isLow] using paired

/-- The inside of a string that was written. -/
theorem written (text rest : CsString) : Written text rest := by
  induction text using codePoints.induct with
  | case1 => exact .nil rest
  | case2 unit =>
      refine .cons ?_ (.nil rest)
      rintro _ _ ⟨⟩
  | case3 first second text pair inductionHypothesis =>
      rw [Bool.and_eq_true] at pair
      exact .pair pair.1 pair.2 inductionHypothesis
  | case4 first second text noPair inductionHypothesis =>
      refine .cons ?_ inductionHypothesis
      rintro _ _ ⟨⟩
      exact noPair

end ValeraControlTower.Unity.WireCodec

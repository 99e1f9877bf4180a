import Mathlib

/-!
# Code points and UTF-16 code units

Two string models are in use: sequences of Unicode code points, surrogates
included, and sequences of UTF-16 code units.  Text proper, a list of `Char`, is
written to either; reading code units back joins surrogate pairs.
-/

namespace Unicode

/-- A Unicode code point; the surrogates `0xD800`–`0xDFFF` are among them. -/
abbrev CodePoint := Fin 0x110000

/-- A UTF-16 code unit. -/
abbrev CodeUnit := Fin 0x10000

instance neZero_codePoints : NeZero 0x110000 := ⟨by decide⟩

instance neZero_codeUnits : NeZero 0x10000 := ⟨by decide⟩

instance lawfulBEq_codePoint : LawfulBEq CodePoint := inferInstance

instance lawfulBEq_codePoints : LawfulBEq (List CodePoint) := inferInstance

instance lawfulBEq_codeUnits : LawfulBEq (List CodeUnit) := inferInstance

namespace CodePoint

def ofChar (char : Char) : CodePoint :=
  ⟨char.toNat, by
    rcases char.valid with low | ⟨_, high⟩
    · exact Nat.lt_trans low (by decide)
    · exact high⟩

def isSurrogate (point : CodePoint) : Bool :=
  decide (0xD800 ≤ point.val ∧ point.val ≤ 0xDFFF)

/-- Bytes of the UTF-8 encoding. -/
def utf8Length (point : CodePoint) : ℕ :=
  if point.val < 0x80 then 1
  else if point.val < 0x800 then 2
  else if point.val < 0x10000 then 3
  else 4

end CodePoint

namespace CodeUnit

/-- The code unit of a character of the basic plane. -/
def ofChar (char : Char) : CodeUnit := Fin.ofNat 0x10000 char.toNat

def isHighSurrogate (unit : CodeUnit) : Bool :=
  decide (0xD800 ≤ unit.val ∧ unit.val ≤ 0xDBFF)

def isLowSurrogate (unit : CodeUnit) : Bool :=
  decide (0xDC00 ≤ unit.val ∧ unit.val ≤ 0xDFFF)

def isSurrogate (unit : CodeUnit) : Bool :=
  unit.isHighSurrogate || unit.isLowSurrogate

/-- The code point of the same number. -/
def point (unit : CodeUnit) : CodePoint := ⟨unit.val, by omega⟩

end CodeUnit

/-- The code point of a surrogate pair. -/
def joinSurrogates (high low : CodeUnit) : CodePoint :=
  Fin.ofNat 0x110000 (0x10000 + (high.val - 0xD800) * 0x400 + (low.val - 0xDC00))

/-- The UTF-16 encoding of one code point; a surrogate stands for itself. -/
def CodePoint.units (point : CodePoint) : List CodeUnit :=
  if point.val < 0x10000 then [Fin.ofNat 0x10000 point.val]
  else
    [Fin.ofNat 0x10000 (0xD800 + (point.val - 0x10000) / 0x400),
      Fin.ofNat 0x10000 (0xDC00 + (point.val - 0x10000) % 0x400)]

/-- The UTF-16 encoding of a sequence of code points. -/
def units (points : List CodePoint) : List CodeUnit := points.flatMap CodePoint.units

/-- Code units read as code points: surrogate pairs are joined, other surrogates stay. -/
def codePoints : List CodeUnit → List CodePoint
  | [] => []
  | [unit] => [unit.point]
  | first :: second :: rest =>
      if first.isHighSurrogate && second.isLowSurrogate then
        joinSurrogates first second :: codePoints rest
      else first.point :: codePoints (second :: rest)

/-- Every surrogate is half of a pair. -/
def wellFormed : List CodeUnit → Bool
  | [] => true
  | [unit] => !unit.isSurrogate
  | first :: second :: rest =>
      if first.isHighSurrogate then second.isLowSurrogate && wellFormed rest
      else !first.isLowSurrogate && wellFormed (second :: rest)

/-- The code points of a text. -/
def ofChars (text : List Char) : List CodePoint := text.map CodePoint.ofChar

/-- The UTF-16 encoding of a text. -/
def utf16 (text : List Char) : List CodeUnit := units (ofChars text)

/-- The code points of a literal. -/
def points (text : String) : List CodePoint := ofChars text.toList

/-- The code units of a literal. -/
def codeUnits (text : String) : List CodeUnit := utf16 text.toList

/-! ## Characters -/

@[simp]
theorem CodePoint.ofChar_val (char : Char) : (CodePoint.ofChar char).val = char.toNat := rfl

@[simp]
theorem CodePoint.ofChar_inj {first second : Char} :
    CodePoint.ofChar first = CodePoint.ofChar second ↔ first = second := by
  constructor
  · intro same
    exact Char.toNat_inj.mp (congrArg (fun point : CodePoint => point.val) same)
  · exact congrArg _

theorem CodePoint.ofChar_not_surrogate (char : Char) :
    (CodePoint.ofChar char).isSurrogate = false := by
  have valid := char.valid
  apply decide_eq_false
  rintro ⟨above, below⟩
  change 0xD800 ≤ char.toNat at above
  change char.toNat ≤ 0xDFFF at below
  rcases valid with low | ⟨high, _⟩
  · change char.toNat < 0xD800 at low
    omega
  · change 0xDFFF < char.toNat at high
    omega

/-- A code point that is no surrogate is a character. -/
theorem CodePoint.exists_char (point : CodePoint) (proper : point.isSurrogate = false) :
    ∃ char, point = CodePoint.ofChar char := by
  have outside : ¬(0xD800 ≤ point.val ∧ point.val ≤ 0xDFFF) := of_decide_eq_false proper
  have bound := point.isLt
  have valid : point.val.isValidChar := by
    unfold Nat.isValidChar
    omega
  exact ⟨Char.ofNatAux point.val valid, Fin.ext rfl⟩

@[simp]
theorem ofChars_nil : ofChars [] = [] := rfl

@[simp]
theorem ofChars_cons (char : Char) (text : List Char) :
    ofChars (char :: text) = CodePoint.ofChar char :: ofChars text := rfl

@[simp]
theorem ofChars_append (first second : List Char) :
    ofChars (first ++ second) = ofChars first ++ ofChars second :=
  List.map_append

@[simp]
theorem utf16_nil : utf16 [] = [] := rfl

@[simp]
theorem utf16_cons (char : Char) (text : List Char) :
    utf16 (char :: text) = (CodePoint.ofChar char).units ++ utf16 text := rfl

@[simp]
theorem utf16_append (first second : List Char) :
    utf16 (first ++ second) = utf16 first ++ utf16 second := by
  unfold utf16 units
  rw [ofChars_append, List.flatMap_append]

theorem CodePoint.units_ofChar {char : Char} (basic : char.toNat < 0x10000) :
    (CodePoint.ofChar char).units = [CodeUnit.ofChar char] := by
  exact if_pos basic

theorem utf16_basic {char : Char} (basic : char.toNat < 0x10000) (text : List Char) :
    utf16 (char :: text) = CodeUnit.ofChar char :: utf16 text := by
  rw [utf16_cons, CodePoint.units_ofChar basic, List.singleton_append]

/-! ## Reading back -/

theorem CodeUnit.ofChar_val {char : Char} (basic : char.toNat < 0x10000) :
    (CodeUnit.ofChar char).val = char.toNat :=
  Nat.mod_eq_of_lt basic

theorem CodeUnit.point_ofChar {char : Char} (basic : char.toNat < 0x10000) :
    (CodeUnit.ofChar char).point = CodePoint.ofChar char :=
  Fin.ext (CodeUnit.ofChar_val basic)

theorem CodeUnit.isSurrogate_point (unit : CodeUnit) :
    unit.point.isSurrogate = unit.isSurrogate := by
  simp only [CodePoint.isSurrogate, CodeUnit.isSurrogate, CodeUnit.isHighSurrogate,
    CodeUnit.isLowSurrogate, CodeUnit.point, ← Bool.decide_or]
  apply decide_eq_decide.mpr
  omega

theorem codePoints_cons {unit : CodeUnit} (proper : unit.isHighSurrogate = false)
    (rest : List CodeUnit) : codePoints (unit :: rest) = unit.point :: codePoints rest := by
  cases rest with
  | nil => rfl
  | cons second rest => simp [codePoints, proper]

theorem wellFormed_cons {unit : CodeUnit} (proper : unit.isSurrogate = false)
    (rest : List CodeUnit) : wellFormed (unit :: rest) = wellFormed rest := by
  have ⟨notHigh, notLow⟩ : unit.isHighSurrogate = false ∧ unit.isLowSurrogate = false := by
    simpa [CodeUnit.isSurrogate] using proper
  cases rest with
  | nil => simp [wellFormed, proper]
  | cons second rest => simp [wellFormed, notHigh, notLow]

/-- The two code units of a supplementary code point. -/
theorem CodePoint.units_pair {point : CodePoint} (supplementary : 0x10000 ≤ point.val) :
    ∃ high low, point.units = [high, low] ∧ high.isHighSurrogate = true ∧
      low.isLowSurrogate = true ∧ joinSurrogates high low = point := by
  have bound := point.isLt
  refine ⟨_, _, if_neg (by omega), ?_, ?_, Fin.ext ?_⟩
  · simp only [CodeUnit.isHighSurrogate, Fin.val_ofNat, decide_eq_true_eq]
    omega
  · simp only [CodeUnit.isLowSurrogate, Fin.val_ofNat, decide_eq_true_eq]
    omega
  · simp only [joinSurrogates, Fin.val_ofNat]
    omega

theorem CodePoint.units_single {point : CodePoint} (basic : point.val < 0x10000)
    (proper : point.isSurrogate = false) :
    ∃ unit, point.units = [unit] ∧ unit.isSurrogate = false ∧ unit.point = point := by
  refine ⟨_, if_pos basic, ?_, Fin.ext ?_⟩
  · rw [← CodeUnit.isSurrogate_point]
    convert proper using 2
    exact Fin.ext (Nat.mod_eq_of_lt basic)
  · exact Nat.mod_eq_of_lt basic

theorem CodeUnit.not_high_of_not_surrogate {unit : CodeUnit}
    (proper : unit.isSurrogate = false) : unit.isHighSurrogate = false := by
  simp only [CodeUnit.isSurrogate, Bool.or_eq_false_iff] at proper
  exact proper.1

/-- Encoding and reading back. -/
theorem codePoints_units_append {point : CodePoint} (proper : point.isSurrogate = false)
    (rest : List CodeUnit) : codePoints (point.units ++ rest) = point :: codePoints rest := by
  by_cases basic : point.val < 0x10000
  · obtain ⟨unit, single, notSurrogate, same⟩ := CodePoint.units_single basic proper
    rw [single, List.singleton_append,
      codePoints_cons (CodeUnit.not_high_of_not_surrogate notSurrogate), same]
  · obtain ⟨high, low, pair, isHigh, isLow, joined⟩ :=
      CodePoint.units_pair (Nat.le_of_not_lt basic)
    simp [pair, codePoints, isHigh, isLow, joined]

theorem wellFormed_units_append {point : CodePoint} (proper : point.isSurrogate = false)
    (rest : List CodeUnit) : wellFormed (point.units ++ rest) = wellFormed rest := by
  by_cases basic : point.val < 0x10000
  · obtain ⟨unit, single, notSurrogate, _⟩ := CodePoint.units_single basic proper
    rw [single, List.singleton_append, wellFormed_cons notSurrogate]
  · obtain ⟨high, low, pair, isHigh, isLow, _⟩ :=
      CodePoint.units_pair (Nat.le_of_not_lt basic)
    simp [pair, wellFormed, isHigh, isLow]

@[simp]
theorem codePoints_utf16 (text : List Char) : codePoints (utf16 text) = ofChars text := by
  induction text with
  | nil => rfl
  | cons char text inductionHypothesis =>
      rw [utf16_cons, codePoints_units_append (CodePoint.ofChar_not_surrogate char),
        inductionHypothesis, ofChars_cons]

@[simp]
theorem wellFormed_utf16 (text : List Char) : wellFormed (utf16 text) = true := by
  induction text with
  | nil => rfl
  | cons char text inductionHypothesis =>
      rw [utf16_cons, wellFormed_units_append (CodePoint.ofChar_not_surrogate char),
        inductionHypothesis]

theorem wellFormed_utf16_append (text : List Char) (rest : List CodeUnit) :
    wellFormed (utf16 text ++ rest) = wellFormed rest := by
  induction text with
  | nil => rfl
  | cons char text inductionHypothesis =>
      rw [utf16_cons, List.append_assoc,
        wellFormed_units_append (CodePoint.ofChar_not_surrogate char), inductionHypothesis]

theorem joinSurrogates_not_surrogate {high low : CodeUnit} (isHigh : high.isHighSurrogate = true)
    (isLow : low.isLowSurrogate = true) : (joinSurrogates high low).isSurrogate = false := by
  simp only [CodeUnit.isHighSurrogate, decide_eq_true_eq] at isHigh
  simp only [CodeUnit.isLowSurrogate, decide_eq_true_eq] at isLow
  apply decide_eq_false
  simp only [joinSurrogates, Fin.val_ofNat]
  omega

/-- Reading back finds a surrogate exactly in code units that are not well formed. -/
theorem any_isSurrogate_codePoints (source : List CodeUnit) :
    (codePoints source).any CodePoint.isSurrogate = !wellFormed source := by
  induction source using codePoints.induct with
  | case1 => rfl
  | case2 unit => simp [codePoints, wellFormed, CodeUnit.isSurrogate_point]
  | case3 first second rest pair inductionHypothesis =>
      have ⟨isHigh, isLow⟩ : first.isHighSurrogate = true ∧ second.isLowSurrogate = true := by
        simpa using pair
      have proper := joinSurrogates_not_surrogate isHigh isLow
      simp only [codePoints, if_true, List.any_cons, proper, Bool.false_or, inductionHypothesis,
        wellFormed, isHigh, isLow, Bool.true_and]
  | case4 first second rest noPair inductionHypothesis =>
      have apart : codePoints (first :: second :: rest) =
          first.point :: codePoints (second :: rest) := if_neg noPair
      rw [apart, List.any_cons, CodeUnit.isSurrogate_point, inductionHypothesis, wellFormed,
        CodeUnit.isSurrogate]
      cases isHigh : first.isHighSurrogate with
      | true =>
          have notLow : second.isLowSurrogate = false := by simpa [isHigh] using noPair
          simp [notLow]
      | false => simp

theorem units_point (unit : CodeUnit) : unit.point.units = [unit] := by
  have basic : unit.point.val < 0x10000 := unit.isLt
  unfold CodePoint.units
  rw [if_pos basic, List.singleton_inj]
  exact Fin.ext (Nat.mod_eq_of_lt basic)

theorem units_joinSurrogates {high low : CodeUnit} (isHigh : high.isHighSurrogate = true)
    (isLow : low.isLowSurrogate = true) : (joinSurrogates high low).units = [high, low] := by
  simp only [CodeUnit.isHighSurrogate, decide_eq_true_eq] at isHigh
  simp only [CodeUnit.isLowSurrogate, decide_eq_true_eq] at isLow
  have joined : (joinSurrogates high low).val =
      0x10000 + (high.val - 0xD800) * 0x400 + (low.val - 0xDC00) := by
    simp only [joinSurrogates, Fin.val_ofNat]
    omega
  unfold CodePoint.units
  rw [if_neg (by omega), joined]
  simp only [List.cons.injEq, and_true]
  constructor
  · apply Fin.ext
    simp only [Fin.val_ofNat]
    omega
  · apply Fin.ext
    simp only [Fin.val_ofNat]
    omega

/-- A code unit that is no surrogate is a character. -/
theorem CodeUnit.exists_char {unit : CodeUnit} (proper : unit.isSurrogate = false) :
    ∃ char : Char, (CodePoint.ofChar char).units = [unit] ∧ char.toNat = unit.val := by
  obtain ⟨char, same⟩ := unit.point.exists_char (by rw [unit.isSurrogate_point, proper])
  refine ⟨char, ?_, ?_⟩
  · rw [← same, units_point]
  · exact (congrArg Fin.val same).symm

/-- A surrogate pair is a character outside the basic plane. -/
theorem exists_char_pair {high low : CodeUnit} (isHigh : high.isHighSurrogate = true)
    (isLow : low.isLowSurrogate = true) :
    ∃ char : Char, (CodePoint.ofChar char).units = [high, low] ∧ 0x10000 ≤ char.toNat := by
  obtain ⟨char, same⟩ :=
    (joinSurrogates high low).exists_char (joinSurrogates_not_surrogate isHigh isLow)
  have pair := units_joinSurrogates isHigh isLow
  rw [same] at pair
  refine ⟨char, pair, ?_⟩
  by_contra basic
  rw [CodePoint.units_ofChar (Nat.lt_of_not_le basic)] at pair
  cases pair

/-- Reading code units as code points loses nothing, lone surrogates included. -/
theorem units_codePoints (source : List CodeUnit) : units (codePoints source) = source := by
  induction source using codePoints.induct with
  | case1 => rfl
  | case2 unit => exact (List.append_nil _).trans (units_point unit)
  | case3 first second rest pair inductionHypothesis =>
      simp only [codePoints, pair, if_true]
      simp only [Bool.and_eq_true] at pair
      change (joinSurrogates first second).units ++ units (codePoints rest) = _
      rw [units_joinSurrogates pair.1 pair.2, inductionHypothesis]
      rfl
  | case4 first second rest noPair inductionHypothesis =>
      simp only [codePoints, noPair]
      change first.point.units ++ units (codePoints (second :: rest)) = _
      rw [units_point, inductionHypothesis]
      rfl

/-- Code points without surrogates are a text. -/
theorem exists_ofChars {points : List CodePoint}
    (plain : points.any CodePoint.isSurrogate = false) : ∃ text, points = ofChars text := by
  induction points with
  | nil => exact ⟨[], rfl⟩
  | cons point points inductionHypothesis =>
      simp only [List.any_cons, Bool.or_eq_false_iff] at plain
      obtain ⟨text, rfl⟩ := inductionHypothesis plain.2
      obtain ⟨char, rfl⟩ := point.exists_char plain.1
      exact ⟨char :: text, rfl⟩

/-- Well-formed code units are the encoding of a text. -/
theorem exists_utf16 {source : List CodeUnit} (proper : wellFormed source = true) :
    ∃ text, source = utf16 text := by
  have noSurrogate := any_isSurrogate_codePoints source
  rw [proper, Bool.not_true] at noSurrogate
  obtain ⟨text, same⟩ := exists_ofChars noSurrogate
  exact ⟨text, by rw [← units_codePoints source, same]; rfl⟩

theorem codePoints_injective : Function.Injective codePoints := by
  intro first second same
  rw [← units_codePoints first, same, units_codePoints]

theorem utf16_injective : Function.Injective utf16 := by
  intro first second same
  have read : ofChars first = ofChars second := by
    rw [← codePoints_utf16, same, codePoints_utf16]
  exact List.map_injective_iff.mpr (fun _ _ => CodePoint.ofChar_inj.mp) read

end Unicode

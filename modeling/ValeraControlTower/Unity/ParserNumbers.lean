import ValeraControlTower.Unity.ParserScalars

/-!
# The numbers the strict parser reads

`ReadNumber` takes a sign, digits, a fraction and an exponent, and a digit is what
`char.IsDigit` says: a decimal digit of any script.  Only the character a number starts with
is compared with the ASCII digits.
-/

namespace ValeraControlTower.Unity

open Unicode Json CsString

namespace StrictJsonParser

/-! ## The shape of a number -/

/-- A nonempty run of digits. -/
structure IsDigits (digits : CsString) : Prop where
  nonempty : digits ≠ []
  all : ∀ unit ∈ digits, isDigit unit = true

/-- A zero, or digits that do not start with one. -/
inductive IsInteger : CsString → Prop
  | zero : IsInteger [CodeUnit.ofChar '0']
  | digits {digits : CsString} (isDigits : IsDigits digits)
      (plain : digits.head? ≠ some (CodeUnit.ofChar '0')) : IsInteger digits

inductive IsFraction : CsString → Prop
  | none : IsFraction []
  | some {digits : CsString} (isDigits : IsDigits digits) :
      IsFraction (CodeUnit.ofChar '.' :: digits)

inductive IsSign : CsString → Prop
  | none : IsSign []
  | plus : IsSign [CodeUnit.ofChar '+']
  | minus : IsSign [CodeUnit.ofChar '-']

inductive IsExponent : CsString → Prop
  | none : IsExponent []
  | some {letter : CodeUnit} {sign digits : CsString}
      (isLetter : letter = CodeUnit.ofChar 'e' ∨ letter = CodeUnit.ofChar 'E')
      (isSign : IsSign sign) (isDigits : IsDigits digits) : IsExponent (letter :: (sign ++ digits))

/-- The character a value must start with to be read as a number. -/
def StartsNumber (unit : CodeUnit) : Prop :=
  unit = CodeUnit.ofChar '-' ∨ (48 ≤ unit.val ∧ unit.val ≤ 57)

/-- What `ReadNumber` reads behind the first character of a number. -/
inductive IsNumber : CsString → Prop
  | positive {first : CodeUnit} {integer fraction exponent : CsString}
      (ascii : 48 ≤ first.val ∧ first.val ≤ 57) (isInteger : IsInteger (first :: integer))
      (isFraction : IsFraction fraction) (isExponent : IsExponent exponent) :
      IsNumber ((first :: integer) ++ (fraction ++ exponent))
  | negative {integer fraction exponent : CsString} (isInteger : IsInteger integer)
      (isFraction : IsFraction fraction) (isExponent : IsExponent exponent) :
      IsNumber (CodeUnit.ofChar '-' :: (integer ++ (fraction ++ exponent)))

/-! ## Digits -/

/-- The head is no digit. -/
def DigitFree (rest : CsString) : Prop := ∀ unit, rest.head? = some unit → isDigit unit = false

/-- Nothing at the head continues a number. -/
def Ends (rest : CsString) : Prop :=
  ∀ unit, rest.head? = some unit → isDigit unit = false ∧ unit ≠ CodeUnit.ofChar '.' ∧
    unit ≠ CodeUnit.ofChar 'e' ∧ unit ≠ CodeUnit.ofChar 'E'

theorem Ends.digitFree {rest : CsString} (ends : Ends rest) : DigitFree rest :=
  fun unit head => (ends unit head).1

theorem consume?_unit {char other : Char} (different : other ≠ char)
    (basic : char.toNat < 0x10000) (otherBasic : other.toNat < 0x10000) (rest : CsString) :
    consume? char (CodeUnit.ofChar other :: rest) = none := by
  have consumed := consume?_other different basic rest
  rwa [CodePoint.units_ofChar otherBasic] at consumed

theorem consume?_none {char : Char} {source : CsString}
    (other : source.head? ≠ some (CodeUnit.ofChar char)) : consume? char source = none := by
  cases source with
  | nil => rfl
  | cons unit rest => exact if_neg fun same => other (congrArg some same)

theorem IsDigits.ne_char {digits : CsString} (isDigits : IsDigits digits) {char : Char}
    (other : isDigit (CodeUnit.ofChar char) = false) :
    digits.head? ≠ some (CodeUnit.ofChar char) := by
  intro same
  have digit := isDigits.all _ (List.mem_of_mem_head? same)
  rw [other] at digit
  cases digit

theorem dropDigits {digits : CsString} (all : ∀ unit ∈ digits, isDigit unit = true)
    {rest : CsString} (free : DigitFree rest) : (digits ++ rest).dropWhile isDigit = rest := by
  induction digits with
  | nil =>
      cases rest with
      | nil => rfl
      | cons unit rest => exact List.dropWhile_cons_of_neg (by simp [free unit rfl])
  | cons digit digits inductionHypothesis =>
      have first : isDigit digit = true := all digit List.mem_cons_self
      apply (List.dropWhile_cons_of_pos first).trans
      apply inductionHypothesis
      exact fun unit membership => all unit (List.mem_cons_of_mem _ membership)

theorem requireDigits_digits {digits : CsString} (isDigits : IsDigits digits) {rest : CsString}
    (free : DigitFree rest) : requireDigits (digits ++ rest) = .ok rest := by
  obtain ⟨nonempty, all⟩ := isDigits
  cases digits with
  | nil => exact absurd rfl nonempty
  | cons digit digits =>
      have first : requireDigit (digit :: digits ++ rest) = .ok (digits ++ rest) :=
        if_pos (all digit List.mem_cons_self)
      unfold requireDigits
      rw [first]
      apply congrArg Except.ok
      apply dropDigits _ free
      exact fun unit membership => all unit (List.mem_cons_of_mem _ membership)

theorem requireDigits_sound {source rest : CsString} (read : requireDigits source = .ok rest) :
    ∃ digits, IsDigits digits ∧ source = digits ++ rest := by
  obtain ⟨after, first, dropped⟩ := bind_eq_ok read
  cases dropped
  cases source with
  | nil => cases first
  | cons unit source =>
      rw [requireDigit] at first
      split at first
      · next digit =>
          have same := Except.ok.inj first
          subst same
          refine ⟨unit :: source.takeWhile isDigit, ⟨by simp, ?_⟩, ?_⟩
          · intro other membership
            rcases List.mem_cons.mp membership with rfl | later
            · exact digit
            · exact List.mem_takeWhile_imp later
          · rw [List.cons_append, List.takeWhile_append_dropWhile]
      · cases first

/-! ## The parts of a number -/

theorem integerEnd_integer {integer : CsString} (isInteger : IsInteger integer) {rest : CsString}
    (free : DigitFree rest) : integerEnd (integer ++ rest) = .ok rest := by
  cases isInteger with
  | zero =>
      cases rest with
      | nil => rfl
      | cons unit rest => exact if_neg (by simp [free unit rfl])
  | digits isDigits plain =>
      have other : consume? '0' (integer ++ rest) = none := by
        apply consume?_none
        cases integer with
        | nil => exact absurd rfl isDigits.nonempty
        | cons unit integer => exact plain
      unfold integerEnd
      rw [other]
      exact requireDigits_digits isDigits free

theorem consume?_eq_some {char : Char} {source rest : CsString}
    (consumed : consume? char source = some rest) : source = CodeUnit.ofChar char :: rest := by
  cases source with
  | nil => cases consumed
  | cons unit source =>
      rw [consume?] at consumed
      split at consumed
      · next same =>
          cases consumed
          rw [same]
      · cases consumed

theorem head?_of_consume?_none {char : Char} {source : CsString}
    (missed : consume? char source = none) : source.head? ≠ some (CodeUnit.ofChar char) := by
  cases source with
  | nil => simp
  | cons unit source =>
      intro same
      rw [Option.some.inj same, consume?_same] at missed
      cases missed

theorem integerEnd_sound {source rest : CsString} (read : integerEnd source = .ok rest) :
    ∃ integer, IsInteger integer ∧ source = integer ++ rest := by
  unfold integerEnd at read
  split at read
  · next consumed =>
      cases read
      exact ⟨_, .zero, consume?_eq_some consumed⟩
  · next unit after consumed =>
      split at read
      · cases read
      · cases read
        exact ⟨_, .zero, consume?_eq_some consumed⟩
  · next missed =>
      obtain ⟨digits, isDigits, rfl⟩ := requireDigits_sound read
      refine ⟨digits, .digits isDigits ?_, rfl⟩
      have other := head?_of_consume?_none missed
      cases digits with
      | nil => simp
      | cons unit digits => exact other

theorem fractionEnd_fraction {fraction : CsString} (isFraction : IsFraction fraction)
    {rest : CsString} (free : DigitFree rest)
    (notPoint : rest.head? ≠ some (CodeUnit.ofChar '.')) :
    fractionEnd (fraction ++ rest) = .ok rest := by
  cases isFraction with
  | none =>
      unfold fractionEnd
      rw [List.nil_append, consume?_none notPoint]
  | some isDigits => exact requireDigits_digits isDigits free

theorem fractionEnd_sound {source rest : CsString} (read : fractionEnd source = .ok rest) :
    ∃ fraction, IsFraction fraction ∧ source = fraction ++ rest := by
  unfold fractionEnd at read
  split at read
  · next after consumed =>
      obtain ⟨digits, isDigits, rfl⟩ := requireDigits_sound read
      exact ⟨_, .some isDigits, consume?_eq_some consumed⟩
  · cases read
    exact ⟨[], .none, rfl⟩

theorem signEnd_sign {sign digits : CsString} (isSign : IsSign sign) (isDigits : IsDigits digits)
    (rest : CsString) : signEnd (sign ++ (digits ++ rest)) = digits ++ rest := by
  cases isSign with
  | plus => rfl
  | minus => rfl
  | none =>
      have notPlus := isDigits.ne_char (show isDigit (CodeUnit.ofChar '+') = false by decide)
      have notMinus := isDigits.ne_char (show isDigit (CodeUnit.ofChar '-') = false by decide)
      cases digits with
      | nil => exact absurd rfl isDigits.nonempty
      | cons digit digits =>
          apply if_neg
          rintro (rfl | rfl)
          · exact notPlus rfl
          · exact notMinus rfl

theorem signEnd_sound (source : CsString) :
    ∃ sign, IsSign sign ∧ source = sign ++ signEnd source := by
  cases source with
  | nil => exact ⟨[], .none, rfl⟩
  | cons unit source =>
      simp only [signEnd]
      split
      · next isSign =>
          rcases isSign with rfl | rfl
          · exact ⟨_, .plus, rfl⟩
          · exact ⟨_, .minus, rfl⟩
      · exact ⟨[], .none, rfl⟩

theorem exponentEnd_exponent {exponent : CsString} (isExponent : IsExponent exponent)
    {rest : CsString} (ends : Ends rest) : exponentEnd (exponent ++ rest) = .ok rest := by
  cases isExponent with
  | none =>
      cases rest with
      | nil => rfl
      | cons unit rest =>
          obtain ⟨_, _, notSmall, notCapital⟩ := ends unit rfl
          exact if_neg (by simp [notSmall, notCapital])
  | @some letter sign digits isLetter isSign isDigits =>
      have lettered : exponentEnd (letter :: (sign ++ digits) ++ rest) =
          requireDigits (signEnd ((sign ++ digits) ++ rest)) := if_pos isLetter
      rw [lettered, List.append_assoc, signEnd_sign isSign isDigits]
      exact requireDigits_digits isDigits ends.digitFree

theorem exponentEnd_sound {source rest : CsString} (read : exponentEnd source = .ok rest) :
    ∃ exponent, IsExponent exponent ∧ source = exponent ++ rest := by
  cases source with
  | nil =>
      cases read
      exact ⟨[], .none, rfl⟩
  | cons unit source =>
      rw [exponentEnd] at read
      split at read
      · next isLetter =>
          obtain ⟨sign, isSign, split⟩ := signEnd_sound source
          obtain ⟨digits, isDigits, same⟩ := requireDigits_sound read
          refine ⟨unit :: (sign ++ digits), .some isLetter isSign isDigits, ?_⟩
          rw [split, same]
          simp
      · cases read
        exact ⟨[], .none, rfl⟩

/-- What may follow the integer part continues neither it nor a fraction. -/
theorem digitFree_exponent {exponent : CsString} (isExponent : IsExponent exponent)
    {rest : CsString} (ends : Ends rest) :
    DigitFree (exponent ++ rest) ∧ (exponent ++ rest).head? ≠ some (CodeUnit.ofChar '.') := by
  cases isExponent with
  | none =>
      refine ⟨ends.digitFree, fun point => ?_⟩
      exact (ends _ point).2.1 rfl
  | some isLetter isSign isDigits =>
      rcases isLetter with rfl | rfl
      · refine ⟨?_, by simp; decide⟩
        rintro _ ⟨⟩
        decide
      · refine ⟨?_, by simp; decide⟩
        rintro _ ⟨⟩
        decide

theorem digitFree_fraction {fraction : CsString} (isFraction : IsFraction fraction)
    {rest : CsString} (free : DigitFree rest) : DigitFree (fraction ++ rest) := by
  cases isFraction with
  | none => exact free
  | some isDigits =>
      rintro _ ⟨⟩
      decide

/-! ## Whole numbers -/

theorem take_append_sub (written rest : CsString) :
    (written ++ rest).take ((written ++ rest).length - rest.length) = written := by
  rw [List.length_append, Nat.add_sub_cancel, List.take_left]

/-- The parts of a number behind its sign. -/
theorem readNumber_unsigned {sign integer fraction exponent rest : CsString}
    (unsigned : (consume? '-' (sign ++ (integer ++ (fraction ++ exponent)) ++ rest)).getD
        (sign ++ (integer ++ (fraction ++ exponent)) ++ rest) =
      integer ++ (fraction ++ (exponent ++ rest)))
    (isInteger : IsInteger integer) (isFraction : IsFraction fraction)
    (isExponent : IsExponent exponent) (ends : Ends rest) :
    readNumber (sign ++ (integer ++ (fraction ++ exponent)) ++ rest) =
      .ok (sign ++ (integer ++ (fraction ++ exponent)), rest) := by
  obtain ⟨free, notPoint⟩ := digitFree_exponent isExponent ends
  have present : (integer ++ (fraction ++ (exponent ++ rest))).isEmpty = false := by
    cases isInteger with
    | zero => rfl
    | digits isDigits =>
        cases integer with
        | nil => exact absurd rfl isDigits.nonempty
        | cons digit digits => rfl
  unfold readNumber
  simp only [unsigned, present, Bool.false_eq_true, if_false,
    integerEnd_integer isInteger (digitFree_fraction isFraction free),
    fractionEnd_fraction isFraction free notPoint, exponentEnd_exponent isExponent ends, bind,
    Except.bind, pure, Except.pure]
  rw [take_append_sub]

/-- A number is kept as its text. -/
theorem readNumber_of_isNumber {text : CsString} (isNumber : IsNumber text) {rest : CsString}
    (ends : Ends rest) : readNumber (text ++ rest) = .ok (text, rest) := by
  cases isNumber with
  | @positive first integer fraction exponent ascii isInteger isFraction isExponent =>
      have notMinus : first ≠ CodeUnit.ofChar '-' := by
        rintro rfl
        exact absurd ascii (by decide)
      have missed : consume? '-' ((first :: integer) ++ (fraction ++ (exponent ++ rest))) = none :=
        consume?_none fun same => notMinus (Option.some.inj same)
      refine @readNumber_unsigned [] _ _ _ _ ?_ isInteger isFraction isExponent ends
      simp only [List.nil_append, List.append_assoc, missed, Option.getD_none]
  | @negative integer fraction exponent isInteger isFraction isExponent =>
      refine @readNumber_unsigned [CodeUnit.ofChar '-'] _ _ _ _ ?_ isInteger isFraction isExponent
        ends
      simp only [List.cons_append, List.nil_append, List.append_assoc, consume?_same,
        Option.getD_some]

/-- What is read is a number, where the value starts like one. -/
theorem readNumber_sound {source text rest : CsString}
    (starts : ∀ unit, source.head? = some unit → StartsNumber unit)
    (read : readNumber source = .ok (text, rest)) : IsNumber text ∧ source = text ++ rest := by
  unfold readNumber at read
  dsimp only at read
  split at read
  · cases read
  · obtain ⟨afterInteger, readInteger, read⟩ := bind_eq_ok read
    obtain ⟨afterFraction, readFraction, read⟩ := bind_eq_ok read
    obtain ⟨afterExponent, readExponent, read⟩ := bind_eq_ok read
    cases read
    obtain ⟨integer, isInteger, unsigned⟩ := integerEnd_sound readInteger
    obtain ⟨fraction, isFraction, rfl⟩ := fractionEnd_sound readFraction
    obtain ⟨exponent, isExponent, rfl⟩ := exponentEnd_sound readExponent
    cases consumed : consume? '-' source with
    | some after =>
        rw [consumed] at unsigned
        obtain rfl : after = integer ++ (fraction ++ (exponent ++ rest)) := unsigned
        have same :
            source = (CodeUnit.ofChar '-' :: (integer ++ (fraction ++ exponent))) ++ rest := by
          rw [consume?_eq_some consumed]
          simp
        rw [same, take_append_sub]
        exact ⟨.negative isInteger isFraction isExponent, rfl⟩
    | none =>
        rw [consumed] at unsigned
        obtain rfl : source = integer ++ (fraction ++ (exponent ++ rest)) := unsigned
        cases integer with
        | nil =>
            cases isInteger with
            | digits isDigits => exact absurd rfl isDigits.nonempty
        | cons first integer =>
            have same : first :: integer ++ (fraction ++ (exponent ++ rest)) =
                ((first :: integer) ++ (fraction ++ exponent)) ++ rest := by
              simp
            have ascii : 48 ≤ first.val ∧ first.val ≤ 57 := by
              apply (starts first rfl).resolve_left
              rintro rfl
              exact head?_of_consume?_none consumed rfl
            rw [same, take_append_sub]
            exact ⟨.positive ascii isInteger isFraction isExponent, rfl⟩

/-! ## Literals of the standard -/

/-- All code units are ASCII. -/
def IsAscii (text : CsString) : Prop := ∀ unit ∈ text, unit.val < 128

/-- The code units of some digits. -/
def digitUnits (digits : List Digit) : CsString :=
  digits.map fun digit => CodeUnit.ofChar digit.char

theorem encode_digits (digits : List Digit) :
    Numeral.encode 0x10000 (digits.map Digit.char) = digitUnits digits := by
  simp only [Numeral.encode, digitUnits, List.map_map]
  rfl

theorem numberText_eq (numeral : Numeral) :
    numberText numeral = Numeral.encode 0x10000 numeral.text :=
  Numeral.utf16_eq_encode numeral.ascii_text

theorem isDigit_digit (digit : Digit) : isDigit (CodeUnit.ofChar digit.char) = true := by
  revert digit
  decide

theorem digitUnit_bounds (digit : Digit) :
    48 ≤ (CodeUnit.ofChar digit.char).val ∧ (CodeUnit.ofChar digit.char).val ≤ 57 := by
  revert digit
  decide

theorem isDigits_digitUnits {digits : List Digit} (nonempty : digits ≠ []) :
    IsDigits (digitUnits digits) where
  nonempty := by simpa [digitUnits] using nonempty
  all := by
    intro unit membership
    obtain ⟨digit, _, rfl⟩ := List.mem_map.mp membership
    exact isDigit_digit digit

theorem digitUnit_zero {digit : Digit} (same : CodeUnit.ofChar digit.char = CodeUnit.ofChar '0') :
    digit = 0 := by
  revert digit
  decide

theorem isInteger_digitUnits {digits : List Digit} (nonempty : digits ≠ [])
    (noLeadingZero : digits.head? = some 0 → digits = [0]) : IsInteger (digitUnits digits) := by
  by_cases zero : digits.head? = some 0
  · rw [noLeadingZero zero]
    exact .zero
  · apply IsInteger.digits (isDigits_digitUnits nonempty)
    cases digits with
    | nil => exact absurd rfl nonempty
    | cons digit digits =>
        intro same
        exact zero (congrArg some (digitUnit_zero (Option.some.inj same)))

/-- The literals of the standard are numbers. -/
theorem isNumber_numberText {numeral : Numeral} (wellFormed : numeral.WellFormed) :
    IsNumber (numberText numeral) := by
  obtain ⟨negative, integer, fraction, exponent⟩ := numeral
  obtain ⟨present, plain, fractionDigits, exponentDigits⟩ := wellFormed
  have isInteger := isInteger_digitUnits present plain
  have isFraction : IsFraction (Numeral.encode 0x10000 (Numeral.fractionText fraction)) := by
    cases fraction with
    | none => exact .none
    | some digits =>
        change IsFraction (CodeUnit.ofChar '.' :: Numeral.encode 0x10000 (digits.map Digit.char))
        rw [encode_digits]
        exact .some (isDigits_digitUnits (fractionDigits digits rfl))
  have isExponent : IsExponent (Numeral.encode 0x10000 (Numeral.exponentText exponent)) := by
    cases exponent with
    | none => exact .none
    | some parts =>
        obtain ⟨capital, sign, digits⟩ := parts
        have isDigits := isDigits_digitUnits (exponentDigits capital sign digits rfl)
        have isSign : IsSign (Numeral.encode 0x10000 (Numeral.signText sign)) := by
          cases sign with
          | none => exact .none
          | some minus =>
              cases minus with
              | false => exact .plus
              | true => exact .minus
        rw [← encode_digits] at isDigits
        cases capital with
        | false =>
            change IsExponent (CodeUnit.ofChar 'e' ::
              Numeral.encode 0x10000 (Numeral.signText sign ++ digits.map Digit.char))
            rw [Numeral.encode_append]
            exact .some (.inl rfl) isSign isDigits
        | true =>
            change IsExponent (CodeUnit.ofChar 'E' ::
              Numeral.encode 0x10000 (Numeral.signText sign ++ digits.map Digit.char))
            rw [Numeral.encode_append]
            exact .some (.inr rfl) isSign isDigits
  rw [numberText_eq]
  unfold Numeral.text Numeral.integerText
  dsimp only
  rw [Numeral.encode_append, Numeral.encode_append, Numeral.encode_append, encode_digits]
  cases negative with
  | true => exact .negative isInteger isFraction isExponent
  | false =>
      cases integer with
      | nil => exact absurd rfl present
      | cons digit digits =>
          exact .positive (digitUnit_bounds digit) isInteger isFraction isExponent

theorem digit_of_ascii {unit : CodeUnit} (digit : isDigit unit = true) (ascii : unit.val < 128) :
    ∃ value : Digit, unit = CodeUnit.ofChar value.char := by
  obtain ⟨low, membership, bounds⟩ := List.any_eq_true.mp digit
  have low_eq : low = 0x30 := by
    have others : ∀ low ∈ digitZeros, low = 0x30 ∨ 128 ≤ low := by decide
    have within := of_decide_eq_true bounds
    exact (others low membership).resolve_right (by omega)
  subst low_eq
  have within := of_decide_eq_true bounds
  refine ⟨Fin.ofNat 10 (unit.val - 0x30), Fin.ext ?_⟩
  have small : (Fin.ofNat 10 (unit.val - 0x30)).val = unit.val - 0x30 := by
    apply Nat.mod_eq_of_lt
    omega
  have code := Digit.char_toNat (Fin.ofNat 10 (unit.val - 0x30))
  rw [CodeUnit.ofChar_val (by omega), code, small]
  omega

theorem digits_of_ascii {digits : CsString} (isDigits : IsDigits digits) (ascii : IsAscii digits) :
    ∃ values : List Digit, values ≠ [] ∧ digitUnits values = digits := by
  have all := isDigits.all
  have found : ∃ values : List Digit, digitUnits values = digits := by
    clear isDigits
    induction digits with
    | nil => exact ⟨[], rfl⟩
    | cons unit digits inductionHypothesis =>
        obtain ⟨value, rfl⟩ := digit_of_ascii (all unit List.mem_cons_self)
          (ascii unit List.mem_cons_self)
        obtain ⟨values, rfl⟩ := inductionHypothesis
          (fun other membership => ascii other (List.mem_cons_of_mem _ membership))
          fun other membership => all other (List.mem_cons_of_mem _ membership)
        exact ⟨value :: values, rfl⟩
  obtain ⟨values, rfl⟩ := found
  refine ⟨values, ?_, rfl⟩
  rintro rfl
  exact isDigits.nonempty rfl

theorem IsAscii.append {first second : CsString} (ascii : IsAscii (first ++ second)) :
    IsAscii first ∧ IsAscii second :=
  ⟨fun unit membership => ascii unit (List.mem_append_left _ membership),
    fun unit membership => ascii unit (List.mem_append_right _ membership)⟩

theorem integer_of_ascii {integer : CsString} (isInteger : IsInteger integer)
    (ascii : IsAscii integer) : ∃ values : List Digit, values ≠ [] ∧
      (values.head? = some 0 → values = [0]) ∧ digitUnits values = integer := by
  cases isInteger with
  | zero => exact ⟨[0], by simp, fun _ => rfl, rfl⟩
  | digits isDigits plain =>
      obtain ⟨values, nonempty, rfl⟩ := digits_of_ascii isDigits ascii
      refine ⟨values, nonempty, ?_, rfl⟩
      intro zero
      cases values with
      | nil => cases zero
      | cons value values =>
          cases zero
          exact absurd rfl plain

theorem fraction_of_ascii {fraction : CsString} (isFraction : IsFraction fraction)
    (ascii : IsAscii fraction) : ∃ values : Option (List Digit),
      (∀ digits, values = some digits → digits ≠ []) ∧
      Numeral.encode 0x10000 (Numeral.fractionText values) = fraction := by
  cases isFraction with
  | none => exact ⟨none, by simp, rfl⟩
  | some isDigits =>
      obtain ⟨values, nonempty, rfl⟩ := digits_of_ascii isDigits
        fun unit membership => ascii unit (List.mem_cons_of_mem _ membership)
      refine ⟨some values, ?_, ?_⟩
      · rintro _ ⟨⟩
        exact nonempty
      · rw [← encode_digits]
        rfl

theorem sign_of_isSign {sign : CsString} (isSign : IsSign sign) :
    ∃ value : Option Bool, Numeral.encode 0x10000 (Numeral.signText value) = sign := by
  cases isSign with
  | none => exact ⟨none, rfl⟩
  | plus => exact ⟨some false, rfl⟩
  | minus => exact ⟨some true, rfl⟩

theorem exponent_of_ascii {exponent : CsString} (isExponent : IsExponent exponent)
    (ascii : IsAscii exponent) : ∃ parts : Option (Bool × Option Bool × List Digit),
      (∀ capital sign digits, parts = some (capital, sign, digits) → digits ≠ []) ∧
      Numeral.encode 0x10000 (Numeral.exponentText parts) = exponent := by
  cases isExponent with
  | none => exact ⟨none, by simp, rfl⟩
  | some isLetter isSign isDigits =>
      obtain ⟨values, nonempty, rfl⟩ := digits_of_ascii isDigits
        fun unit membership =>
          ascii unit (List.mem_cons_of_mem _ (List.mem_append_right _ membership))
      obtain ⟨sign, rfl⟩ := sign_of_isSign isSign
      have written : ∀ capital : Bool, Numeral.encode 0x10000
          (Numeral.exponentText (some (capital, sign, values))) =
            CodeUnit.ofChar (if capital then 'E' else 'e') ::
              (Numeral.encode 0x10000 (Numeral.signText sign) ++ digitUnits values) := by
        intro capital
        rw [← encode_digits, ← Numeral.encode_append]
        rfl
      rcases isLetter with rfl | rfl
      · refine ⟨some (false, sign, values), ?_, written false⟩
        rintro _ _ _ ⟨⟩
        exact nonempty
      · refine ⟨some (true, sign, values), ?_, written true⟩
        rintro _ _ _ ⟨⟩
        exact nonempty

/-- A number all of whose digits are ASCII is a literal of the standard. -/
theorem exists_numeral {text : CsString} (isNumber : IsNumber text) (ascii : IsAscii text) :
    ∃ numeral : Numeral, numeral.WellFormed ∧ numberText numeral = text := by
  -- The sign is the one thing in which the two shapes differ.
  have assemble : ∀ (negative : Bool) {integer fraction exponent : CsString}, IsInteger integer →
      IsFraction fraction → IsExponent exponent → IsAscii (integer ++ (fraction ++ exponent)) →
      ∃ numeral : Numeral, numeral.WellFormed ∧ numberText numeral =
        Numeral.encode 0x10000 (if negative then ['-'] else []) ++
          (integer ++ (fraction ++ exponent)) := by
    intro negative integer fraction exponent isInteger isFraction isExponent ascii
    obtain ⟨asciiInteger, asciiRest⟩ := ascii.append
    obtain ⟨asciiFraction, asciiExponent⟩ := asciiRest.append
    obtain ⟨digits, present, plain, rfl⟩ := integer_of_ascii isInteger asciiInteger
    obtain ⟨fractionDigits, fractionPresent, rfl⟩ := fraction_of_ascii isFraction asciiFraction
    obtain ⟨parts, exponentPresent, rfl⟩ := exponent_of_ascii isExponent asciiExponent
    refine ⟨⟨negative, digits, fractionDigits, parts⟩,
      ⟨present, plain, fractionPresent, exponentPresent⟩, ?_⟩
    rw [numberText_eq, ← encode_digits]
    simp only [Numeral.text, Numeral.integerText, Numeral.encode_append, List.append_assoc]
  cases isNumber with
  | positive _ isInteger isFraction isExponent =>
      exact assemble false isInteger isFraction isExponent ascii
  | negative isInteger isFraction isExponent =>
      exact assemble true isInteger isFraction isExponent
        fun unit membership => ascii unit (List.mem_cons_of_mem _ membership)

/-! ## Numbers as text -/

theorem isSurrogate_digit {unit : CodeUnit} (digit : isDigit unit = true) :
    unit.isSurrogate = false := by
  obtain ⟨low, membership, bounds⟩ := List.any_eq_true.mp digit
  have apart : ∀ low ∈ digitZeros, low + 9 < 0xD800 ∨ 0xDFFF < low := by decide
  have within := of_decide_eq_true bounds
  have outside := apart low membership
  simp only [CodeUnit.isSurrogate, CodeUnit.isHighSurrogate, CodeUnit.isLowSurrogate,
    Bool.or_eq_false_iff, decide_eq_false_iff_not]
  omega

/-- What holds of the digits and of the other characters of numbers holds throughout a
number. -/
theorem IsNumber.forall_units {text : CsString} (isNumber : IsNumber text)
    {motive : CodeUnit → Prop}
    (digit : ∀ unit, isDigit unit = true → motive unit)
    (other : ∀ char ∈ ['-', '+', '.', 'e', 'E'], motive (CodeUnit.ofChar char)) :
    ∀ unit ∈ text, motive unit := by
  have onDigits : ∀ {digits : CsString}, IsDigits digits → ∀ unit ∈ digits, motive unit :=
    fun isDigits unit membership => digit unit (isDigits.all unit membership)
  have onInteger : ∀ {integer : CsString}, IsInteger integer → ∀ unit ∈ integer, motive unit := by
    intro integer isInteger
    cases isInteger with
    | zero =>
        intro unit membership
        rw [List.mem_singleton.mp membership]
        exact digit _ (isDigit_digit 0)
    | digits isDigits _ => exact onDigits isDigits
  have onFraction : ∀ {fraction : CsString}, IsFraction fraction →
      ∀ unit ∈ fraction, motive unit := by
    intro fraction isFraction
    cases isFraction with
    | none => simp
    | some isDigits => exact List.forall_mem_cons.mpr ⟨other '.' (by simp), onDigits isDigits⟩
  have onSign : ∀ {sign : CsString}, IsSign sign → ∀ unit ∈ sign, motive unit := by
    intro sign isSign
    cases isSign with
    | none => simp
    | plus => simpa using other '+' (by simp)
    | minus => simpa using other '-' (by simp)
  have onExponent : ∀ {exponent : CsString}, IsExponent exponent →
      ∀ unit ∈ exponent, motive unit := by
    intro exponent isExponent
    cases isExponent with
    | none => simp
    | some isLetter isSign isDigits =>
        refine List.forall_mem_cons.mpr ⟨?_, ?_⟩
        · rcases isLetter with rfl | rfl
          · exact other 'e' (by simp)
          · exact other 'E' (by simp)
        · exact List.forall_mem_append.mpr ⟨onSign isSign, onDigits isDigits⟩
  have behind : ∀ {integer fraction exponent : CsString}, IsInteger integer →
      IsFraction fraction → IsExponent exponent →
      ∀ unit ∈ integer ++ (fraction ++ exponent), motive unit := by
    intro integer fraction exponent isInteger isFraction isExponent
    exact List.forall_mem_append.mpr ⟨onInteger isInteger,
      List.forall_mem_append.mpr ⟨onFraction isFraction, onExponent isExponent⟩⟩
  cases isNumber with
  | positive _ isInteger isFraction isExponent =>
      exact behind isInteger isFraction isExponent
  | negative isInteger isFraction isExponent =>
      exact List.forall_mem_cons.mpr
        ⟨other '-' (by simp), behind isInteger isFraction isExponent⟩

theorem paired_of_forall {text : CsString} (proper : ∀ unit ∈ text, unit.isSurrogate = false) :
    Paired text := by
  induction text with
  | nil => rfl
  | cons unit text inductionHypothesis =>
      unfold Paired
      rw [wellFormed_cons (proper unit List.mem_cons_self)]
      exact inductionHypothesis fun other membership =>
        proper other (List.mem_cons_of_mem _ membership)

/-- A number as a text of characters. -/
theorem IsNumber.exists_utf16 {text : CsString} (isNumber : IsNumber text) :
    ∃ chars, utf16 chars = text := by
  have others : ∀ char ∈ ['-', '+', '.', 'e', 'E'], (CodeUnit.ofChar char).isSurrogate = false := by
    intro char membership
    simp only [List.mem_cons, List.not_mem_nil, or_false] at membership
    rcases membership with rfl | rfl | rfl | rfl | rfl <;> decide
  have proper : ∀ unit ∈ text, unit.isSurrogate = false :=
    isNumber.forall_units (fun unit digit => isSurrogate_digit digit) others
  have paired := paired_of_forall proper
  obtain ⟨chars, same⟩ := Unicode.exists_utf16 paired
  exact ⟨chars, same.symm⟩

end StrictJsonParser

end ValeraControlTower.Unity

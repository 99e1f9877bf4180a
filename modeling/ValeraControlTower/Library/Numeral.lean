import ValeraControlTower.Library.Unicode

/-!
# Decimal number literals

A literal is kept digit by digit, so that its text and its value are both functions of
it.  `scan` reads the longest literal at the head of a text in any alphabet that
contains ASCII, and `scan_text` says it reads back what was written.
-/

/-- A decimal digit. -/
abbrev Digit := Fin 10

/-! The literals of the programs: ten for decimal fractions, two and 180 for angles. -/

instance neZero_ten : NeZero 10 := ⟨by decide⟩

instance atLeastTwo_two : Nat.AtLeastTwo 2 := ⟨by decide⟩

instance atLeastTwo_ten : Nat.AtLeastTwo 10 := ⟨by decide⟩

instance atLeastTwo_180 : Nat.AtLeastTwo 180 := ⟨by decide⟩

namespace Digit

def char (digit : Digit) : Char := Char.ofNat (48 + digit.val)

/-- The digit a code stands for, if it is one of `0` to `9`. -/
def ofCode? (code : ℕ) : Option Digit :=
  if 48 ≤ code ∧ code ≤ 57 then some (Fin.ofNat 10 (code - 48)) else none

theorem char_toNat (digit : Digit) : digit.char.toNat = 48 + digit.val := by
  revert digit
  decide

theorem ofCode?_char (digit : Digit) : ofCode? (48 + digit.val) = some digit := by
  revert digit
  decide

/-- The number a sequence of digits denotes. -/
def natValue (digits : List Digit) : ℕ :=
  digits.foldl (fun value digit => 10 * value + digit.val) 0

/-- The digits of a number, without leading zeros. -/
def decimal (number : ℕ) : List Digit :=
  if number = 0 then [0] else (Nat.digits 10 number).reverse.map (Fin.ofNat 10)

theorem natValue_append_singleton (digits : List Digit) (digit : Digit) :
    natValue (digits ++ [digit]) = 10 * natValue digits + digit.val := by
  simp [natValue]

theorem natValue_reverse_map (digits : List ℕ) (bounded : ∀ digit ∈ digits, digit < 10) :
    natValue (digits.reverse.map (Fin.ofNat 10)) = Nat.ofDigits 10 digits := by
  induction digits with
  | nil => rfl
  | cons digit digits inductionHypothesis =>
      rw [List.reverse_cons, List.map_append, List.map_singleton, natValue_append_singleton,
        inductionHypothesis fun other membership => bounded other (by simp [membership]),
        Nat.ofDigits_cons]
      have small : (Fin.ofNat 10 digit).val = digit := Nat.mod_eq_of_lt (bounded digit (by simp))
      rw [small]
      omega

theorem natValue_decimal (number : ℕ) : natValue (decimal number) = number := by
  unfold decimal
  split
  · next zero => simp [zero, natValue]
  · rw [natValue_reverse_map _ fun digit membership => Nat.digits_lt_base (by decide) membership,
      Nat.ofDigits_digits]

theorem natValue_foldl (digits : List Digit) (start : ℕ) :
    start * 10 ^ digits.length ≤
      digits.foldl (fun value digit => 10 * value + digit.val) start := by
  induction digits generalizing start with
  | nil => simp
  | cons digit digits inductionHypothesis =>
      rw [List.foldl_cons, List.length_cons]
      refine le_trans ?_ (inductionHypothesis _)
      calc start * 10 ^ (digits.length + 1)
          = 10 * start * 10 ^ digits.length := by ring
        _ ≤ (10 * start + digit.val) * 10 ^ digits.length :=
            Nat.mul_le_mul_right _ (Nat.le_add_right _ _)

/-- A number without leading zeros is as large as its length says. -/
theorem pow_le_natValue {digit : Digit} (nonzero : digit ≠ 0) (digits : List Digit) :
    10 ^ digits.length ≤ natValue (digit :: digits) := by
  have large := natValue_foldl digits digit.val
  have positive : 1 ≤ digit.val := Nat.pos_of_ne_zero fun zero => nonzero (Fin.ext zero)
  have start : natValue (digit :: digits) =
      digits.foldl (fun value digit => 10 * value + digit.val) digit.val := by
    simp [natValue]
  rw [start]
  exact le_trans (Nat.le_mul_of_pos_left _ positive) large

theorem decimal_ne_nil (number : ℕ) : decimal number ≠ [] := by
  unfold decimal
  split
  · simp
  · next nonzero => simp [Nat.digits_ne_nil_iff_ne_zero.mpr nonzero]

/-- Only zero is written with a leading zero. -/
theorem decimal_head (number : ℕ) (zero : (decimal number).head? = some 0) :
    decimal number = [0] := by
  unfold decimal at *
  split at zero
  · next isZero => simp [isZero]
  · next nonzero =>
      exfalso
      have nonempty : Nat.digits 10 number ≠ [] := Nat.digits_ne_nil_iff_ne_zero.mpr nonzero
      have last := Nat.getLast_digit_ne_zero 10 nonzero
      rw [List.head?_map, List.head?_reverse, List.getLast?_eq_some_getLast nonempty,
        Option.map_some, Option.some.injEq] at zero
      have small := Nat.digits_lt_base (by decide) (List.getLast_mem nonempty)
      have same : (Nat.digits 10 number).getLast nonempty % 10 = 0 :=
        congrArg (fun digit : Digit => digit.val) zero
      omega

/-- A number below `10 ^ count` is written with at most `count` digits. -/
theorem length_decimal_le {number count : ℕ} (positive : 0 < count)
    (bounded : number < 10 ^ count) :
    (decimal number).length ≤ count := by
  unfold decimal
  split
  · exact positive
  · rw [List.length_map, List.length_reverse]
    exact (Nat.digits_length_le_iff (by decide) number).mpr bounded

end Digit

/-- A number literal. -/
structure Numeral where
  negative : Bool
  integer : List Digit
  fraction : Option (List Digit)
  exponent : Option (Bool × Option Bool × List Digit)
  deriving DecidableEq

namespace Numeral

/-- `-?(0|[1-9][0-9]*)(\.[0-9]+)?([eE][-+]?[0-9]+)?`. -/
structure WellFormed (numeral : Numeral) : Prop where
  integer : numeral.integer ≠ []
  noLeadingZero : numeral.integer.head? = some 0 → numeral.integer = [0]
  fraction : ∀ digits, numeral.fraction = some digits → digits ≠ []
  exponent : ∀ capital sign digits, numeral.exponent = some (capital, sign, digits) → digits ≠ []

def fractionText : Option (List Digit) → List Char
  | none => []
  | some digits => '.' :: digits.map Digit.char

/-- The sign of an exponent, written only if given. -/
def signText : Option Bool → List Char
  | none => []
  | some negative => [if negative then '-' else '+']

def exponentText : Option (Bool × Option Bool × List Digit) → List Char
  | none => []
  | some (capital, sign, digits) =>
      (if capital then 'E' else 'e') :: (signText sign ++ digits.map Digit.char)

/-- The integer part with its sign. -/
def integerText (numeral : Numeral) : List Char :=
  (if numeral.negative then ['-'] else []) ++ numeral.integer.map Digit.char

/-- The text of a literal. -/
def text (numeral : Numeral) : List Char :=
  numeral.integerText ++ (fractionText numeral.fraction ++ exponentText numeral.exponent)

def isInteger (numeral : Numeral) : Bool :=
  numeral.fraction.isNone && numeral.exponent.isNone

/-- The integer part as a number. -/
def intValue (numeral : Numeral) : ℤ :=
  if numeral.negative then -(Digit.natValue numeral.integer) else Digit.natValue numeral.integer

def exponentValue : Option (Bool × Option Bool × List Digit) → ℤ
  | none => 0
  | some (_, sign, digits) =>
      if sign = some true then -(Digit.natValue digits) else Digit.natValue digits

/-- The exact value of a literal. -/
def value (numeral : Numeral) : ℚ :=
  let digits := numeral.integer ++ numeral.fraction.getD []
  let exponent := exponentValue numeral.exponent - (numeral.fraction.getD []).length
  let magnitude := (Digit.natValue digits : ℚ) * 10 ^ exponent
  if numeral.negative then -magnitude else magnitude

theorem value_of_isInteger {numeral : Numeral} (integral : numeral.isInteger = true) :
    numeral.value = numeral.intValue := by
  obtain ⟨negative, integer, fraction, exponent⟩ := numeral
  simp only [isInteger, Bool.and_eq_true, Option.isNone_iff_eq_none] at integral
  obtain ⟨rfl, rfl⟩ := integral
  unfold value intValue
  cases negative <;> simp [exponentValue]

/-- The literal of an integer. -/
def ofInt (number : ℤ) : Numeral where
  negative := decide (number < 0)
  integer := Digit.decimal number.natAbs
  fraction := none
  exponent := none

@[simp]
theorem isInteger_ofInt (number : ℤ) : (ofInt number).isInteger = true := rfl

theorem wellFormed_ofInt (number : ℤ) : (ofInt number).WellFormed where
  integer := Digit.decimal_ne_nil _
  noLeadingZero := Digit.decimal_head _
  fraction := by simp [ofInt]
  exponent := by simp [ofInt]

@[simp]
theorem intValue_ofInt (number : ℤ) : (ofInt number).intValue = number := by
  unfold intValue ofInt
  by_cases negative : number < 0
  · simp only [negative, decide_true, if_true, Digit.natValue_decimal]
    omega
  · simp only [negative, decide_false, Digit.natValue_decimal]
    simp only [Bool.false_eq_true, if_false]
    omega

/-! ## Reading a literal -/

variable {n : ℕ}

/-- The digits at the head of a text, and what follows them. -/
def scanDigits : List (Fin n) → List Digit × List (Fin n)
  | [] => ([], [])
  | code :: rest =>
      match Digit.ofCode? code.val with
      | some digit => (digit :: (scanDigits rest).1, (scanDigits rest).2)
      | none => ([], code :: rest)

/-- `0|[1-9][0-9]*`. -/
def scanInteger : List (Fin n) → Option (List Digit × List (Fin n))
  | [] => none
  | code :: rest =>
      match Digit.ofCode? code.val with
      | none => none
      | some digit =>
          if digit = 0 then some ([0], rest)
          else some (digit :: (scanDigits rest).1, (scanDigits rest).2)

/-- `(\.[0-9]+)?`. -/
def scanFraction (source : List (Fin n)) : Option (List Digit) × List (Fin n) :=
  match source with
  | [] => (none, [])
  | code :: rest =>
      if code.val = '.'.toNat ∧ (scanDigits rest).1 ≠ [] then
        (some (scanDigits rest).1, (scanDigits rest).2)
      else (none, source)

/-- `[-+]?`. -/
def scanSign : List (Fin n) → Option Bool × List (Fin n)
  | [] => (none, [])
  | code :: rest =>
      if code.val = '-'.toNat then (some true, rest)
      else if code.val = '+'.toNat then (some false, rest)
      else (none, code :: rest)

/-- `([eE][-+]?[0-9]+)?`. -/
def scanExponent (source : List (Fin n)) :
    Option (Bool × Option Bool × List Digit) × List (Fin n) :=
  match source with
  | [] => (none, [])
  | code :: rest =>
      let (sign, unsigned) := scanSign rest
      let (digits, after) := scanDigits unsigned
      if (code.val = 'e'.toNat ∨ code.val = 'E'.toNat) ∧ digits ≠ [] then
        (some (decide (code.val = 'E'.toNat), sign, digits), after)
      else (none, source)

/-- `-?`. -/
def scanMinus : List (Fin n) → Bool × List (Fin n)
  | [] => (false, [])
  | code :: rest =>
      if code.val = '-'.toNat then (true, rest) else (false, code :: rest)

/-- The longest literal at the head of a text, and what follows it. -/
def scan (source : List (Fin n)) : Option (Numeral × List (Fin n)) :=
  let (negative, unsigned) := scanMinus source
  match scanInteger unsigned with
  | none => none
  | some (integer, afterInteger) =>
      let (fraction, afterFraction) := scanFraction afterInteger
      let (exponent, rest) := scanExponent afterFraction
      some (⟨negative, integer, fraction, exponent⟩, rest)

/-- No code that could continue a literal stands at the head. -/
def Closed (rest : List (Fin n)) : Prop :=
  ∀ code, rest.head? = some code → Digit.ofCode? code.val = none ∧
    code.val ≠ '.'.toNat ∧ code.val ≠ 'e'.toNat ∧ code.val ≠ 'E'.toNat

/-- A head that ends a run of digits. -/
def NoDigit (rest : List (Fin n)) : Prop :=
  ∀ code, rest.head? = some code → Digit.ofCode? code.val = none

/-- An ASCII text in the alphabet. -/
def encode (n : ℕ) [NeZero n] (text : List Char) : List (Fin n) :=
  text.map fun char => Fin.ofNat n char.toNat

section Encode

variable [NeZero n] {rest : List (Fin n)}

@[simp]
theorem encode_nil : encode n [] = [] := rfl

@[simp]
theorem encode_cons (char : Char) (text : List Char) :
    encode n (char :: text) = Fin.ofNat n char.toNat :: encode n text := rfl

@[simp]
theorem encode_append (first second : List Char) :
    encode n (first ++ second) = encode n first ++ encode n second :=
  List.map_append

theorem ofNat_val (large : 128 ≤ n) {char : Char} (ascii : char.toNat < 128) :
    (Fin.ofNat n char.toNat).val = char.toNat :=
  Nat.mod_eq_of_lt (Nat.lt_of_lt_of_le ascii large)

theorem ofNat_digit (large : 128 ≤ n) (digit : Digit) :
    (Fin.ofNat n digit.char.toNat).val = 48 + digit.val := by
  have code := Digit.char_toNat digit
  rw [ofNat_val large (by omega), code]

omit [NeZero n] in
theorem Closed.noDigit (closed : Closed rest) : NoDigit rest :=
  fun code head => (closed code head).1

theorem noDigit_cons (large : 128 ≤ n) {char : Char} (ascii : char.toNat < 128)
    (other : Digit.ofCode? char.toNat = none) (rest : List (Fin n)) :
    NoDigit (Fin.ofNat n char.toNat :: rest) := by
  intro code head
  cases head
  rwa [ofNat_val large ascii]

omit [NeZero n] in
theorem scanDigits_closed (closed : NoDigit rest) : scanDigits rest = ([], rest) := by
  cases rest with
  | nil => rfl
  | cons code rest => simp [scanDigits, closed code rfl]

theorem scanDigits_encode (large : 128 ≤ n) (digits : List Digit) (closed : NoDigit rest) :
    scanDigits (encode n (digits.map Digit.char) ++ rest) = (digits, rest) := by
  induction digits with
  | nil => exact scanDigits_closed closed
  | cons digit digits inductionHypothesis =>
      rw [List.map_cons, encode_cons, List.cons_append]
      unfold scanDigits
      rw [ofNat_digit large, Digit.ofCode?_char, inductionHypothesis]

theorem scanInteger_encode (large : 128 ≤ n) {integer : List Digit} (nonempty : integer ≠ [])
    (plain : integer.head? = some 0 → integer = [0]) (closed : NoDigit rest) :
    scanInteger (encode n (integer.map Digit.char) ++ rest) = some (integer, rest) := by
  cases integer with
  | nil => exact absurd rfl nonempty
  | cons digit digits =>
      rw [List.map_cons, encode_cons, List.cons_append]
      unfold scanInteger
      dsimp only
      rw [ofNat_digit large, Digit.ofCode?_char]
      by_cases zero : digit = 0
      · have single := plain (by simp [zero])
        rw [List.cons.injEq] at single
        obtain ⟨rfl, rfl⟩ := single
        rfl
      · simp only [if_neg zero, scanDigits_encode large digits closed]

theorem scanFraction_encode (large : 128 ≤ n) {fraction : Option (List Digit)}
    (nonempty : ∀ digits, fraction = some digits → digits ≠ []) (closed : NoDigit rest)
    (notPoint : ∀ code, rest.head? = some code → code.val ≠ '.'.toNat) :
    scanFraction (encode n (fractionText fraction) ++ rest) = (fraction, rest) := by
  cases fraction with
  | none =>
      cases rest with
      | nil => rfl
      | cons code rest =>
          change scanFraction (code :: rest) = _
          unfold scanFraction
          dsimp only
          rw [if_neg]
          exact fun point => notPoint code rfl point.1
  | some digits =>
      change scanFraction (Fin.ofNat n '.'.toNat ::
        (encode n (digits.map Digit.char) ++ rest)) = _
      unfold scanFraction
      dsimp only
      rw [scanDigits_encode large digits closed, if_pos]
      exact ⟨ofNat_val large (by decide), nonempty digits rfl⟩

theorem scanSign_encode (large : 128 ≤ n) (sign : Option Bool) {digits : List Digit}
    (nonempty : digits ≠ []) (rest : List (Fin n)) :
    scanSign (encode n (signText sign ++ digits.map Digit.char) ++ rest) =
      (sign, encode n (digits.map Digit.char) ++ rest) := by
  have minus : (Fin.ofNat n '-'.toNat).val = '-'.toNat := ofNat_val large (by decide)
  have plus : (Fin.ofNat n '+'.toNat).val = '+'.toNat := ofNat_val large (by decide)
  cases sign with
  | none =>
      cases digits with
      | nil => exact absurd rfl nonempty
      | cons digit digits =>
          have bounded := digit.isLt
          have code := ofNat_digit large digit
          change scanSign (Fin.ofNat n digit.char.toNat :: _) = _
          unfold scanSign
          dsimp only
          rw [code, if_neg, if_neg]
          · rfl
          · intro same
            change 48 + digit.val = 43 at same
            omega
          · intro same
            change 48 + digit.val = 45 at same
            omega
  | some negative =>
      cases negative with
      | true =>
          change scanSign (Fin.ofNat n '-'.toNat :: _) = _
          unfold scanSign
          dsimp only
          rw [if_pos minus]
          rfl
      | false =>
          change scanSign (Fin.ofNat n '+'.toNat :: _) = _
          unfold scanSign
          dsimp only
          rw [if_neg, if_pos plus]
          · rfl
          · rw [plus]
            decide

theorem scanExponent_encode (large : 128 ≤ n)
    {exponent : Option (Bool × Option Bool × List Digit)}
    (nonempty : ∀ capital sign digits, exponent = some (capital, sign, digits) → digits ≠ [])
    (closed : Closed rest) :
    scanExponent (encode n (exponentText exponent) ++ rest) = (exponent, rest) := by
  have small : (Fin.ofNat n 'e'.toNat).val = 'e'.toNat := ofNat_val large (by decide)
  have large' : (Fin.ofNat n 'E'.toNat).val = 'E'.toNat := ofNat_val large (by decide)
  cases exponent with
  | none =>
      cases rest with
      | nil => rfl
      | cons code rest =>
          change scanExponent (code :: rest) = _
          unfold scanExponent
          obtain ⟨_, _, notSmall, notCapital⟩ := closed code rfl
          dsimp only
          rw [if_neg]
          rintro ⟨isSmall | isCapital, _⟩
          · exact notSmall isSmall
          · exact notCapital isCapital
  | some parts =>
      obtain ⟨capital, sign, digits⟩ := parts
      have present := nonempty capital sign digits rfl
      have signed := scanSign_encode large sign present rest
      have read := scanDigits_encode large digits closed.noDigit
      cases capital with
      | true =>
          change scanExponent (Fin.ofNat n 'E'.toNat ::
            (encode n (signText sign ++ digits.map Digit.char) ++ rest)) = _
          unfold scanExponent
          dsimp only
          simp only [signed, read]
          rw [if_pos ⟨.inr large', present⟩, large']
          rfl
      | false =>
          change scanExponent (Fin.ofNat n 'e'.toNat ::
            (encode n (signText sign ++ digits.map Digit.char) ++ rest)) = _
          unfold scanExponent
          dsimp only
          simp only [signed, read]
          rw [if_pos ⟨.inl small, present⟩, small]
          rfl

theorem scanMinus_encode (large : 128 ≤ n) (negative : Bool) {integer : List Digit}
    (nonempty : integer ≠ []) :
    scanMinus (encode n ((if negative then ['-'] else []) ++ integer.map Digit.char) ++ rest) =
      (negative, encode n (integer.map Digit.char) ++ rest) := by
  cases negative with
  | true =>
      change scanMinus (Fin.ofNat n '-'.toNat :: _) = _
      unfold scanMinus
      dsimp only
      rw [if_pos (ofNat_val large (by decide))]
      rfl
  | false =>
      cases integer with
      | nil => exact absurd rfl nonempty
      | cons digit digits =>
          have code := ofNat_digit large digit
          change scanMinus (Fin.ofNat n digit.char.toNat :: _) = _
          unfold scanMinus
          dsimp only
          rw [code, if_neg]
          · rfl
          · intro same
            change 48 + digit.val = 45 at same
            omega

/-- What may follow the integer part does not continue it. -/
theorem noDigit_exponentText (large : 128 ≤ n)
    (exponent : Option (Bool × Option Bool × List Digit)) (closed : Closed rest) :
    NoDigit (encode n (exponentText exponent) ++ rest) ∧
      ∀ code, (encode n (exponentText exponent) ++ rest).head? = some code →
        code.val ≠ '.'.toNat := by
  cases exponent with
  | none => exact ⟨closed.noDigit, fun code head => (closed code head).2.1⟩
  | some parts =>
      obtain ⟨capital, sign, digits⟩ := parts
      cases capital with
      | true =>
          refine ⟨noDigit_cons large (by decide) (by decide) _, ?_⟩
          intro code head
          cases head
          rw [ofNat_val large (by decide)]
          decide
      | false =>
          refine ⟨noDigit_cons large (by decide) (by decide) _, ?_⟩
          intro code head
          cases head
          rw [ofNat_val large (by decide)]
          decide

theorem noDigit_fractionText (large : 128 ≤ n) (fraction : Option (List Digit))
    (closed : NoDigit rest) : NoDigit (encode n (fractionText fraction) ++ rest) := by
  cases fraction with
  | none => exact closed
  | some digits => exact noDigit_cons large (by decide) (by decide) _

/-- A literal followed by something else is read back whole. -/
theorem scan_text (large : 128 ≤ n) {numeral : Numeral} (wellFormed : numeral.WellFormed)
    (closed : Closed rest) : scan (encode n numeral.text ++ rest) = some (numeral, rest) := by
  obtain ⟨negative, integer, fraction, exponent⟩ := numeral
  obtain ⟨present, plain, fractionDigits, exponentDigits⟩ := wellFormed
  obtain ⟨noDigit, notPoint⟩ := noDigit_exponentText large exponent closed
  unfold scan text integerText
  rw [encode_append, List.append_assoc]
  simp only [scanMinus_encode large negative present]
  rw [encode_append, List.append_assoc,
    scanInteger_encode large present plain (noDigit_fractionText large fraction noDigit)]
  simp only [scanFraction_encode large fractionDigits noDigit notPoint,
    scanExponent_encode large exponentDigits closed]

/-! ## What was read -/

omit [NeZero n] in
theorem code_of_digit {code : ℕ} {digit : Digit} (read : Digit.ofCode? code = some digit) :
    code = 48 + digit.val := by
  unfold Digit.ofCode? at read
  split at read
  · next range =>
      cases read
      change code = 48 + (code - 48) % 10
      omega
  · cases read

theorem eq_ofNat {code : Fin n} {char : Char} (same : code.val = char.toNat) :
    code = Fin.ofNat n char.toNat := by
  apply Fin.ext
  rw [← same]
  exact (Nat.mod_eq_of_lt code.isLt).symm

theorem eq_digit {code : Fin n} {digit : Digit} (read : Digit.ofCode? code.val = some digit) :
    code = Fin.ofNat n digit.char.toNat := by
  apply eq_ofNat
  rw [code_of_digit read, Digit.char_toNat]

theorem scanDigits_sound (source : List (Fin n)) :
    source = encode n ((scanDigits source).1.map Digit.char) ++ (scanDigits source).2 := by
  induction source with
  | nil => rfl
  | cons code source inductionHypothesis =>
      unfold scanDigits
      split
      · next digit read =>
          rw [List.map_cons, encode_cons, List.cons_append, ← eq_digit read,
            ← inductionHypothesis]
      · rfl

theorem scanInteger_sound {source rest : List (Fin n)} {integer : List Digit}
    (read : scanInteger source = some (integer, rest)) :
    source = encode n (integer.map Digit.char) ++ rest ∧ integer ≠ [] ∧
      (integer.head? = some 0 → integer = [0]) := by
  cases source with
  | nil => cases read
  | cons code source =>
      unfold scanInteger at read
      cases isDigit : Digit.ofCode? code.val with
      | none => simp [isDigit] at read
      | some digit =>
          simp only [isDigit] at read
          split at read
          · next zero =>
              cases read
              refine ⟨?_, by simp, fun _ => rfl⟩
              rw [eq_digit isDigit, zero]
              rfl
          · next nonzero =>
              cases read
              refine ⟨?_, by simp, fun head => absurd (Option.some.inj head) nonzero⟩
              rw [List.map_cons, encode_cons, List.cons_append, ← eq_digit isDigit,
                ← scanDigits_sound]

theorem scanFraction_sound (source : List (Fin n)) :
    source = encode n (fractionText (scanFraction source).1) ++ (scanFraction source).2 ∧
      ∀ digits, (scanFraction source).1 = some digits → digits ≠ [] := by
  cases source with
  | nil => exact ⟨rfl, by simp [scanFraction]⟩
  | cons code source =>
      unfold scanFraction
      dsimp only
      split
      · next point =>
          refine ⟨?_, fun digits same => Option.some.inj same ▸ point.2⟩
          change _ = Fin.ofNat n '.'.toNat :: (encode n _ ++ _)
          rw [← eq_ofNat point.1, ← scanDigits_sound]
      · exact ⟨rfl, by simp⟩

theorem scanSign_sound (source : List (Fin n)) :
    source = encode n (signText (scanSign source).1) ++ (scanSign source).2 := by
  cases source with
  | nil => rfl
  | cons code source =>
      unfold scanSign
      dsimp only
      by_cases minus : code.val = '-'.toNat
      · rw [if_pos minus, eq_ofNat minus]
        rfl
      · rw [if_neg minus]
        by_cases plus : code.val = '+'.toNat
        · rw [if_pos plus, eq_ofNat plus]
          rfl
        · rw [if_neg plus]
          rfl

theorem scanExponent_sound (source : List (Fin n)) :
    source = encode n (exponentText (scanExponent source).1) ++ (scanExponent source).2 ∧
      ∀ capital sign digits, (scanExponent source).1 = some (capital, sign, digits) →
        digits ≠ [] := by
  cases source with
  | nil => exact ⟨rfl, by simp [scanExponent]⟩
  | cons code source =>
      unfold scanExponent
      dsimp only
      split
      · next letter =>
          obtain ⟨isLetter, present⟩ := letter
          constructor
          · have after : source = encode n (signText (scanSign source).1 ++
                (scanDigits (scanSign source).2).1.map Digit.char) ++
                (scanDigits (scanSign source).2).2 := by
              rw [encode_append, List.append_assoc, ← scanDigits_sound, ← scanSign_sound]
            by_cases capital : code.val = 'E'.toNat
            · simp only [exponentText, capital, decide_true, if_true, encode_cons,
                List.cons_append, ← after, ← eq_ofNat capital]
            · have small := isLetter.resolve_right capital
              simp only [exponentText, capital, decide_false, Bool.false_eq_true, if_false,
                encode_cons, List.cons_append, ← after, ← eq_ofNat small]
          · rintro capital sign digits same
            cases same
            exact present
      · exact ⟨rfl, by simp⟩

theorem scanMinus_sound {source rest : List (Fin n)} {negative : Bool}
    (read : scanMinus source = (negative, rest)) :
    source = encode n (if negative then ['-'] else []) ++ rest := by
  cases source with
  | nil =>
      cases read
      rfl
  | cons code source =>
      unfold scanMinus at read
      dsimp only at read
      by_cases minus : code.val = '-'.toNat
      · rw [if_pos minus] at read
        cases read
        rw [eq_ofNat minus]
        rfl
      · rw [if_neg minus] at read
        cases read
        rfl

/-- Whatever is read was written as a well-formed literal. -/
theorem scan_sound {source rest : List (Fin n)} {numeral : Numeral}
    (read : scan source = some (numeral, rest)) :
    source = encode n numeral.text ++ rest ∧ numeral.WellFormed := by
  unfold scan at read
  dsimp only at read
  cases integral : scanInteger (scanMinus source).2 with
  | none => simp [integral] at read
  | some pair =>
      obtain ⟨integer, afterInteger⟩ := pair
      simp only [integral, Option.some.injEq, Prod.mk.injEq] at read
      obtain ⟨rfl, rfl⟩ := read
      obtain ⟨writtenInteger, present, plain⟩ := scanInteger_sound integral
      obtain ⟨writtenFraction, fractionDigits⟩ := scanFraction_sound afterInteger
      obtain ⟨writtenExponent, exponentDigits⟩ :=
        scanExponent_sound (scanFraction afterInteger).2
      refine ⟨?_, present, plain, fractionDigits, exponentDigits⟩
      unfold text integerText
      simp only [encode_append, List.append_assoc]
      rw [← writtenExponent, ← writtenFraction, ← writtenInteger]
      exact scanMinus_sound rfl

end Encode

/-! ## The two alphabets -/

theorem ofChars_eq_encode (text : List Char) : Unicode.ofChars text = encode 0x110000 text :=
  List.map_congr_left fun char _ => eq_ofNat (Unicode.CodePoint.ofChar_val char)

theorem utf16_eq_encode {text : List Char} (ascii : ∀ char ∈ text, char.toNat < 128) :
    Unicode.utf16 text = encode 0x10000 text := by
  induction text with
  | nil => rfl
  | cons char text inductionHypothesis =>
      have small := ascii char (by simp)
      rw [Unicode.utf16_cons, Unicode.CodePoint.units_ofChar (by omega),
        inductionHypothesis fun other membership => ascii other (by simp [membership])]
      rfl

/-- The characters literals are written with. -/
theorem forall_text {motive : Char → Prop} (onDigit : ∀ digit : Digit, motive digit.char)
    (onSign : ∀ char ∈ ['-', '+', '.', 'e', 'E'], motive char) (numeral : Numeral) :
    ∀ char ∈ numeral.text, motive char := by
  have onDigits (digits : List Digit) : ∀ char ∈ digits.map Digit.char, motive char := by
    intro char membership
    obtain ⟨digit, _, rfl⟩ := List.mem_map.mp membership
    exact onDigit digit
  obtain ⟨negative, integer, fraction, exponent⟩ := numeral
  simp only [text, integerText, List.mem_append]
  rintro char ((sign | digit) | (inFraction | inExponent))
  · cases negative with
    | true =>
        rw [List.mem_singleton.mp sign]
        exact onSign _ (by decide)
    | false => cases sign
  · exact onDigits _ _ digit
  · cases fraction with
    | none => cases inFraction
    | some digits =>
        rcases List.mem_cons.mp inFraction with rfl | digit
        · exact onSign _ (by decide)
        · exact onDigits _ _ digit
  · cases exponent with
    | none => cases inExponent
    | some parts =>
        obtain ⟨capital, sign, digits⟩ := parts
        rcases List.mem_cons.mp inExponent with rfl | later
        · cases capital <;> exact onSign _ (by decide)
        · rcases List.mem_append.mp later with signed | digit
          · cases sign with
            | none => cases signed
            | some negative =>
                rw [List.mem_singleton.mp signed]
                cases negative <;> exact onSign _ (by decide)
          · exact onDigits _ _ digit

/-- A literal is written in ASCII. -/
theorem ascii_text (numeral : Numeral) : ∀ char ∈ numeral.text, char.toNat < 128 := by
  refine numeral.forall_text (fun digit => ?_) (by simp)
  rw [Digit.char_toNat]
  omega

theorem scan_ofChars {numeral : Numeral} (wellFormed : numeral.WellFormed)
    {rest : List Unicode.CodePoint} (closed : Closed rest) :
    scan (Unicode.ofChars numeral.text ++ rest) = some (numeral, rest) := by
  rw [ofChars_eq_encode]
  exact scan_text (by decide) wellFormed closed

theorem scan_utf16 {numeral : Numeral} (wellFormed : numeral.WellFormed)
    {rest : List Unicode.CodeUnit} (closed : Closed rest) :
    scan (Unicode.utf16 numeral.text ++ rest) = some (numeral, rest) := by
  rw [utf16_eq_encode numeral.ascii_text]
  exact scan_text (by decide) wellFormed closed

end Numeral

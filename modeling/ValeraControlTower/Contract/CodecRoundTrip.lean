import ValeraControlTower.Contract.DecoderAgreement
import ValeraControlTower.Unity.CodecValidation

/-!
# The client's codec

What an encoder returns is decoded to the object that was encoded, and an encoder that
does not return throws a `WireValidationException`.
-/

namespace ValeraControlTower

open Unicode Json Unity Unity.WireCodec

/-- An encoder refuses what it does not encode. -/
def EncodesOrRefuses (outcome : Except CsException CsString) : Prop :=
  (∃ json, outcome = .ok json) ∨ ∃ message, outcome = .error (.wireValidationException message)

theorem encodesOrRefuses_of_failsClosed {outcome : Except CsException CsString}
    (closed : FailsClosed outcome) : EncodesOrRefuses outcome := by
  cases closed with
  | ok _ => exact .inl ⟨_, rfl⟩
  | refused => exact .inr ⟨_, rfl⟩

variable {K : Type} [Field K] [LinearOrder K] {M : FloatMath K}
  {toText : FiniteDouble M → List Char}

/-- The codec round-trips every object it encodes, and refuses the others. -/
theorem codec_roundTrips (roundTrips : RoundTrips M toText) :
    (∀ (dto : CommandDto M) (json : CsString), encodeCommand M toText dto = .ok json →
      decodeCommand M json = .ok dto) ∧
    (∀ (dto : EventDto M) (json : CsString), encodeEvent M toText dto = .ok json →
      decodeEvent M json = .ok dto) ∧
    (∀ dto : CommandDto M, EncodesOrRefuses (encodeCommand M toText dto)) ∧
    ∀ dto : EventDto M, EncodesOrRefuses (encodeEvent M toText dto) := by
  refine ⟨fun dto json encoded => ?_, fun dto json encoded => ?_, fun dto => ?_, fun dto => ?_⟩
  · exact (encodeCommand_ok roundTrips encoded).2.1
  · exact encodeEvent_ok roundTrips encoded
  · exact encodesOrRefuses_of_failsClosed (validated_encodeCommand dto)
  · exact encodesOrRefuses_of_failsClosed (validated_encodeEvent dto)

/-! ## Integers -/

/-- Real arithmetic whose floats are the integers from `-2 ^ 53` to `2 ^ 53`.  The two
integers next to them are rounded, and a literal that denotes another number overflows. -/
noncomputable def FloatMath.integers : FloatMath ℝ :=
  { FloatMath.whole with
    ofRat := fun value =>
      if value.den = 1 ∧ |value| ≤ 2 ^ 53 + 1 then
        some ((max (-2 ^ 53) (min value (2 ^ 53)) : ℚ) : ℝ)
      else none }

/-- `double.ToString` of an integer below `10 ^ 15`.  Larger ones it writes with an exponent;
here they are written out as well, which denotes the same number. -/
noncomputable def integerText (value : FiniteDouble FloatMath.integers) : List Char :=
  (Numeral.ofInt ⌊value.1⌋).text

theorem FloatMath.exact_integers : FloatMath.integers.Exact where
  isfinite := FloatMath.exact_whole.isfinite
  hypot_nonneg := FloatMath.exact_whole.hypot_nonneg
  hypot_mul_self := FloatMath.exact_whole.hypot_mul_self

/-- The floats are the integers within the bounds. -/
theorem FloatMath.ofRat_integers {decimal : ℚ} {value : ℝ}
    (denotes : FloatMath.integers.ofRat decimal = some value) :
    ∃ number : ℤ, value = number ∧ |number| ≤ 2 ^ 53 := by
  change (if decimal.den = 1 ∧ |decimal| ≤ 2 ^ 53 + 1 then
    some ((max (-2 ^ 53) (min decimal (2 ^ 53)) : ℚ) : ℝ) else none) = _ at denotes
  split at denotes
  · next whole =>
      cases denotes
      have isInt := (Rat.den_eq_one_iff decimal).mp whole.1
      have rounded : (max (-2 ^ 53) (min decimal (2 ^ 53)) : ℚ) =
          ((max (-2 ^ 53) (min decimal.num (2 ^ 53)) : ℤ) : ℚ) := by
        push_cast
        rw [isInt]
        norm_num
      refine ⟨max (-2 ^ 53) (min decimal.num (2 ^ 53)), ?_, ?_⟩
      · rw [rounded, Rat.cast_intCast]
      · rw [abs_le]
        exact ⟨le_max_left _ _, max_le (by norm_num) (min_le_right _ _)⟩
  · cases denotes

theorem FloatMath.ofRat_intCast {number : ℤ} (small : |number| ≤ 2 ^ 53) :
    FloatMath.integers.ofRat number = some (number : ℝ) := by
  have within : |(number : ℚ)| ≤ 2 ^ 53 := by exact_mod_cast small
  obtain ⟨above, below⟩ := abs_le.mp within
  change (if (number : ℚ).den = 1 ∧ |(number : ℚ)| ≤ 2 ^ 53 + 1 then
    some ((max (-2 ^ 53) (min (number : ℚ) (2 ^ 53)) : ℚ) : ℝ) else none) = _
  rw [if_pos ⟨Rat.den_intCast number, within.trans (by norm_num)⟩, min_eq_left below,
    max_eq_right above, Rat.cast_intCast]

theorem roundTrips_integers : RoundTrips FloatMath.integers integerText := by
  rintro ⟨value, decimal, denotes⟩
  obtain ⟨number, rfl, small⟩ := FloatMath.ofRat_integers denotes
  refine ⟨.ofInt number, ?_, ?_⟩
  · unfold integerText
    rw [Int.floor_intCast]
    rfl
  · rw [Literal.value_ofInt]
    exact FloatMath.ofRat_intCast small

theorem codec_roundTrips_integers :
    (∀ (dto : CommandDto FloatMath.integers) (json : CsString),
      encodeCommand FloatMath.integers integerText dto = .ok json →
        decodeCommand FloatMath.integers json = .ok dto) ∧
    (∀ (dto : EventDto FloatMath.integers) (json : CsString),
      encodeEvent FloatMath.integers integerText dto = .ok json →
        decodeEvent FloatMath.integers json = .ok dto) ∧
    (∀ dto : CommandDto FloatMath.integers,
      EncodesOrRefuses (encodeCommand FloatMath.integers integerText dto)) ∧
    ∀ dto : EventDto FloatMath.integers,
      EncodesOrRefuses (encodeEvent FloatMath.integers integerText dto) :=
  codec_roundTrips roundTrips_integers

end ValeraControlTower

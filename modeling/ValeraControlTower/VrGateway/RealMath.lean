import ValeraControlTower.VrGateway.Neck

/-!
# The neck controller over the real numbers

`FloatMath.real` is exact real arithmetic.  There, normalizing gives a unit quaternion
and unit quaternions are closed under the operations of `neck.py`, so none of the
constructions on the way to the relative angles is refused.
-/

namespace ValeraControlTower

/-- Real arithmetic with the functions of real analysis; a value is finite below `2 ^ 1024`. -/
noncomputable def FloatMath.real (ofRat : ℚ → Option ℝ) (repr : ℝ → List Char) : FloatMath ℝ where
  ofRat
  isfinite value := decide (|value| < 2 ^ 1024)
  hypot values := √(values.map (· ^ 2)).sum
  atan2 y x := Complex.arg ⟨x, y⟩
  degrees radians := radians * 180 / Real.pi
  exp := Real.exp
  repr

variable {ofRat : ℚ → Option ℝ} {repr : ℝ → List Char}

namespace Quaternion

theorem hypot_eq (x y z w : ℝ) :
    (FloatMath.real ofRat repr).hypot [x, y, z, w] = √(x ^ 2 + y ^ 2 + z ^ 2 + w ^ 2) := by
  simp [FloatMath.real, add_assoc]

/-- Norm one. -/
def IsUnit (value : Quaternion (FloatMath.real ofRat repr)) : Prop :=
  value.x ^ 2 + value.y ^ 2 + value.z ^ 2 + value.w ^ 2 = 1

theorem isfinite_of_sq_le {value : ℝ} (small : value ^ 2 ≤ 1) :
    (FloatMath.real ofRat repr).isfinite value = true := by
  apply decide_eq_true
  calc |value| ≤ 1 := (sq_le_one_iff_abs_le_one value).mp small
    _ < 2 ^ 1024 := one_lt_pow₀ one_lt_two (by decide)

/-- The constructor accepts every unit quaternion. -/
theorem new_of_unit {x y z w : ℝ} (unit : x ^ 2 + y ^ 2 + z ^ 2 + w ^ 2 = 1) :
    ∃ value, Quaternion.new (FloatMath.real ofRat repr) x y z w = .ok value ∧ value.IsUnit ∧
      (value.x, value.y, value.z, value.w) = (x, y, z, w) := by
  have finite : [x, y, z, w].all (FloatMath.real ofRat repr).isfinite = true := by
    simp only [List.all_cons, List.all_nil, Bool.and_true, Bool.and_eq_true]
    refine ⟨isfinite_of_sq_le ?_, isfinite_of_sq_le ?_, isfinite_of_sq_le ?_,
      isfinite_of_sq_le ?_⟩
    · nlinarith [sq_nonneg y, sq_nonneg z, sq_nonneg w]
    · nlinarith [sq_nonneg x, sq_nonneg z, sq_nonneg w]
    · nlinarith [sq_nonneg x, sq_nonneg y, sq_nonneg w]
    · nlinarith [sq_nonneg x, sq_nonneg y, sq_nonneg z]
  have norm : (FloatMath.real ofRat repr).hypot [x, y, z, w] = 1 := by
    rw [hypot_eq, unit, Real.sqrt_one]
  have normFinite : (FloatMath.real ofRat repr).isfinite
      ((FloatMath.real ofRat repr).hypot [x, y, z, w]) = true := by
    rw [norm]
    exact isfinite_of_sq_le (by norm_num)
  have normPositive : zeroLengthNorm < (FloatMath.real ofRat repr).hypot [x, y, z, w] := by
    rw [norm, zeroLengthNorm]
    norm_num
  refine ⟨⟨x, y, z, w, normFinite, normPositive⟩, ?_, unit, rfl⟩
  unfold Quaternion.new
  rw [if_pos finite, dif_pos normFinite, dif_pos normPositive]

/-- Dividing by the norm gives a unit quaternion. -/
theorem normalized_isUnit (value : Quaternion (FloatMath.real ofRat repr)) :
    ∃ unit, value.normalized = .ok unit ∧ unit.IsUnit := by
  have positive : 0 < value.norm := by
    have nonzero := value.normPositive
    change zeroLengthNorm < value.norm at nonzero
    rw [zeroLengthNorm] at nonzero
    exact lt_trans (by norm_num) nonzero
  have squared : value.x ^ 2 + value.y ^ 2 + value.z ^ 2 + value.w ^ 2 = value.norm ^ 2 := by
    have nonnegative : 0 ≤ value.x ^ 2 + value.y ^ 2 + value.z ^ 2 + value.w ^ 2 := by positivity
    change _ = (FloatMath.real ofRat repr).hypot [value.x, value.y, value.z, value.w] ^ 2
    rw [hypot_eq, Real.sq_sqrt nonnegative]
  have unit : (value.x / value.norm) ^ 2 + (value.y / value.norm) ^ 2 +
      (value.z / value.norm) ^ 2 + (value.w / value.norm) ^ 2 = 1 := by
    rw [div_pow, div_pow, div_pow, div_pow, ← add_div, ← add_div, ← add_div, squared]
    exact div_self (pow_ne_zero 2 positive.ne')
  obtain ⟨result, constructed, isUnit, _⟩ := new_of_unit unit
  exact ⟨result, constructed, isUnit⟩

end Quaternion

/-! ## `neck.py` on unit quaternions -/

theorem multiply_isUnit {left right : Quaternion (FloatMath.real ofRat repr)}
    (leftUnit : left.IsUnit) (rightUnit : right.IsUnit) :
    ∃ product, multiply left right = .ok product ∧ product.IsUnit := by
  unfold Quaternion.IsUnit at leftUnit rightUnit
  unfold multiply
  -- The norm is multiplicative.
  have unit :
      (left.w * right.x + left.x * right.w + left.y * right.z - left.z * right.y) ^ 2 +
        (left.w * right.y - left.x * right.z + left.y * right.w + left.z * right.x) ^ 2 +
        (left.w * right.z + left.x * right.y - left.y * right.x + left.z * right.w) ^ 2 +
        (left.w * right.w - left.x * right.x - left.y * right.y - left.z * right.z) ^ 2 = 1 := by
    calc _ = (left.x ^ 2 + left.y ^ 2 + left.z ^ 2 + left.w ^ 2) *
          (right.x ^ 2 + right.y ^ 2 + right.z ^ 2 + right.w ^ 2) := by ring
      _ = 1 := by rw [leftUnit, rightUnit, one_mul]
  obtain ⟨product, constructed, isUnit, _⟩ := Quaternion.new_of_unit unit
  exact ⟨product, constructed, isUnit⟩

theorem inverse_isUnit {value : Quaternion (FloatMath.real ofRat repr)} (unit : value.IsUnit) :
    ∃ inverted, inverse value = .ok inverted ∧ inverted.IsUnit := by
  unfold Quaternion.IsUnit at unit
  unfold inverse
  have one : value.x * value.x + value.y * value.y + value.z * value.z + value.w * value.w = 1 := by
    linarith
  have conjugate : (-value.x / 1) ^ 2 + (-value.y / 1) ^ 2 + (-value.z / 1) ^ 2 +
      (value.w / 1) ^ 2 = 1 := by
    linarith
  dsimp only
  rw [one]
  obtain ⟨inverted, constructed, isUnit, _⟩ := Quaternion.new_of_unit conjugate
  exact ⟨inverted, constructed, isUnit⟩

theorem rotateForward_ok {value : Quaternion (FloatMath.real ofRat repr)} (unit : value.IsUnit) :
    ∃ rotated, rotateForward value = .ok rotated := by
  have ahead : (0 : ℝ) ^ 2 + 0 ^ 2 + (-1) ^ 2 + 0 ^ 2 = 1 := by norm_num
  obtain ⟨forward, constructed, forwardUnit, _⟩ := Quaternion.new_of_unit ahead
  obtain ⟨turned, multiplied, turnedUnit⟩ := multiply_isUnit unit forwardUnit
  obtain ⟨inverted, isInverse, invertedUnit⟩ := inverse_isUnit unit
  obtain ⟨product, multiplied', _⟩ := multiply_isUnit turnedUnit invertedUnit
  refine ⟨(product.x, product.y, product.z), ?_⟩
  simp only [rotateForward, constructed, multiplied, isInverse, multiplied', bind, Except.bind,
    pure, Except.pure]

theorem relativeAnglesDegrees_ok {reference orientation : Quaternion (FloatMath.real ofRat repr)}
    (referenceUnit : reference.IsUnit) (orientationUnit : orientation.IsUnit) :
    ∃ angles, relativeAnglesDegrees reference orientation = .ok angles := by
  obtain ⟨inverted, isInverse, invertedUnit⟩ := inverse_isUnit referenceUnit
  obtain ⟨relative, multiplied, relativeUnit⟩ := multiply_isUnit invertedUnit orientationUnit
  obtain ⟨⟨x, y, z⟩, rotated⟩ := rotateForward_ok relativeUnit
  let M := FloatMath.real ofRat repr
  refine ⟨(M.degrees (M.atan2 (-x) (-z)), M.degrees (M.atan2 y (M.hypot [x, z]))), ?_⟩
  simp only [relativeAnglesDegrees, isInverse, multiplied, rotated, bind, Except.bind, pure,
    Except.pure]
  rfl

namespace NeckController

variable {controller : NeckController (FloatMath.real ofRat repr)}
  {orientation : Quaternion (FloatMath.real ofRat repr)}

/-- From a unit reference, a unit orientation gives a target. -/
theorem update_ok (referenceUnit : controller.reference.IsUnit)
    (orientationUnit : orientation.IsUnit) (nowNs : ℤ) :
    ∃ target, (controller.update orientation nowNs).2 = .ok target := by
  obtain ⟨⟨yaw, pitch⟩, angles⟩ := relativeAnglesDegrees_ok referenceUnit orientationUnit
  unfold update
  dsimp only
  rw [angles]
  exact ⟨_, rfl⟩

theorem new_ok (ofRat : ℚ → Option ℝ) (repr : ℝ → List Char) (config : ValidNeckControlConfig ℝ) :
    ∃ controller, NeckController.new (FloatMath.real ofRat repr) config = .ok controller ∧
      controller.reference.IsUnit := by
  obtain ⟨reference, constructed, referenceUnit, _⟩ :=
    @Quaternion.new_of_unit ofRat repr 0 0 0 1 (by norm_num)
  unfold NeckController.new
  rw [constructed]
  exact ⟨_, rfl, referenceUnit⟩

end NeckController

/-- The example session's configuration over the reals. -/
noncomputable def VrGateway.realNeckConfig : ValidNeckControlConfig ℝ where
  centerPanDegrees := 0
  centerTiltDegrees := 0
  initialPanDegrees := 0
  initialTiltDegrees := 0
  panGain := 1
  tiltGain := 1
  filterTimeConstantSeconds := 0
  maxPanRateDegreesPerSecond := 30
  maxTiltRateDegreesPerSecond := 30
  minPanDegrees := -90
  maxPanDegrees := 90
  minTiltDegrees := -45
  maxTiltDegrees := 45
  constructed := by norm_num [NeckControlConfig.postInit]

end ValeraControlTower

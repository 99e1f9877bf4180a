import ValeraControlTower.Library.Rotation
import ValeraControlTower.VrGateway.RealMath

/-!
# The rotation between reference and pose

`neck.py` multiplies, inverts and turns as the algebra of quaternions does: the forward
vector it computes is the third axis, pointing backwards, turned by the rotation that takes
the reference to the pose.  So it depends on nothing but that rotation.
-/

open scoped Quaternion

namespace ValeraControlTower

open Rotation

variable {ofRat : ℚ → Option ℝ} {repr : ℝ → List Char}

/-- The quaternion with these components. -/
noncomputable def Quaternion.hamilton (value : Quaternion (FloatMath.real ofRat repr)) : ℍ[ℝ] :=
  components value.x value.y value.z value.w

/-! ## `neck.py` in the algebra -/

theorem Quaternion.new_components {x y z w : ℝ} {value : Quaternion (FloatMath.real ofRat repr)}
    (constructed : Quaternion.new (FloatMath.real ofRat repr) x y z w = .ok value) :
    value.hamilton = components x y z w := by
  unfold Quaternion.new at constructed
  split at constructed
  · split at constructed
    · split at constructed
      · cases constructed
        rfl
      · cases constructed
    · cases constructed
  · cases constructed

theorem Quaternion.hamilton_inv {value : Quaternion (FloatMath.real ofRat repr)}
    (unit : value.IsUnit) :
      value.hamilton⁻¹ = components (-value.x) (-value.y) (-value.z) value.w :=
  components_inv unit

/-- The constructor and `normalized` on a unit change nothing. -/
theorem normalized_of_unit {x y z w : ℝ} (unit : x ^ 2 + y ^ 2 + z ^ 2 + w ^ 2 = 1) :
    ∃ value normalized, Quaternion.new (FloatMath.real ofRat repr) x y z w = .ok value ∧
      value.normalized = .ok normalized ∧ normalized.IsUnit ∧
      normalized.hamilton = components x y z w := by
  obtain ⟨value, constructed, isUnit, same⟩ := @Quaternion.new_of_unit ofRat repr _ _ _ _ unit
  obtain ⟨rfl, rfl, rfl, rfl⟩ : value.x = x ∧ value.y = y ∧ value.z = z ∧ value.w = w := by
    simpa using same
  have norm : value.norm = 1 := by
    unfold Quaternion.norm
    rw [Quaternion.hypot_eq, unit, Real.sqrt_one]
  obtain ⟨normalized, again, normalizedUnit, _⟩ := @Quaternion.new_of_unit ofRat repr _ _ _ _ unit
  refine ⟨value, normalized, constructed, ?_, normalizedUnit, Quaternion.new_components again⟩
  unfold Quaternion.normalized
  rwa [norm, div_one, div_one, div_one, div_one]

section Neck

variable {left right value : Quaternion (FloatMath.real ofRat repr)}

theorem multiply_hamilton (leftUnit : left.IsUnit) (rightUnit : right.IsUnit) :
    ∃ product, multiply left right = .ok product ∧ product.IsUnit ∧
      product.hamilton = left.hamilton * right.hamilton := by
  obtain ⟨product, multiplied, unit⟩ := multiply_isUnit leftUnit rightUnit
  refine ⟨product, multiplied, unit, ?_⟩
  rw [Quaternion.new_components multiplied, Quaternion.hamilton, Quaternion.hamilton,
    components_mul]

theorem inverse_hamilton (unit : value.IsUnit) :
    ∃ inverted, inverse value = .ok inverted ∧ inverted.IsUnit ∧
      inverted.hamilton = value.hamilton⁻¹ := by
  obtain ⟨inverted, isInverse, invertedUnit⟩ := inverse_isUnit unit
  refine ⟨inverted, isInverse, invertedUnit, ?_⟩
  have one : value.x * value.x + value.y * value.y + value.z * value.z + value.w * value.w = 1 := by
    unfold Quaternion.IsUnit at unit
    linarith
  rw [Quaternion.new_components isInverse, Quaternion.hamilton_inv unit, one, div_one, div_one,
    div_one, div_one]

/-- `_rotate_forward` turns the third axis, pointing backwards. -/
theorem rotateForward_hamilton (unit : value.IsUnit) :
    rotateForward value = .ok
      (let turned := rotate value.hamilton (vector 0 0 (-1))
      (turned.imI, turned.imJ, turned.imK)) := by
  have ahead : (0 : ℝ) ^ 2 + 0 ^ 2 + (-1) ^ 2 + 0 ^ 2 = 1 := by norm_num
  obtain ⟨forward, constructed, forwardUnit, _⟩ := Quaternion.new_of_unit ahead
  obtain ⟨turned, multiplied, turnedUnit, isTurned⟩ := multiply_hamilton unit forwardUnit
  obtain ⟨inverted, isInverse, invertedUnit, isInverted⟩ := inverse_hamilton unit
  obtain ⟨product, multiplied', _, isProduct⟩ := multiply_hamilton turnedUnit invertedUnit
  have image : product.hamilton = rotate value.hamilton (vector 0 0 (-1)) := by
    rw [isProduct, isTurned, isInverted, Quaternion.new_components constructed]
    rfl
  rw [← image]
  simp only [rotateForward, constructed, multiplied, isInverse, multiplied', bind, Except.bind,
    pure, Except.pure]
  rfl

end Neck

/-! ## The direction of a pose relative to a reference -/

section Definitions

variable {K : Type} [Field K] [LinearOrder K] {M : FloatMath K}

/-- The forward vector `_relative_angles_degrees` computes on its way. -/
def relativeForward (reference orientation : Quaternion M) : Except PyException (K × K × K) := do
  let relative ← multiply (← inverse reference) orientation
  rotateForward relative

/-- The yaw and pitch of a forward vector. -/
def forwardAngles (M : FloatMath K) (forward : K × K × K) : K × K :=
  (M.degrees (M.atan2 (-forward.1) (-forward.2.2)),
    M.degrees (M.atan2 forward.2.1 (M.hypot [forward.1, forward.2.2])))

theorem relativeAnglesDegrees_eq (reference orientation : Quaternion M) :
    relativeAnglesDegrees reference orientation =
      (relativeForward reference orientation).map (forwardAngles M) := by
  simp only [relativeAnglesDegrees, relativeForward, bind, Except.bind]
  cases inverse reference with
  | error exception => rfl
  | ok inverted =>
      dsimp only
      cases multiply inverted orientation with
      | error exception => rfl
      | ok relative =>
          dsimp only
          cases rotateForward relative <;> rfl

/-- No construction on the way is refused, and this is what comes out. -/
structure Faces (reference orientation : Quaternion M) (forward : K × K × K) : Prop where
  direction : relativeForward reference orientation = .ok forward
  angles : relativeAnglesDegrees reference orientation = .ok (forwardAngles M forward)

end Definitions

namespace Quaternion

variable {value other : Quaternion (FloatMath.real ofRat repr)}

theorem hamilton_injective (same : value.hamilton = other.hamilton) : value = other := by
  apply Quaternion.ext
  · exact congrArg QuaternionAlgebra.imI same
  · exact congrArg QuaternionAlgebra.imJ same
  · exact congrArg QuaternionAlgebra.imK same
  · exact congrArg QuaternionAlgebra.re same

theorem normSq_hamilton (value : Quaternion (FloatMath.real ofRat repr)) :
    Quaternion.normSq value.hamilton = value.x ^ 2 + value.y ^ 2 + value.z ^ 2 + value.w ^ 2 := by
  rw [Quaternion.normSq_def']
  simp only [hamilton, components_re, components_imI, components_imJ, components_imK]
  ring

theorem IsUnit.hamilton_ne_zero (unit : value.IsUnit) : value.hamilton ≠ 0 := by
  rw [← Quaternion.normSq_ne_zero, normSq_hamilton, unit]
  exact one_ne_zero

theorem hypot_neg (x y z w : ℝ) : (FloatMath.real ofRat repr).hypot [-x, -y, -z, -w] =
    (FloatMath.real ofRat repr).hypot [x, y, z, w] := by
  rw [hypot_eq, hypot_eq, neg_sq, neg_sq, neg_sq, neg_sq]

/-- The other quaternion of the same rotation. -/
instance : Neg (Quaternion (FloatMath.real ofRat repr)) where
  neg value := ⟨-value.x, -value.y, -value.z, -value.w,
    (congrArg _ (hypot_neg _ _ _ _)).trans value.normFinite,
    value.normPositive.trans_eq (hypot_neg _ _ _ _).symm⟩

theorem hamilton_neg (value : Quaternion (FloatMath.real ofRat repr)) :
    (-value).hamilton = -value.hamilton :=
  (components_neg _ _ _ _).symm

theorem IsUnit.neg (unit : value.IsUnit) : (-value).IsUnit := by
  unfold IsUnit at *
  change (-value.x) ^ 2 + (-value.y) ^ 2 + (-value.z) ^ 2 + (-value.w) ^ 2 = 1
  rwa [neg_sq, neg_sq, neg_sq, neg_sq]

/-- A rotation about the forward axis. -/
structure IsRoll (value : Quaternion (FloatMath.real ofRat repr)) : Prop where
  unit : value.IsUnit
  x : value.x = 0
  y : value.y = 0

end Quaternion

/-- The image of the forward vector under the rotation from a reference to a pose. -/
noncomputable def facing (reference orientation : Quaternion (FloatMath.real ofRat repr)) : ℍ[ℝ] :=
  rotate (reference.hamilton⁻¹ * orientation.hamilton) (vector 0 0 (-1))

section Facing

variable {reference orientation turn roll : Quaternion (FloatMath.real ofRat repr)}

theorem faces (referenceUnit : reference.IsUnit) (orientationUnit : orientation.IsUnit) :
    Faces reference orientation ((facing reference orientation).imI,
      (facing reference orientation).imJ, (facing reference orientation).imK) := by
  obtain ⟨inverted, isInverse, invertedUnit, isInverted⟩ := inverse_hamilton referenceUnit
  obtain ⟨relative, multiplied, relativeUnit, isRelative⟩ :=
    multiply_hamilton invertedUnit orientationUnit
  have direction : relativeForward reference orientation =
      .ok ((facing reference orientation).imI, (facing reference orientation).imJ,
        (facing reference orientation).imK) := by
    simp only [relativeForward, isInverse, multiplied, bind, Except.bind]
    rw [rotateForward_hamilton relativeUnit, isRelative, isInverted]
    rfl
  refine ⟨direction, ?_⟩
  rw [relativeAnglesDegrees_eq, direction]
  rfl

/-- Poses that face alike give the same numbers. -/
theorem faces_of_eq {otherReference otherOrientation : Quaternion (FloatMath.real ofRat repr)}
    (referenceUnit : otherReference.IsUnit) (orientationUnit : otherOrientation.IsUnit)
    (same : facing otherReference otherOrientation = facing reference orientation) :
    Faces otherReference otherOrientation ((facing reference orientation).imI,
      (facing reference orientation).imJ, (facing reference orientation).imK) := by
  rw [← same]
  exact faces referenceUnit orientationUnit

theorem relative_ne_zero (referenceUnit : reference.IsUnit) (orientationUnit : orientation.IsUnit) :
    reference.hamilton⁻¹ * orientation.hamilton ≠ 0 :=
  mul_ne_zero (inv_ne_zero referenceUnit.hamilton_ne_zero) orientationUnit.hamilton_ne_zero

theorem facing_length (referenceUnit : reference.IsUnit) (orientationUnit : orientation.IsUnit) :
    (facing reference orientation).imI ^ 2 + (facing reference orientation).imJ ^ 2 +
      (facing reference orientation).imK ^ 2 = 1 := by
  have nonzero := relative_ne_zero referenceUnit orientationUnit
  have length := normSq_rotate nonzero (vector 0 0 (-1))
  rw [Quaternion.normSq_def', Quaternion.normSq_def', rotate_re nonzero] at length
  unfold facing
  simpa [vector] using length

/-- The frame both are measured in does not matter. -/
theorem facing_turned {turnedReference turnedOrientation : Quaternion (FloatMath.real ofRat repr)}
    (turnUnit : turn.IsUnit) (first : turnedReference.hamilton = turn.hamilton * reference.hamilton)
    (second : turnedOrientation.hamilton = turn.hamilton * orientation.hamilton) :
    facing turnedReference turnedOrientation = facing reference orientation := by
  unfold facing
  rw [first, second, mul_inv_rev, mul_assoc, inv_mul_cancel_left₀ turnUnit.hamilton_ne_zero]

/-- Rolling the head turns nothing in front of it. -/
theorem facing_rolled {rolled : Quaternion (FloatMath.real ofRat repr)} (rolls : roll.IsRoll)
    (isRolled : rolled.hamilton = orientation.hamilton * roll.hamilton) :
    facing reference rolled = facing reference orientation := by
  have still := (rotate_third_iff rolls.unit.hamilton_ne_zero).mpr ⟨rolls.x, rolls.y⟩
  unfold facing
  rw [isRolled, ← mul_assoc, rotate_mul, still]

theorem facing_neg_reference : facing (-reference) orientation = facing reference orientation := by
  unfold facing
  rw [Quaternion.hamilton_neg, inv_neg, neg_mul, rotate_neg]

theorem facing_neg_orientation :
    facing reference (-orientation) = facing reference orientation := by
  unfold facing
  rw [Quaternion.hamilton_neg, mul_neg, rotate_neg]

theorem facing_self (unit : reference.IsUnit) :
    facing reference reference = vector 0 0 (-1) := by
  unfold facing
  rw [inv_mul_cancel₀ unit.hamilton_ne_zero, rotate, inv_one, one_mul, mul_one]

/-- The rotation from the reference to a pose, as `neck.py` computes it. -/
theorem exists_relative (referenceUnit : reference.IsUnit) (orientationUnit : orientation.IsUnit) :
    ∃ relative : Quaternion (FloatMath.real ofRat repr), relative.IsUnit ∧
      relative.hamilton = reference.hamilton⁻¹ * orientation.hamilton := by
  obtain ⟨inverted, _, invertedUnit, isInverted⟩ := inverse_hamilton referenceUnit
  obtain ⟨relative, _, relativeUnit, isRelative⟩ := multiply_hamilton invertedUnit orientationUnit
  rw [isInverted] at isRelative
  exact ⟨relative, relativeUnit, isRelative⟩

/-- Looking straight ahead is being the reference up to sign and roll. -/
theorem facing_ahead_iff (referenceUnit : reference.IsUnit) (orientationUnit : orientation.IsUnit) :
    facing reference orientation = vector 0 0 (-1) ↔
      ∃ roll rolled, roll.IsRoll ∧ multiply reference roll = .ok rolled ∧
        (orientation = rolled ∨ orientation = -rolled) := by
  constructor
  · intro ahead
    obtain ⟨relative, unit, isRelative⟩ := exists_relative referenceUnit orientationUnit
    obtain ⟨x, y⟩ : relative.x = 0 ∧ relative.y = 0 := by
      unfold facing at ahead
      rw [← isRelative] at ahead
      exact (rotate_third_iff unit.hamilton_ne_zero).mp ahead
    obtain ⟨rolled, multiplied, _, isRolled⟩ := multiply_hamilton referenceUnit unit
    refine ⟨relative, rolled, ⟨unit, x, y⟩, multiplied, .inl ?_⟩
    apply Quaternion.hamilton_injective
    rw [isRolled, isRelative, mul_inv_cancel_left₀ referenceUnit.hamilton_ne_zero]
  · rintro ⟨roll, rolled, rolls, multiplied, same⟩
    obtain ⟨product, multiplied', _, isRolled⟩ := multiply_hamilton referenceUnit rolls.unit
    obtain rfl := Except.ok.inj (multiplied'.symm.trans multiplied)
    have ahead : facing reference product = vector 0 0 (-1) := by
      rw [facing_rolled rolls isRolled, facing_self referenceUnit]
    rcases same with rfl | rfl
    · exact ahead
    · rw [facing_neg_orientation, ahead]

theorem coordinates_eq_iff (referenceUnit : reference.IsUnit)
    (orientationUnit : orientation.IsUnit) {x y z : ℝ} :
    ((facing reference orientation).imI, (facing reference orientation).imJ,
        (facing reference orientation).imK) = (x, y, z) ↔
      facing reference orientation = vector x y z := by
  have pure : (facing reference orientation).re = 0 :=
    rotate_re (relative_ne_zero referenceUnit orientationUnit) _
  constructor
  · intro same
    simp only [Prod.mk.injEq] at same
    obtain ⟨isX, isY, isZ⟩ := same
    exact QuaternionAlgebra.ext pure isX isY isZ
  · intro same
    rw [same]
    rfl

/-- Straight ahead is no yaw and no pitch. -/
theorem forwardAngles_ahead : forwardAngles (FloatMath.real ofRat repr) (0, 0, -1) = (0, 0) := by
  have one : (⟨1, 0⟩ : ℂ) = 1 := rfl
  simp [forwardAngles, FloatMath.real, one]

end Facing

/-- Relative angles depend only on the rotation between reference and pose: for unit
quaternions no construction is refused, the forward vector has length one, it stays when
both are turned, when either is negated and when the head rolls, and it points straight
ahead exactly when the pose is the reference up to sign and roll; then yaw and pitch are
zero. -/
theorem relativeForward_invariant {reference orientation turn roll :
    Quaternion (FloatMath.real ofRat repr)} (referenceUnit : reference.IsUnit)
    (orientationUnit : orientation.IsUnit) (turnUnit : turn.IsUnit) (rolls : roll.IsRoll) :
    ∃ x y z, Faces reference orientation (x, y, z) ∧ x ^ 2 + y ^ 2 + z ^ 2 = 1 ∧
      (∃ turnedReference turnedOrientation, multiply turn reference = .ok turnedReference ∧
        multiply turn orientation = .ok turnedOrientation ∧
        Faces turnedReference turnedOrientation (x, y, z)) ∧
      Faces (-reference) orientation (x, y, z) ∧ Faces reference (-orientation) (x, y, z) ∧
      (∃ rolled, multiply orientation roll = .ok rolled ∧ Faces reference rolled (x, y, z)) ∧
      ((x, y, z) = (0, 0, -1) ↔ ∃ roll rolled, roll.IsRoll ∧
        multiply reference roll = .ok rolled ∧ (orientation = rolled ∨ orientation = -rolled)) ∧
      ((x, y, z) = (0, 0, -1) → relativeAnglesDegrees reference orientation = .ok (0, 0)) := by
  obtain ⟨turnedReference, first, firstUnit, isFirst⟩ := multiply_hamilton turnUnit referenceUnit
  obtain ⟨turnedOrientation, second, secondUnit, isSecond⟩ :=
    multiply_hamilton turnUnit orientationUnit
  obtain ⟨rolled, third, rolledUnit, isRolled⟩ := multiply_hamilton orientationUnit rolls.unit
  have seen := faces referenceUnit orientationUnit
  refine ⟨_, _, _, seen, facing_length referenceUnit orientationUnit, ?_, ?_, ?_, ?_, ?_, ?_⟩
  · exact ⟨turnedReference, turnedOrientation, first, second,
      faces_of_eq firstUnit secondUnit (facing_turned turnUnit isFirst isSecond)⟩
  · exact faces_of_eq referenceUnit.neg orientationUnit facing_neg_reference
  · exact faces_of_eq referenceUnit orientationUnit.neg facing_neg_orientation
  · exact ⟨rolled, third, faces_of_eq referenceUnit rolledUnit (facing_rolled rolls isRolled)⟩
  · rw [coordinates_eq_iff referenceUnit orientationUnit]
    exact facing_ahead_iff referenceUnit orientationUnit
  · intro ahead
    rw [seen.angles, ahead, forwardAngles_ahead]

/-- A unit quaternion of the message layer with these components. -/
theorem exists_unit (ofRat : ℚ → Option ℝ) (repr : ℝ → List Char) {x y z w : ℝ}
    (unit : x ^ 2 + y ^ 2 + z ^ 2 + w ^ 2 = 1) :
    ∃ value : Quaternion (FloatMath.real ofRat repr), value.IsUnit ∧
      value.hamilton = components x y z w := by
  obtain ⟨value, constructed, isUnit, _⟩ := @Quaternion.new_of_unit ofRat repr _ _ _ _ unit
  exact ⟨value, isUnit, Quaternion.new_components constructed⟩

/-- A head turned by 120 degrees about the diagonal. -/
theorem relativeForward_invariant_diagonal :
    ∃ reference orientation : Quaternion (FloatMath.real (fun _ => none) fun _ => []),
      reference.hamilton = components 0 0 0 1 ∧
      orientation.hamilton = components (1 / 2) (1 / 2) (1 / 2) (1 / 2) ∧
      ∃ x y z, Faces reference orientation (x, y, z) ∧ Faces (-reference) orientation (x, y, z) ∧
        x ^ 2 + y ^ 2 + z ^ 2 = 1 := by
  obtain ⟨reference, referenceUnit, isReference⟩ :=
    exists_unit (fun _ => none) (fun _ => [])
      (show (0 : ℝ) ^ 2 + 0 ^ 2 + 0 ^ 2 + 1 ^ 2 = 1 by norm_num)
  obtain ⟨orientation, orientationUnit, isOrientation⟩ := exists_unit (fun _ => none) (fun _ => [])
    (show ((1 : ℝ) / 2) ^ 2 + (1 / 2) ^ 2 + (1 / 2) ^ 2 + (1 / 2) ^ 2 = 1 by norm_num)
  have rolls : reference.IsRoll :=
    ⟨referenceUnit, congrArg QuaternionAlgebra.imI isReference,
      congrArg QuaternionAlgebra.imJ isReference⟩
  obtain ⟨x, y, z, seen, length, _, negated, _⟩ :=
    relativeForward_invariant referenceUnit orientationUnit orientationUnit rolls
  exact ⟨reference, orientation, isReference, isOrientation, x, y, z, seen, negated, length⟩

end ValeraControlTower

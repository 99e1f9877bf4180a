import ValeraControlTower.Unity.QuestLocalPoseConverter
import ValeraControlTower.VrGateway.NeckRotation

/-!
# Head motion across the two frames

The converter reflects the third axis and the gateway multiplies, inverts and turns in
that frame.  Both are rotations by quaternions, so the headset's forward vector comes out
reflected, and nothing depends on length or sign.
-/

open scoped Quaternion

namespace ValeraControlTower

open Rotation

variable {ofRat : ℚ → Option ℝ} {repr : ℝ → List Char}

/-! ## Unity's quaternions in the algebra -/

namespace Unity.UnityQuaternion

/-- The quaternion with these components. -/
noncomputable def hamilton (value : UnityQuaternion ℝ) : ℍ[ℝ] :=
    components value.x value.y value.z value.w

instance : Neg (UnityQuaternion ℝ) := ⟨fun value => ⟨-value.x, -value.y, -value.z, -value.w⟩⟩

theorem hamilton_neg (value : UnityQuaternion ℝ) : (-value).hamilton = -value.hamilton :=
  (components_neg _ _ _ _).symm

/-- Norm one. -/
def IsUnit (value : UnityQuaternion ℝ) : Prop :=
  value.x ^ 2 + value.y ^ 2 + value.z ^ 2 + value.w ^ 2 = 1

end Unity.UnityQuaternion

open Unity

/-! ## The converter in the algebra -/

namespace Unity

/-- What is converted is scaled to length one and reflected. -/
theorem convert_hamilton {value converted : UnityQuaternion ℝ}
    (accepted : convert .real value = .ok converted) :
    converted.IsUnit ∧ ∃ scale : ℝ, scale ≠ 0 ∧
      converted.hamilton = mirror (scale • value.hamilton) := by
  unfold convert at accepted
  dsimp only at accepted
  set squared := value.x * value.x + value.y * value.y + value.z * value.z +
    value.w * value.w with isSquared
  split at accepted
  · cases accepted
  · next fits =>
      cases accepted
      have large : 1 / 10 ^ 24 < squared := by
        rw [Bool.or_eq_true, not_or] at fits
        simpa using fits.2
      have positive : 0 < squared := lt_trans (by positivity) large
      have root : 0 < √squared := Real.sqrt_pos.mpr positive
      refine ⟨?_, 1 / √squared, by positivity, ?_⟩
      · unfold UnityQuaternion.IsUnit
        simp only [SingleMath.real]
        have whole : (1 / √squared) ^ 2 * squared = 1 := by
          rw [div_pow, one_pow, Real.sq_sqrt positive.le]
          exact one_div_mul_cancel positive.ne'
        calc (-(value.x * (1 / √squared))) ^ 2 + (-(value.y * (1 / √squared))) ^ 2 +
              (value.z * (1 / √squared)) ^ 2 + (value.w * (1 / √squared)) ^ 2
            = (1 / √squared) ^ 2 * squared := by rw [isSquared]; ring
          _ = 1 := whole
      · rw [UnityQuaternion.hamilton, UnityQuaternion.hamilton, components_smul, mirror_apply,
          reflected_components]
        simp only [SingleMath.real, mul_comm]

/-- The opposite quaternion is converted to the opposite one. -/
theorem convert_neg {value converted : UnityQuaternion ℝ}
    (accepted : convert .real value = .ok converted) :
    convert .real (-value) = .ok (-converted) := by
  obtain ⟨x, y, z, w⟩ := value
  change convert .real ⟨-x, -y, -z, -w⟩ = _
  unfold convert at *
  dsimp only at *
  simp only [neg_mul_neg]
  split at accepted
  · cases accepted
  · next fits =>
      cases accepted
      rw [if_neg fits]
      simp only [neg_mul]
      rfl

end Unity

/-! ## From headset to neck -/

section Gateway

variable {K : Type} [Field K] [LinearOrder K] (M : FloatMath K)

/-- The message layer's quaternion of a converted one, normalized as the gateway does. -/
def received (orientation : UnityQuaternion K) : Except PyException (Quaternion M) := do
  let value ← Quaternion.new M orientation.x orientation.y orientation.z orientation.w
  value.normalized

/-- The forward vector the gateway computes from a reference and a pose. -/
def gatewayForward (reference orientation : UnityQuaternion K) :
    Except PyException (K × K × K) := do
  let reference ← received M reference
  let orientation ← received M orientation
  let relative ← multiply (← inverse reference) orientation
  rotateForward relative

/-- The yaw and pitch the gateway computes from a reference and a pose. -/
def gatewayAngles (reference orientation : UnityQuaternion K) : Except PyException (K × K) := do
  let reference ← received M reference
  let orientation ← received M orientation
  relativeAnglesDegrees reference orientation

end Gateway

/-- The image of Unity's forward vector under the rotation of a pose relative to a
reference. -/
noncomputable def unityForward (reference pose : UnityQuaternion ℝ) : ℍ[ℝ] :=
  rotate (reference.hamilton⁻¹ * pose.hamilton) (vector 0 0 1)

/-- What the gateway computes from a converted reference and pose, for a forward vector of
the headset: its third coordinate reflected, and the angles that go with it. -/
structure Reflects (M : FloatMath ℝ) (forward : ℍ[ℝ]) (reference pose : UnityQuaternion ℝ) :
    Prop where
  direction : gatewayForward M reference pose = .ok (forward.imI, forward.imJ, -forward.imK)
  angles : gatewayAngles M reference pose =
    .ok (M.degrees (M.atan2 (-forward.imI) forward.imK),
      M.degrees (M.atan2 forward.imJ (M.hypot [forward.imI, forward.imK])))

theorem received_hamilton {orientation : UnityQuaternion ℝ} (unit : orientation.IsUnit) :
    ∃ value, received (FloatMath.real ofRat repr) orientation = .ok value ∧ value.IsUnit ∧
      value.hamilton = orientation.hamilton := by
  obtain ⟨value, normalized, constructed, isNormalized, isUnit, same⟩ :=
    @normalized_of_unit ofRat repr _ _ _ _ unit
  refine ⟨normalized, ?_, isUnit, same⟩
  unfold received
  rw [constructed]
  exact isNormalized

/-- The relative rotation is reflected, whatever the lengths were. -/
theorem relative_reflected {reference pose convertedReference convertedPose : UnityQuaternion ℝ}
    (referenceAccepted : convert .real reference = .ok convertedReference)
    (poseAccepted : convert .real pose = .ok convertedPose) :
    rotate (convertedReference.hamilton⁻¹ * convertedPose.hamilton) (vector 0 0 (-1)) =
      -mirror (unityForward reference pose) := by
  obtain ⟨_, first, firstNonzero, isFirst⟩ := convert_hamilton referenceAccepted
  obtain ⟨_, second, secondNonzero, isSecond⟩ := convert_hamilton poseAccepted
  have backwards : vector 0 0 (-1) = -vector (0 : ℝ) 0 1 := by rw [vector_neg, neg_zero]
  have upright : mirror (vector (0 : ℝ) 0 1) = vector 0 0 1 := by
    rw [mirror_apply, vector, reflected_components, neg_zero]
  rw [isFirst, isSecond, ← map_inv₀, ← map_mul, backwards, rotate_neg_right, rotate_mirror,
    upright, rotate_relative_smul firstNonzero secondNonzero]
  rfl

theorem reflects {reference pose convertedReference convertedPose : UnityQuaternion ℝ}
    (referenceAccepted : convert .real reference = .ok convertedReference)
    (poseAccepted : convert .real pose = .ok convertedPose) :
    Reflects (FloatMath.real ofRat repr) (unityForward reference pose) convertedReference
      convertedPose := by
  obtain ⟨referenceUnit, _⟩ := convert_hamilton referenceAccepted
  obtain ⟨poseUnit, _⟩ := convert_hamilton poseAccepted
  obtain ⟨first, isFirst, firstUnit, firstSame⟩ := @received_hamilton ofRat repr _ referenceUnit
  obtain ⟨second, isSecond, secondUnit, secondSame⟩ := @received_hamilton ofRat repr _ poseUnit
  obtain ⟨inverted, isInverse, invertedUnit, invertedSame⟩ := inverse_hamilton firstUnit
  obtain ⟨relative, multiplied, relativeUnit, relativeSame⟩ :=
    multiply_hamilton invertedUnit secondUnit
  have rotated := rotateForward_hamilton relativeUnit
  rw [relativeSame, invertedSame, firstSame, secondSame,
    relative_reflected referenceAccepted poseAccepted] at rotated
  set forward := unityForward reference pose
  have seen : rotateForward relative = .ok (forward.imI, forward.imJ, -forward.imK) := by
    rw [rotated]
    simp [reflected]
  constructor
  · simp only [gatewayForward, isFirst, isSecond, isInverse, multiplied, bind, Except.bind]
    exact seen
  · simp only [gatewayAngles, relativeAnglesDegrees, isFirst, isSecond, isInverse, multiplied, seen,
      bind, Except.bind, pure, Except.pure, neg_neg]
    simp [FloatMath.real]

/-- The signs a quaternion can be given. -/
def Signed (value signed : UnityQuaternion ℝ) : Prop := signed = value ∨ signed = -value

theorem convert_signed {value signed converted : UnityQuaternion ℝ} (either : Signed value signed)
    (accepted : convert .real value = .ok converted) :
    ∃ image, convert .real signed = .ok image ∧
      matrix image.hamilton = matrix converted.hamilton := by
  rcases either with rfl | rfl
  · exact ⟨converted, accepted, rfl⟩
  · refine ⟨-converted, convert_neg accepted, ?_⟩
    rw [UnityQuaternion.hamilton_neg, matrix_neg]

theorem Signed.scale {value signed : UnityQuaternion ℝ} (either : Signed value signed) :
    ∃ scale : ℝ, scale ≠ 0 ∧ signed.hamilton = scale • value.hamilton := by
  rcases either with rfl | rfl
  · exact ⟨1, one_ne_zero, (one_smul _ _).symm⟩
  · refine ⟨-1, by norm_num, ?_⟩
    rw [UnityQuaternion.hamilton_neg, neg_eq_smul]

theorem unityForward_signed {reference pose signedReference signedPose : UnityQuaternion ℝ}
    (referenceSigned : Signed reference signedReference) (poseSigned : Signed pose signedPose) :
    unityForward signedReference signedPose = unityForward reference pose := by
  obtain ⟨first, firstNonzero, isFirst⟩ := referenceSigned.scale
  obtain ⟨second, secondNonzero, isSecond⟩ := poseSigned.scale
  unfold unityForward
  rw [isFirst, isSecond, rotate_relative_smul firstNonzero secondNonzero]

/-- A converted rotation is the reflected one. -/
theorem matrix_convert {value converted : UnityQuaternion ℝ}
    (accepted : convert .real value = .ok converted) :
    matrix converted.hamilton = reflection * matrix value.hamilton * reflection := by
  obtain ⟨_, scale, nonzero, same⟩ := convert_hamilton accepted
  rw [same, matrix_mirror, matrix_smul nonzero]

/-- Head motion reaches the neck with the right sign: for all orientations the converter
accepts, under either sign of each, the gateway computes the headset's forward vector with
its third coordinate negated and the angles that go with it; and every converted rotation
is the reflected one, whichever sign was converted. -/
theorem headMotion_reflected (ofRat : ℚ → Option ℝ) (repr : ℝ → List Char)
    {reference pose convertedReference convertedPose : UnityQuaternion ℝ}
    (referenceAccepted : convert .real reference = .ok convertedReference)
    (poseAccepted : convert .real pose = .ok convertedPose) :
    Reflects (FloatMath.real ofRat repr) (unityForward reference pose) convertedReference
        convertedPose ∧
      matrix convertedReference.hamilton = reflection * matrix reference.hamilton * reflection ∧
      matrix convertedPose.hamilton = reflection * matrix pose.hamilton * reflection ∧
      ∀ signedReference signedPose, Signed reference signedReference → Signed pose signedPose →
        ∃ first second, convert .real signedReference = .ok first ∧
          convert .real signedPose = .ok second ∧
          Reflects (FloatMath.real ofRat repr) (unityForward reference pose) first second ∧
          matrix first.hamilton = matrix convertedReference.hamilton ∧
          matrix second.hamilton = matrix convertedPose.hamilton := by
  refine ⟨reflects referenceAccepted poseAccepted, matrix_convert referenceAccepted,
    matrix_convert poseAccepted, ?_⟩
  intro signedReference signedPose referenceSigned poseSigned
  obtain ⟨first, isFirst, sameFirst⟩ := convert_signed referenceSigned referenceAccepted
  obtain ⟨second, isSecond, sameSecond⟩ := convert_signed poseSigned poseAccepted
  have reflected : Reflects (FloatMath.real ofRat repr) _ first second := reflects isFirst isSecond
  rw [unityForward_signed referenceSigned poseSigned] at reflected
  exact ⟨first, second, isFirst, isSecond, reflected, sameFirst, sameSecond⟩

/-- The converter accepts every rotation. -/
theorem convert_unit {x y z w : ℝ} (unit : x * x + y * y + z * z + w * w = 1) :
    ∃ converted, convert .real ⟨x, y, z, w⟩ = .ok converted := by
  have finite : SingleMath.real.isFinite 1 = true := by
    apply decide_eq_true
    rw [abs_one]
    exact one_lt_pow₀ one_lt_two (by decide)
  have large : ¬(1 : ℝ) ≤ 1 / 10 ^ 24 := by norm_num
  refine ⟨_, if_neg ?_⟩
  dsimp only
  rw [unit, finite, decide_eq_false large]
  simp

/-- A head that has been turned by 120 degrees about the diagonal turns to the side. -/
theorem headMotion_reflected_turned : ∃ reference pose,
    convert .real ⟨1 / 2, 1 / 2, 1 / 2, 1 / 2⟩ = .ok reference ∧
      convert .real ⟨0, 3 / 5, 0, 4 / 5⟩ = .ok pose ∧
      Reflects (FloatMath.real (fun _ => none) fun _ => [])
        (unityForward ⟨1 / 2, 1 / 2, 1 / 2, 1 / 2⟩ ⟨0, 3 / 5, 0, 4 / 5⟩) reference pose := by
  obtain ⟨reference, isReference⟩ :=
    @convert_unit (1 / 2) (1 / 2) (1 / 2) (1 / 2) (by norm_num)
  obtain ⟨pose, isPose⟩ := @convert_unit 0 (3 / 5) 0 (4 / 5) (by norm_num)
  exact ⟨reference, pose, isReference, isPose, (headMotion_reflected _ _ isReference isPose).1⟩

end ValeraControlTower

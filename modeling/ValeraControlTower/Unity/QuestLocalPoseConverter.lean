import ValeraControlTower.Unity.CSharp

/-!
# `Runtime/OpenXr/QuestLocalPoseConverter.cs`

Arithmetic is exact over `K`; the functions on `float` are those of a parameter.
-/

namespace ValeraControlTower.Unity

variable {K : Type} [Field K] [LinearOrder K]

/-- A `UnityEngine.Quaternion`. -/
@[ext]
structure UnityQuaternion (K : Type) where
  x : K
  y : K
  z : K
  w : K

/-- `float.IsFinite` and `Mathf.Sqrt`. -/
structure SingleMath (K : Type) where
  isFinite : K → Bool
  sqrt : K → K

/-- Real arithmetic; a value is finite below `2 ^ 128`. -/
noncomputable def SingleMath.real : SingleMath ℝ where
  isFinite value := decide (|value| < 2 ^ 128)
  sqrt := Real.sqrt

/-- `Convert`. -/
def convert (F : SingleMath K) (unityOrientation : UnityQuaternion K) :
    Except CsException (UnityQuaternion K) :=
  let squared := unityOrientation.x * unityOrientation.x + unityOrientation.y * unityOrientation.y +
    unityOrientation.z * unityOrientation.z + unityOrientation.w * unityOrientation.w
  if !F.isFinite squared || decide (squared ≤ 1 / 10 ^ 24) then
    invalid "Unity orientation must be finite and non-zero."
  else
    let inverseLength := 1 / F.sqrt squared
    let normalized : UnityQuaternion K := {
      x := unityOrientation.x * inverseLength
      y := unityOrientation.y * inverseLength
      z := unityOrientation.z * inverseLength
      w := unityOrientation.w * inverseLength }
    .ok ⟨-normalized.x, -normalized.y, normalized.z, normalized.w⟩

end ValeraControlTower.Unity

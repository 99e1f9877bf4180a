import Mathlib

/-!
# Rotations by quaternions and the reflection of the third axis

A quaternion turns a vector by conjugation, whatever its length and sign.  Reflecting the
third axis of space conjugates every rotation; on quaternions that is `mirror`, which is
multiplicative because it is conjugation by the third unit.
-/

namespace Rotation

open scoped Quaternion

section Coordinates

variable {R : Type*} [Field R]

/-- The quaternion with this vector and scalar part. -/
def components (x y z w : R) : ℍ[R] := ⟨w, x, y, z⟩

@[simp]
theorem components_re (x y z w : R) : (components x y z w).re = w := rfl

@[simp]
theorem components_imI (x y z w : R) : (components x y z w).imI = x := rfl

@[simp]
theorem components_imJ (x y z w : R) : (components x y z w).imJ = y := rfl

@[simp]
theorem components_imK (x y z w : R) : (components x y z w).imK = z := rfl

theorem components_mul (x y z w x' y' z' w' : R) :
    components x y z w * components x' y' z' w' =
      components (w * x' + x * w' + y * z' - z * y') (w * y' - x * z' + y * w' + z * x')
        (w * z' + x * y' - y * x' + z * w') (w * w' - x * x' - y * y' - z * z') := by
  ext <;> simp

theorem components_smul (r x y z w : R) :
    r • components x y z w = components (r * x) (r * y) (r * z) (r * w) := by
  ext <;> simp

theorem components_neg (x y z w : R) :
    -components x y z w = components (-x) (-y) (-z) (-w) := by
  ext <;> simp

/-- The vector with these coordinates. -/
def vector (x y z : R) : ℍ[R] := components x y z 0

theorem vector_neg (x y z : R) : -vector x y z = vector (-x) (-y) (-z) := by
  rw [vector, components_neg, neg_zero]
  rfl

/-- The unit vectors of the axes. -/
def axis : Fin 3 → ℍ[R] := ![vector 1 0 0, vector 0 1 0, vector 0 0 1]

def coordinates (v : ℍ[R]) : Fin 3 → R := ![v.imI, v.imJ, v.imK]

/-- The reflection of the third axis. -/
def reflection : Matrix (Fin 3) (Fin 3) R := .diagonal ![1, 1, -1]

/-- The quaternion of the reflected rotation. -/
def reflected (q : ℍ[R]) : ℍ[R] := components (-q.imI) (-q.imJ) q.imK q.re

@[simp]
theorem reflected_components (x y z w : R) :
    reflected (components x y z w) = components (-x) (-y) z w := rfl

theorem re_mul_comm (p q : ℍ[R]) : (p * q).re = (q * p).re := by
  simp
  ring

end Coordinates

variable {R : Type*} [Field R] [LinearOrder R] [IsStrictOrderedRing R]

/-- A unit is inverted by changing the sign of its vector part. -/
theorem components_inv {x y z w : R} (unit : x ^ 2 + y ^ 2 + z ^ 2 + w ^ 2 = 1) :
    (components x y z w)⁻¹ = components (-x) (-y) (-z) w := by
  apply inv_eq_of_mul_eq_one_right
  rw [components_mul]
  ext
  · simp
    linarith
  all_goals
    simp
    ring

/-- The image of a vector under the rotation by a quaternion. -/
def rotate (q v : ℍ[R]) : ℍ[R] := q * v * q⁻¹

/-- The matrix of the rotation: its columns are the images of the axes. -/
def matrix (q : ℍ[R]) : Matrix (Fin 3) (Fin 3) R :=
  .of fun row column => coordinates (rotate q (axis column)) row

/-- Reflecting is multiplicative. -/
def mirror : ℍ[R] →*₀ ℍ[R] where
  toFun := reflected
  map_zero' := by ext <;> simp [reflected]
  map_one' := by ext <;> simp [reflected]
  map_mul' p q := by
    ext
    · simp [reflected]
    · simp [reflected]
      ring
    · simp [reflected]
      ring
    · simp [reflected]

@[simp]
theorem mirror_apply (q : ℍ[R]) : mirror q = reflected q := rfl

theorem mirror_mirror (q : ℍ[R]) : mirror (mirror q) = q := by
  ext <;> simp [reflected]

theorem rotate_neg_right (q v : ℍ[R]) : rotate q (-v) = -rotate q v := by
  simp [rotate]

theorem rotate_mul (p q v : ℍ[R]) : rotate (p * q) v = rotate p (rotate q v) := by
  simp only [rotate, mul_inv_rev, mul_assoc]

theorem rotate_mirror (q v : ℍ[R]) : rotate (mirror q) v = mirror (rotate q (mirror v)) := by
  simp only [rotate, map_mul, map_inv₀, mirror_mirror]

/-- The length of a quaternion does not matter. -/
theorem rotate_smul {r : R} (nonzero : r ≠ 0) (q v : ℍ[R]) : rotate (r • q) v = rotate q v := by
  unfold rotate
  rw [smul_mul_assoc, smul_mul_assoc, smul_inv₀, mul_smul_comm, smul_smul, mul_inv_cancel₀ nonzero,
    one_smul]

/-- Neither do the lengths of two quaternions for the rotation from one to the other. -/
theorem rotate_relative_smul {r s : R} (first : r ≠ 0) (second : s ≠ 0) (p q v : ℍ[R]) :
    rotate ((r • p)⁻¹ * (s • q)) v = rotate (p⁻¹ * q) v := by
  have scaled : (r • p)⁻¹ * (s • q) = (r⁻¹ * s) • (p⁻¹ * q) := by
    rw [smul_inv₀, smul_mul_smul_comm]
  rw [scaled, rotate_smul (mul_ne_zero (inv_ne_zero first) second)]

omit [LinearOrder R] [IsStrictOrderedRing R] in
theorem neg_eq_smul (q : ℍ[R]) : -q = (-1 : R) • q := (neg_one_smul R q).symm

theorem rotate_neg (q v : ℍ[R]) : rotate (-q) v = rotate q v := by
  rw [neg_eq_smul, rotate_smul (by simp)]

/-! ## Length and axis -/

/-- A rotation keeps the scalar part. -/
theorem rotate_re {q : ℍ[R]} (nonzero : q ≠ 0) (v : ℍ[R]) : (rotate q v).re = v.re := by
  unfold rotate
  rw [re_mul_comm, ← mul_assoc, inv_mul_cancel₀ nonzero, one_mul]

/-- A rotation keeps length. -/
theorem normSq_rotate {q : ℍ[R]} (nonzero : q ≠ 0) (v : ℍ[R]) :
    Quaternion.normSq (rotate q v) = Quaternion.normSq v := by
  have positive : Quaternion.normSq q ≠ 0 := Quaternion.normSq_ne_zero.mpr nonzero
  unfold rotate
  rw [map_mul, map_mul, map_inv₀, mul_right_comm, mul_inv_cancel₀ positive, one_mul]

/-- What a rotation leaves alone commutes with its quaternion. -/
theorem rotate_eq_iff {q : ℍ[R]} (nonzero : q ≠ 0) (v : ℍ[R]) :
    rotate q v = v ↔ q * v = v * q := by
  unfold rotate
  exact mul_inv_eq_iff_eq_mul₀ nonzero

/-- The rotations about the third axis have no other component. -/
theorem rotate_third_iff {q : ℍ[R]} (nonzero : q ≠ 0) :
    rotate q (vector 0 0 (-1)) = vector 0 0 (-1) ↔ q.imI = 0 ∧ q.imJ = 0 := by
  obtain ⟨w, x, y, z⟩ := q
  rw [rotate_eq_iff nonzero]
  change components x y z w * components 0 0 (-1) 0 = components 0 0 (-1) 0 * components x y z w ↔
    x = 0 ∧ y = 0
  rw [components_mul, components_mul]
  constructor
  · intro same
    have first := congrArg QuaternionAlgebra.imJ same
    have second := congrArg QuaternionAlgebra.imI same
    simp only [components_imI, components_imJ] at first second
    constructor
    · linarith
    · linarith
  · rintro ⟨rfl, rfl⟩
    simp [mul_comm]

theorem matrix_smul {r : R} (nonzero : r ≠ 0) (q : ℍ[R]) : matrix (r • q) = matrix q := by
  unfold matrix
  simp only [rotate_smul nonzero]

theorem matrix_neg (q : ℍ[R]) : matrix (-q) = matrix q := by
  unfold matrix
  simp only [rotate_neg]

theorem coordinates_mirror (v : ℍ[R]) : coordinates (mirror v) = ![-v.imI, -v.imJ, v.imK] := rfl

theorem matrix_mirror (q : ℍ[R]) : matrix (mirror q) = reflection * matrix q * reflection := by
  have negated : ∀ v : ℍ[R], rotate q (-v) = -rotate q v := rotate_neg_right q
  ext row column
  rw [reflection, Matrix.mul_diagonal, Matrix.diagonal_mul]
  simp only [matrix, Matrix.of_apply, rotate_mirror, coordinates_mirror]
  have first : mirror (axis 0 : ℍ[R]) = -axis 0 := by
    ext <;> simp [axis, vector]
  have second : mirror (axis 1 : ℍ[R]) = -axis 1 := by
    ext <;> simp [axis, vector]
  have third : mirror (axis 2 : ℍ[R]) = axis 2 := by
    ext <;> simp [axis, vector]
  fin_cases column
  all_goals
    fin_cases row <;> simp [first, second, third, negated, coordinates]

end Rotation

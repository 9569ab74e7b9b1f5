import FBXRenderer.Engine.Transform

/-!
# FBXRenderer.Engine.TransformAlgebra

The product of transforms against the product of their matrices, and the inverse of a transform
under the product. Both use the formulas of the library (`DirectXMath.Computes`).

* `asMatrix_mul`: with a uniform scale on the right the matrix of the product is the product of the
  matrices.
* `inverse_two_sided_iff`: the inverse always undoes a transform from the left. From the right it
  does so exactly where the scaling and the rotation of the position commute.
* `scaleCommutes_of_inverse`: where they do not, no transform is an inverse on both sides.
-/

namespace FBXRenderer

open DirectXMath

section Rotate

variable {K : Type} [Field K]

/-- A vector is rotated as a row vector in front of the matrix. -/
theorem vector3Rotate_eq (v : Vector4f K) {q : Quaternion K} (hq : q.IsUnit) :
    let R := rotationQuaternion q
    vector3Rotate v q =
      ⟨v.X * R 0 0 + v.Y * R 1 0 + v.Z * R 2 0, v.X * R 0 1 + v.Y * R 1 1 + v.Z * R 2 1,
        v.X * R 0 2 + v.Y * R 1 2 + v.Z * R 2 2, 0⟩ := by
  simp only [rotationQuaternion_eq hq]
  ext <;> simp [vector3Rotate, quaternionMultiply] <;> ring

/-- Rotating twice is rotating by the product. -/
theorem vector3Rotate_mul (v : Vector4f K) (p q : Quaternion K) :
    vector3Rotate (vector3Rotate v p) q = vector3Rotate v (quaternionMultiply p q) := by
  ext <;> simp [vector3Rotate, quaternionMultiply] <;> ring

theorem vector3Rotate_one (v : Vector4f K) :
    vector3Rotate v Quaternion.one = ⟨v.X, v.Y, v.Z, 0⟩ := by
  ext <;> simp [vector3Rotate, quaternionMultiply, Quaternion.one]

/-- The last component of the rotated vector is not read. -/
theorem vector3Rotate_W (v : Vector4f K) (w : K) (q : Quaternion K) :
    vector3Rotate ⟨v.X, v.Y, v.Z, w⟩ q = vector3Rotate v q := rfl

theorem W_vector3Rotate (v : Vector4f K) (q : Quaternion K) : (vector3Rotate v q).W = 0 := by
  simp [vector3Rotate, quaternionMultiply]
  ring

theorem vector3Rotate_add (v w : Vector4f K) (q : Quaternion K) :
    vector3Rotate (v + w) q = vector3Rotate v q + vector3Rotate w q := by
  ext <;> simp [vector3Rotate, quaternionMultiply] <;> ring

theorem vector3Rotate_neg (v : Vector4f K) (q : Quaternion K) :
    vector3Rotate (-v) q = -vector3Rotate v q := by
  ext <;> simp [vector3Rotate, quaternionMultiply] <;> ring

theorem quaternionInverse_mul {q : Quaternion K} (hq : q.IsUnit) :
    quaternionMultiply (quaternionInverse q) q = Quaternion.one := by
  unfold Quaternion.IsUnit at hq
  ext <;> simp [quaternionMultiply, quaternionInverse, Quaternion.one, hq]
  · ring
  · ring
  · ring
  · linear_combination hq

theorem mul_quaternionInverse {q : Quaternion K} (hq : q.IsUnit) :
    quaternionMultiply q (quaternionInverse q) = Quaternion.one := by
  unfold Quaternion.IsUnit at hq
  ext <;> simp [quaternionMultiply, quaternionInverse, Quaternion.one, hq]
  · ring
  · ring
  · ring
  · linear_combination hq

end Rotate

namespace Transform

variable {K : Type} [Field K] {dx : DirectXMath K}

/-- For unit rotations and a uniform scale of `b`, the product of transforms and the product of
matrices place a child alike. -/
theorem asMatrix_mul (hdx : dx.Computes) (a b : Transform K) (ha : a.Rotation.IsUnit)
    (hb : b.Rotation.IsUnit) (hY : b.Scale.Y = b.Scale.X) (hZ : b.Scale.Z = b.Scale.X) :
    (mul dx a b).asMatrix dx = a.asMatrix dx * b.asMatrix dx := by
  have hRa := rotationQuaternion_isRotation ha
  have hRb := rotationQuaternion_isRotation hb
  have hmul : rotationQuaternion (mul dx a b).Rotation =
      rotationQuaternion a.Rotation * rotationQuaternion b.Rotation := by
    rw [mul_Rotation, hdx.quaternionMultiply, rotationQuaternion_mul ha hb]
  have hposition : (mul dx a b).Position =
      vector3Rotate (a.Position * b.Scale) b.Rotation + b.Position := by
    rw [← hdx.vector3Rotate]
    rfl
  unfold asMatrix
  simp only [hdx.matrixAffineTransformation, hdx.matrixRotationQuaternion, hmul, hposition,
    vector3Rotate_eq _ hb, mul_Scale, Vector4f.mul_X, Vector4f.mul_Y, Vector4f.mul_Z,
    Vector4f.add_X, Vector4f.add_Y, Vector4f.add_Z, hY, hZ]
  exact (RigidMatrix.affine_mul hRa hRb _ _ _ _ _ _ _ _ _ _).symm

/-- A third of a turn about the diagonal. -/
def thirdTurn : Quaternion ℚ := ⟨1 / 2, 1 / 2, 1 / 2, 1 / 2⟩

theorem thirdTurn_isUnit : thirdTurn.IsUnit := by
  unfold Quaternion.IsUnit thirdTurn
  norm_num

theorem asMatrix_mul_thirdTurn :
    let a : Transform ℚ := ⟨⟨1, 2, 3, 0⟩, thirdTurn, ⟨1, 2, 3, 0⟩⟩
    let b : Transform ℚ := ⟨⟨4, 5, 6, 0⟩, thirdTurn, ⟨2, 2, 2, 0⟩⟩
    (mul (exact ℚ) a b).asMatrix (exact ℚ) = a.asMatrix (exact ℚ) * b.asMatrix (exact ℚ) :=
  asMatrix_mul exact_computes _ _ thirdTurn_isUnit thirdTurn_isUnit rfl rfl

/-- Equal transforms, a rotation being the same as the negated quaternion. -/
def SameMap (a b : Transform K) : Prop :=
  a.Position = b.Position ∧ a.Scale = b.Scale ∧
    (a.Rotation = b.Rotation ∨
      a.Rotation = ⟨-b.Rotation.X, -b.Rotation.Y, -b.Rotation.Z, -b.Rotation.W⟩)

/-- The position can be divided by the scale before or after it is rotated back. -/
def ScaleCommutes (dx : DirectXMath K) (t : Transform K) : Prop :=
  let InverseRot := t.Rotation.inverse dx
  let InverseScale : Vector4f K := ⟨1 / t.Scale.X, 1 / t.Scale.Y, 1 / t.Scale.Z, 0⟩
  dx.XMVector3Rotate (t.Position * InverseScale) InverseRot =
    dx.XMVector3Rotate t.Position InverseRot * InverseScale

section Inverse

variable {t : Transform K}

theorem inverse_mul_Scale (hX : t.Scale.X ≠ 0) (hY : t.Scale.Y ≠ 0) (hZ : t.Scale.Z ≠ 0) :
    (t.inverse dx).Scale * t.Scale = Identity.Scale ∧
      t.Scale * (t.inverse dx).Scale = Identity.Scale := by
  constructor
  · ext <;> simp [inverse, Identity, hX, hY, hZ]
  · ext <;> simp [inverse, Identity, hX, hY, hZ]

theorem inverse_Rotation (hdx : dx.Computes) (ht : t.Rotation.IsUnit) :
    (t.inverse dx).Rotation = quaternionInverse t.Rotation := hdx.quaternionInverse _ ht

/-- The scale of the transform takes the one of the inverse away, except for the last component,
which a rotated vector does not have. -/
theorem inverse_Position_mul_Scale (hdx : dx.Computes) (ht : t.Rotation.IsUnit)
    (hX : t.Scale.X ≠ 0) (hY : t.Scale.Y ≠ 0) (hZ : t.Scale.Z ≠ 0) :
    (t.inverse dx).Position * t.Scale =
      vector3Rotate (-t.Position) (quaternionInverse t.Rotation) := by
  have hW := W_vector3Rotate (-t.Position) (quaternionInverse t.Rotation)
  have hinv : t.Rotation.inverse dx = quaternionInverse t.Rotation := hdx.quaternionInverse _ ht
  unfold inverse
  simp only [hinv, hdx.vector3Rotate]
  ext
  · simp [hX]
  · simp [hY]
  · simp [hZ]
  · simp [hW]

theorem inverse_mul (hdx : dx.Computes) (ht : t.Rotation.IsUnit) (hX : t.Scale.X ≠ 0)
    (hY : t.Scale.Y ≠ 0) (hZ : t.Scale.Z ≠ 0) (hW : t.Position.W = 0) :
    mul dx (t.inverse dx) t = Identity := by
  have hposition : (mul dx (t.inverse dx) t).Position = Identity.Position := by
    show dx.XMVector3Rotate ((t.inverse dx).Position * t.Scale) t.Rotation + t.Position = _
    rw [inverse_Position_mul_Scale hdx ht hX hY hZ, hdx.vector3Rotate, vector3Rotate_mul,
      quaternionInverse_mul ht, vector3Rotate_one]
    ext <;> simp [Identity, hW]
  have hrotation : (mul dx (t.inverse dx) t).Rotation = Identity.Rotation := by
    rw [mul_Rotation, hdx.quaternionMultiply, inverse_Rotation hdx ht, quaternionInverse_mul ht]
    rfl
  exact Transform.ext hposition hrotation (inverse_mul_Scale hX hY hZ).1

/-- What is left of the position when the inverse is on the right. -/
theorem mul_inverse_Position (hdx : dx.Computes) :
    (mul dx t (t.inverse dx)).Position = Identity.Position ↔ t.ScaleCommutes dx := by
  have hneg : dx.XMVector3Rotate (-t.Position) (t.Rotation.inverse dx) =
      -dx.XMVector3Rotate t.Position (t.Rotation.inverse dx) := by
    rw [hdx.vector3Rotate, hdx.vector3Rotate, vector3Rotate_neg]
  have hzero : ∀ v w : Vector4f K, v + -w = Identity.Position ↔ v = w := by
    intro v w
    simp only [Vector4f.ext_iff, Identity, Vector4f.add_X, Vector4f.add_Y, Vector4f.add_Z,
      Vector4f.add_W, Vector4f.neg_X, Vector4f.neg_Y, Vector4f.neg_Z, Vector4f.neg_W,
      add_neg_eq_zero]
  have hmove : ∀ v w : Vector4f K, -v * w = -(v * w) := by
    intro v w
    ext <;> simp
  have hposition : (mul dx t (t.inverse dx)).Position =
      dx.XMVector3Rotate (t.Position * (t.inverse dx).Scale) (t.Rotation.inverse dx) +
        -(dx.XMVector3Rotate t.Position (t.Rotation.inverse dx) * (t.inverse dx).Scale) := by
    rw [← hmove, ← hneg]
    rfl
  rw [hposition]
  exact hzero _ _

/-- The inverse undoes a transform from the left; from the right exactly where the position can be
scaled before or after the rotation. -/
theorem inverse_two_sided_iff (hdx : dx.Computes) (t : Transform K) (ht : t.Rotation.IsUnit)
    (hX : t.Scale.X ≠ 0) (hY : t.Scale.Y ≠ 0) (hZ : t.Scale.Z ≠ 0) (hW : t.Position.W = 0) :
    mul dx (t.inverse dx) t = Identity ∧
      (mul dx t (t.inverse dx)).Rotation = Identity.Rotation ∧
      (mul dx t (t.inverse dx)).Scale = Identity.Scale ∧
      (SameMap (mul dx t (t.inverse dx)) Identity ↔ t.ScaleCommutes dx) := by
  have hrotation : (mul dx t (t.inverse dx)).Rotation = Identity.Rotation := by
    rw [mul_Rotation, hdx.quaternionMultiply, inverse_Rotation hdx ht, mul_quaternionInverse ht]
    rfl
  have hscale : (mul dx t (t.inverse dx)).Scale = Identity.Scale := (inverse_mul_Scale hX hY hZ).2
  refine ⟨inverse_mul hdx ht hX hY hZ hW, hrotation, hscale, ?_⟩
  rw [← mul_inverse_Position hdx]
  constructor
  · intro h
    exact h.1
  · intro h
    exact ⟨h, hscale, Or.inl hrotation⟩

theorem inverse_two_sided_iff_thirdTurn :
    let t : Transform ℚ := ⟨⟨1, 0, 0, 0⟩, thirdTurn, ⟨2, 1, 1, 0⟩⟩
    mul (exact ℚ) (t.inverse (exact ℚ)) t = Identity ∧
      (mul (exact ℚ) t (t.inverse (exact ℚ))).Rotation = Identity.Rotation ∧
      (mul (exact ℚ) t (t.inverse (exact ℚ))).Scale = Identity.Scale ∧
      (SameMap (mul (exact ℚ) t (t.inverse (exact ℚ))) Identity ↔ t.ScaleCommutes (exact ℚ)) :=
  inverse_two_sided_iff exact_computes _ thirdTurn_isUnit (by norm_num) (by norm_num)
    (by norm_num) rfl

/-- The first axis is halved where the rotation has moved it to. -/
theorem thirdTurn_inverse_not_right :
    let t : Transform ℚ := ⟨⟨1, 0, 0, 0⟩, thirdTurn, ⟨2, 1, 1, 0⟩⟩
    t.Rotation.IsUnit ∧ t.Scale.X ≠ 0 ∧ t.Scale.Y ≠ 0 ∧ t.Scale.Z ≠ 0 ∧ t.Position.W = 0 ∧
      ¬ SameMap (mul (exact ℚ) t (t.inverse (exact ℚ))) Identity := by
  refine ⟨thirdTurn_isUnit, by norm_num, by norm_num, by norm_num, rfl, ?_⟩
  intro h
  have hZ := congrArg Vector4f.Z h.1
  revert hZ
  simp [mul, inverse, exact, Quaternion.inverse, vector3Rotate, quaternionMultiply,
    quaternionInverse, thirdTurn, Identity]
  norm_num

/-- Where the two orders differ, no transform at all is an inverse on both sides. -/
theorem scaleCommutes_of_inverse (hdx : dx.Computes) (t u : Transform K) (ht : t.Rotation.IsUnit)
    (hX : t.Scale.X ≠ 0) (hY : t.Scale.Y ≠ 0) (hZ : t.Scale.Z ≠ 0)
    (hleft : mul dx u t = Identity) (hright : mul dx t u = Identity) : t.ScaleCommutes dx := by
  set q := quaternionInverse t.Rotation
  have hback : ∀ v : Vector4f K,
      vector3Rotate (vector3Rotate v t.Rotation) q = ⟨v.X, v.Y, v.Z, 0⟩ := by
    intro v
    rw [vector3Rotate_mul, mul_quaternionInverse ht, vector3Rotate_one]
  -- the rotation of the inverse is the opposite one
  have hrotation : ∀ v : Vector4f K, vector3Rotate v u.Rotation = vector3Rotate v q := by
    intro v
    have hone : quaternionMultiply u.Rotation t.Rotation = Quaternion.one := by
      rw [← hdx.quaternionMultiply, ← mul_Rotation, hleft]
      rfl
    have h := hback (vector3Rotate v u.Rotation)
    rw [vector3Rotate_mul v, hone, vector3Rotate_one, vector3Rotate_W] at h
    rw [h]
    ext <;> simp [W_vector3Rotate]
  have hscale : u.Scale.X = 1 / t.Scale.X ∧ u.Scale.Y = 1 / t.Scale.Y ∧
      u.Scale.Z = 1 / t.Scale.Z := by
    have h : u.Scale * t.Scale = Identity.Scale := congrArg Scale hleft
    simp only [Vector4f.ext_iff, Vector4f.mul_X, Vector4f.mul_Y, Vector4f.mul_Z, Identity] at h
    exact ⟨eq_one_div_of_mul_eq_one_left h.1, eq_one_div_of_mul_eq_one_left h.2.1,
      eq_one_div_of_mul_eq_one_left h.2.2.1⟩
  -- its position, from the product on the right and from the product on the left
  have hposition : vector3Rotate (t.Position * u.Scale) q + u.Position = Identity.Position := by
    rw [← hrotation, ← hdx.vector3Rotate]
    exact congrArg Position hright
  have hposition' : vector3Rotate (u.Position * t.Scale) t.Rotation + t.Position =
      Identity.Position := by
    rw [← hdx.vector3Rotate]
    exact congrArg Position hleft
  have hmoved := congrArg (vector3Rotate · q) hposition'
  have hIdentity : vector3Rotate (Identity : Transform K).Position q = Identity.Position := by
    ext <;> simp [vector3Rotate, quaternionMultiply, Identity]
  simp only [vector3Rotate_add, hback, hIdentity] at hmoved
  have hscaled : t.Position * u.Scale =
      ⟨(t.Position * ⟨1 / t.Scale.X, 1 / t.Scale.Y, 1 / t.Scale.Z, 0⟩ : Vector4f K).X,
        (t.Position * ⟨1 / t.Scale.X, 1 / t.Scale.Y, 1 / t.Scale.Z, 0⟩ : Vector4f K).Y,
        (t.Position * ⟨1 / t.Scale.X, 1 / t.Scale.Y, 1 / t.Scale.Z, 0⟩ : Vector4f K).Z,
        t.Position.W * u.Scale.W⟩ := by
    ext <;> simp [hscale]
  rw [hscaled, vector3Rotate_W] at hposition
  have hinv : t.Rotation.inverse dx = q := hdx.quaternionInverse _ ht
  unfold ScaleCommutes
  simp only [hinv, hdx.vector3Rotate]
  simp only [Vector4f.ext_iff, Vector4f.add_X, Vector4f.add_Y, Vector4f.add_Z, Vector4f.mul_X,
    Vector4f.mul_Y, Vector4f.mul_Z, Identity] at hposition hmoved
  ext
  · simp only [Vector4f.mul_X]
    field_simp
    linear_combination t.Scale.X * hposition.1 - hmoved.1
  · simp only [Vector4f.mul_Y]
    field_simp
    linear_combination t.Scale.Y * hposition.2.1 - hmoved.2.1
  · simp only [Vector4f.mul_Z]
    field_simp
    linear_combination t.Scale.Z * hposition.2.2.1 - hmoved.2.2.1
  · simp [W_vector3Rotate]

end Inverse

end Transform

end FBXRenderer

import FBXRenderer.Engine.Vector
import FBXRenderer.Importer.Dedup

/-!
# FBXRenderer.Importer.Extract

`ExtractVertex` and `ExtractSkinnedVertexWithoutSkinData` (`SSFBXImporter.cpp`), and which element
of a layer they read. The layer rule is that of `fbxlayer.h`: the mapping mode says what the key
of a corner is, the reference mode whether the key or the index array's entry at the key addresses
the direct array.

The code picks the key only for direct normals. An index array is always read at the control
point, and tangents always are, so layers mapped `eByPolygonVertex` go wrong.

* `reads_rule_iff`: when both reads of a corner are those of the layer rule.
* `ReadsFirstUv`: `GetTextureUVIndex` answers from the UV layer on layer 0, as `fbxmesh.h` has it.
* `uv_filled_iff`: the UV loop ends in its first turn, so a second layer is lost unless it holds
  what the vertex starts with.
-/

namespace FBXRenderer

variable {K : Type}

structure FbxLayerElement (T : Type) where
  mappingMode : EMappingMode
  referenceMode : EReferenceMode
  directArray : Int → T
  indexArray : Int → Int

/-- What vertex extraction reads of a mesh besides its polygons. -/
structure FbxGeometry (K : Type) extends FbxMesh where
  controlPointAt : Nat → Vector4f K
  elementNormal : FbxLayerElement (Vector4f K)
  elementUV : List (FbxLayerElement (Vector2f K))
  elementTangent : Option (FbxLayerElement (Vector4f K))
  textureUVIndex : Nat → Nat → Int

/-- Library code of the SDK: `FbxVector4::Normalize` and the value of a fresh `FbxVector2`. -/
structure FbxVectors (K : Type) where
  normalize : Vector4f K → Vector4f K
  vector2 : Vector2f K

/-- `GetPolygonVertexIndex(i)`: the number of corners of the polygons before `i`. -/
def FbxMesh.polygonVertexIndex (m : FbxMesh) (i : Nat) : Nat :=
  ((m.polygons.take i).map List.length).sum

abbrev VERTEX_UV_MAP_COUNT_MAX : Nat := 2
abbrev VERTEX_SKINNING_BONE_COUNT_MAX : Nat := 4
def SS_UINT32_MAX : Nat := 2 ^ 32 - 1

structure SSDefaultVertex (K : Type) where
  Pos : Vector4f K
  Normal : Vector4f K
  Tangent : Vector4f K
  Uv : Fin VERTEX_UV_MAP_COUNT_MAX → Vector2f K

structure SSSkinnedVertex (K : Type) extends SSDefaultVertex K where
  BoneIdx : Fin VERTEX_SKINNING_BONE_COUNT_MAX → Nat
  Weight : Fin VERTEX_SKINNING_BONE_COUNT_MAX → K

section Extract

variable (fbxMesh : FbxGeometry K) (polygonIdx positionInPolygon : Nat)

/-- The normal as it is read, before `Normalize`. -/
def normalVector : Vector4f K :=
  let outControlPointIdx := fbxMesh.controlPoint polygonIdx positionInPolygon
  let fbxNormal := fbxMesh.elementNormal
  let fbxNormalIdx :=
    if fbxNormal.mappingMode = .eByPolygonVertex then
      fbxMesh.polygonVertexIndex polygonIdx + positionInPolygon
    else fbxMesh.controlPoint polygonIdx positionInPolygon
  match fbxNormal.referenceMode with
  | .eDirect => fbxNormal.directArray fbxNormalIdx
  | .eIndex | .eIndexToDirect =>
    fbxNormal.directArray (fbxNormal.indexArray outControlPointIdx)

/-- The tangent as it is read; the mapping mode is not looked at. -/
def tanVector (fbxTangent : FbxLayerElement (Vector4f K)) : Vector4f K :=
  let outControlPointIdx := fbxMesh.controlPoint polygonIdx positionInPolygon
  match fbxTangent.referenceMode with
  | .eDirect => fbxTangent.directArray outControlPointIdx
  | .eIndex | .eIndexToDirect =>
    fbxTangent.directArray (fbxTangent.indexArray outControlPointIdx)

def uvVector (sdk : FbxVectors K) (fbxUV : FbxLayerElement (Vector2f K)) : Vector2f K :=
  let outControlPointIdx := fbxMesh.controlPoint polygonIdx positionInPolygon
  match fbxUV.mappingMode with
  | .eByControlPoint =>
    match fbxUV.referenceMode with
    | .eDirect => fbxUV.directArray outControlPointIdx
    | .eIndex | .eIndexToDirect => fbxUV.directArray (fbxUV.indexArray outControlPointIdx)
  | .eByPolygonVertex => fbxUV.directArray (fbxMesh.textureUVIndex polygonIdx positionInPolygon)
  | _ => sdk.vector2

variable [Field K]

/-- The UV loop. Its body ends in a `break`, so only channel 0 is ever filled. With more than two
layers the assertion before the loop is not an error here: the next statement takes two of them, and
a build without assertions goes on there. -/
def extractUV (sdk : FbxVectors K) : Fin VERTEX_UV_MAP_COUNT_MAX → Vector2f K :=
  match fbxMesh.elementUV with
  | [] => fun _ => ⟨0, 0⟩
  | fbxUV :: _ =>
    let v := uvVector fbxMesh polygonIdx positionInPolygon sdk fbxUV
    fun i => if i = 0 then ⟨v.X, 1 - v.Y⟩ else ⟨0, 0⟩

def extractVertex (sdk : FbxVectors K) : SSDefaultVertex K :=
  let controlPointPosition :=
    fbxMesh.controlPointAt (fbxMesh.controlPoint polygonIdx positionInPolygon)
  { Pos := controlPointPosition.mirrorX.scale (CENTIMETER K)
    Normal := (sdk.normalize (normalVector fbxMesh polygonIdx positionInPolygon)).mirrorX
    Tangent :=
      match fbxMesh.elementTangent with
      | some fbxTangent =>
        (tanVector fbxMesh polygonIdx positionInPolygon fbxTangent).mirrorX
      | none => Vector4f.Zero
    Uv := extractUV fbxMesh polygonIdx positionInPolygon sdk }

/-- The same extraction, with no bone in any slot. -/
def extractSkinnedVertexWithoutSkinData (sdk : FbxVectors K) : SSSkinnedVertex K :=
  { extractVertex fbxMesh polygonIdx positionInPolygon sdk with
    BoneIdx := fun _ => SS_UINT32_MAX
    Weight := fun _ => 0 }

end Extract

namespace FbxLayerElement

variable {T : Type} (e : FbxLayerElement T)

/-- The element of a key under the reference mode. -/
def atKey (key : Nat) : T :=
  match e.referenceMode with
  | .eDirect => e.directArray key
  | .eIndex | .eIndexToDirect => e.directArray (e.indexArray key)

/-- Where in the direct array the element of a key is. -/
def directIndex (key : Nat) : Int :=
  match e.referenceMode with
  | .eDirect => key
  | .eIndex | .eIndexToDirect => e.indexArray key

theorem directArray_directIndex (key : Nat) : e.directArray (e.directIndex key) = e.atKey key := by
  unfold directIndex atKey
  cases e.referenceMode <;> rfl

/-- The key of a corner under the mapping mode, for the two modes that have one per corner. -/
def key (mesh : FbxMesh) (i j : Nat) : Nat :=
  if e.mappingMode = .eByPolygonVertex then mesh.polygonVertexIndex i + j
  else mesh.controlPoint i j

/-- The element that the layer rule assigns to a corner. -/
def rule (mesh : FbxMesh) (i j : Nat) : T := e.atKey (e.key mesh i j)

/-- The layer holds the same element at the control point and at the polygon vertex. -/
def KeysAgree (mesh : FbxMesh) (i j : Nat) : Prop :=
  e.atKey (mesh.controlPoint i j) = e.atKey (mesh.polygonVertexIndex i + j)

theorem rule_eq_atKey_controlPoint (mesh : FbxMesh) (i j : Nat)
    (hmode : e.mappingMode = .eByControlPoint ∨ e.mappingMode = .eByPolygonVertex) :
    e.atKey (mesh.controlPoint i j) = e.rule mesh i j ↔
      e.mappingMode = .eByControlPoint ∨ e.KeysAgree mesh i j := by
  unfold rule key KeysAgree
  rcases hmode with hmode | hmode
  · simp [hmode]
  · simp [hmode]

end FbxLayerElement

section Reads

variable (fbxMesh : FbxGeometry K) (i j : Nat)

theorem tanVector_eq (e : FbxLayerElement (Vector4f K)) :
    tanVector fbxMesh i j e = e.atKey (fbxMesh.controlPoint i j) := rfl

theorem normalVector_direct (h : fbxMesh.elementNormal.referenceMode = .eDirect) :
    normalVector fbxMesh i j = fbxMesh.elementNormal.rule fbxMesh.toFbxMesh i j := by
  unfold normalVector FbxLayerElement.rule FbxLayerElement.atKey FbxLayerElement.key
  by_cases hmode : fbxMesh.elementNormal.mappingMode = .eByPolygonVertex
  · simp only [h, if_pos hmode]
  · simp only [h, if_neg hmode]

theorem normalVector_indexed (h : fbxMesh.elementNormal.referenceMode ≠ .eDirect) :
    normalVector fbxMesh i j = fbxMesh.elementNormal.atKey (fbxMesh.controlPoint i j) := by
  unfold normalVector FbxLayerElement.atKey
  cases hr : fbxMesh.elementNormal.referenceMode with
  | eDirect => exact absurd hr h
  | eIndex => simp only [hr]
  | eIndexToDirect => simp only [hr]

/-- The reads of corner `(i, j)`, which both extraction functions make, are those of the rule. -/
def ReadsRule : Prop :=
  normalVector fbxMesh i j = fbxMesh.elementNormal.rule fbxMesh.toFbxMesh i j ∧
    ∀ e, fbxMesh.elementTangent = some e → tanVector fbxMesh i j e = e.rule fbxMesh.toFbxMesh i j

/-- Both reads follow the rule exactly when the layers are mapped by control point, or hold the
same element under both keys, or, for normals, are direct. -/
theorem reads_rule_iff
    (hn : fbxMesh.elementNormal.mappingMode = .eByControlPoint ∨
      fbxMesh.elementNormal.mappingMode = .eByPolygonVertex)
    (ht : ∀ e, fbxMesh.elementTangent = some e →
      e.mappingMode = .eByControlPoint ∨ e.mappingMode = .eByPolygonVertex) :
    ReadsRule fbxMesh i j ↔
      (fbxMesh.elementNormal.mappingMode = .eByControlPoint ∨
        fbxMesh.elementNormal.referenceMode = .eDirect ∨
        fbxMesh.elementNormal.KeysAgree fbxMesh.toFbxMesh i j) ∧
      ∀ e, fbxMesh.elementTangent = some e →
        e.mappingMode = .eByControlPoint ∨ e.KeysAgree fbxMesh.toFbxMesh i j := by
  have hnormal : normalVector fbxMesh i j =
      fbxMesh.elementNormal.rule fbxMesh.toFbxMesh i j ↔
      fbxMesh.elementNormal.mappingMode = .eByControlPoint ∨
        fbxMesh.elementNormal.referenceMode = .eDirect ∨
        fbxMesh.elementNormal.KeysAgree fbxMesh.toFbxMesh i j := by
    by_cases href : fbxMesh.elementNormal.referenceMode = .eDirect
    · have heq := normalVector_direct fbxMesh i j href
      exact ⟨fun _ => Or.inr (Or.inl href), fun _ => heq⟩
    · have hrule := fbxMesh.elementNormal.rule_eq_atKey_controlPoint fbxMesh.toFbxMesh i j hn
      rw [normalVector_indexed fbxMesh i j href, hrule]
      simp [href]
  unfold ReadsRule
  rw [hnormal]
  refine and_congr_right fun _ => forall_congr' fun e => imp_congr_right fun he => ?_
  rw [tanVector_eq]
  exact e.rule_eq_atKey_controlPoint fbxMesh.toFbxMesh i j (ht e he)

end Reads

/-- The control points of one triangle in reverse order, and a normal layer that stores a normal
for every polygon vertex through an identity index array. -/
def reversedTriangle : FbxGeometry ℚ where
  controlPointsCount := 3
  polygons := [[2, 1, 0]]
  elementMaterial := none
  nodeMaterialCount := 1
  corner_lt := by decide
  polygonVertexCount_lt := FbxMesh.three_lt
  controlPointsCount_lt := FbxMesh.three_lt
  controlPointAt := fun n => ⟨n, 0, 0, 1⟩
  elementNormal := ⟨.eByPolygonVertex, .eIndexToDirect, fun n => ⟨n, 0, 0, 0⟩, fun n => n⟩
  elementUV := []
  elementTangent := none
  textureUVIndex := fun _ _ => 0

theorem indexed_normal_misread :
    normalVector reversedTriangle 0 0 = ⟨2, 0, 0, 0⟩ ∧
    reversedTriangle.elementNormal.rule reversedTriangle.toFbxMesh 0 0 = ⟨0, 0, 0, 0⟩ ∧
    ¬ ReadsRule reversedTriangle 0 0 := by
  have hread : normalVector reversedTriangle 0 0 = ⟨2, 0, 0, 0⟩ := rfl
  have hrule : reversedTriangle.elementNormal.rule reversedTriangle.toFbxMesh 0 0 =
      ⟨0, 0, 0, 0⟩ := rfl
  refine ⟨hread, hrule, fun h => ?_⟩
  have hx := congrArg Vector4f.X (hread.symm.trans (h.1.trans hrule))
  exact absurd hx (by decide)

theorem reads_rule_iff_reversed :
    ReadsRule reversedTriangle 0 1 ↔
      (reversedTriangle.elementNormal.mappingMode = .eByControlPoint ∨
        reversedTriangle.elementNormal.referenceMode = .eDirect ∨
        reversedTriangle.elementNormal.KeysAgree reversedTriangle.toFbxMesh 0 1) ∧
      ∀ e, reversedTriangle.elementTangent = some e →
        e.mappingMode = .eByControlPoint ∨ e.KeysAgree reversedTriangle.toFbxMesh 0 1 :=
  reads_rule_iff reversedTriangle 0 1 (Or.inr rfl) (fun _ he => by cases he)

section Uv

variable (fbxMesh : FbxGeometry K) (i j : Nat)

/-- The mapping modes that the UV switch has a case for. -/
def FbxLayerElement.UvHandled {T : Type} (e : FbxLayerElement T) : Prop :=
  e.mappingMode = .eByControlPoint ∨ e.mappingMode = .eByPolygonVertex

/-- `GetTextureUVIndex` works where the first UV layer is mapped by polygon vertex. It answers where
that layer has the UV of the polygon vertex. -/
def ReadsFirstUv : Prop :=
  ∀ e, fbxMesh.elementUV[0]? = some e → e.mappingMode = .eByPolygonVertex →
    fbxMesh.textureUVIndex i j = e.directIndex (fbxMesh.polygonVertexIndex i + j)

/-- Of the first layer the code reads what the layer rule assigns to the corner. -/
theorem uvVector_eq (sdk : FbxVectors K) {e : FbxLayerElement (Vector2f K)}
    (hsdk : ReadsFirstUv fbxMesh i j) (he : fbxMesh.elementUV[0]? = some e) (h : e.UvHandled) :
    uvVector fbxMesh i j sdk e = e.rule fbxMesh.toFbxMesh i j := by
  unfold FbxLayerElement.rule FbxLayerElement.key
  cases h with
  | inl hmode =>
    rw [if_neg (by rw [hmode]; decide)]
    unfold uvVector FbxLayerElement.atKey
    simp only [hmode]
  | inr hmode =>
    rw [if_pos hmode, ← e.directArray_directIndex, ← hsdk e he hmode]
    unfold uvVector
    simp only [hmode]

variable [Field K]

/-- Every channel that has a layer holds the UV that the layer itself has for the corner, with V
flipped. -/
def UvFilled (v : SSDefaultVertex K) : Prop :=
  ∀ (c : Fin VERTEX_UV_MAP_COUNT_MAX) (e : FbxLayerElement (Vector2f K)),
    fbxMesh.elementUV[c.val]? = some e →
    v.Uv c = ⟨(e.rule fbxMesh.toFbxMesh i j).X, 1 - (e.rule fbxMesh.toFbxMesh i j).Y⟩

theorem extractUV_zero (sdk : FbxVectors K) {e : FbxLayerElement (Vector2f K)}
    (hsdk : ReadsFirstUv fbxMesh i j) (he : fbxMesh.elementUV[0]? = some e) (h : e.UvHandled) : extractUV fbxMesh i j sdk 0 =
      ⟨(e.rule fbxMesh.toFbxMesh i j).X, 1 - (e.rule fbxMesh.toFbxMesh i j).Y⟩ := by
  unfold extractUV
  cases hlayers : fbxMesh.elementUV with
  | nil =>
    rw [hlayers] at he
    cases he
  | cons fbxUV rest =>
    rw [hlayers] at he
    cases he
    rw [← uvVector_eq fbxMesh i j sdk hsdk (by rw [hlayers]; rfl) h]
    rfl

/-- Channel 1 keeps what the vertex was constructed with. -/
theorem extractUV_one (sdk : FbxVectors K) : extractUV fbxMesh i j sdk 1 = ⟨0, 0⟩ := by
  unfold extractUV
  cases fbxMesh.elementUV with
  | nil => rfl
  | cons fbxUV rest => rfl

theorem uvFilled_iff (sdk : FbxVectors K) {v : SSDefaultVertex K}
    (hv : v.Uv = extractUV fbxMesh i j sdk) (hsdk : ReadsFirstUv fbxMesh i j)
    (h : ∀ e, fbxMesh.elementUV[0]? = some e → e.UvHandled) :
    UvFilled fbxMesh i j v ↔
      ∀ e, fbxMesh.elementUV[1]? = some e → e.rule fbxMesh.toFbxMesh i j = ⟨0, 1⟩ := by
  have hone : ∀ u : Vector2f K, (⟨0, 0⟩ : Vector2f K) = ⟨u.X, 1 - u.Y⟩ ↔ u = ⟨0, 1⟩ := by
    intro u
    rw [Vector2f.mk.injEq, Vector2f.ext_iff, eq_comm (a := (0 : K)), eq_comm (a := (0 : K)),
      sub_eq_zero, eq_comm (a := (1 : K))]
  unfold UvFilled
  rw [hv, Fin.forall_fin_two, extractUV_one]
  constructor
  · rintro ⟨_, hsecond⟩ e he
    exact (hone _).mp (hsecond e he)
  · intro hsecond
    refine ⟨fun e he => extractUV_zero fbxMesh i j sdk hsdk he (h e he), fun e he => ?_⟩
    exact (hone _).mpr (hsecond e he)

/-- Both extraction functions fill the channels of all layers exactly when there is no second layer,
or its UV is the one that a channel starts with. -/
theorem uv_filled_iff (sdk : FbxVectors K) (hsdk : ReadsFirstUv fbxMesh i j)
    (h : ∀ c < VERTEX_UV_MAP_COUNT_MAX, ∀ e, fbxMesh.elementUV[c]? = some e → e.UvHandled) :
    (UvFilled fbxMesh i j (extractVertex fbxMesh i j sdk) ∧ UvFilled fbxMesh i j
        (extractSkinnedVertexWithoutSkinData fbxMesh i j sdk).toSSDefaultVertex) ↔
      ∀ e, fbxMesh.elementUV[1]? = some e → e.rule fbxMesh.toFbxMesh i j = ⟨0, 1⟩ := by
  have hfirst := h 0 (by decide)
  have hdefault := uvFilled_iff fbxMesh i j sdk (v := extractVertex fbxMesh i j sdk) rfl hsdk hfirst
  have hskinned := uvFilled_iff fbxMesh i j sdk
    (v := (extractSkinnedVertexWithoutSkinData fbxMesh i j sdk).toSSDefaultVertex) rfl hsdk hfirst
  rw [hdefault, hskinned, and_self]

end Uv

/-- The triangle with the given UV layers, the first of them with its UVs in reverse. -/
def uvTriangle (elementUV : List (FbxLayerElement (Vector2f ℚ))) : FbxGeometry ℚ :=
  { reversedTriangle with elementUV := elementUV, textureUVIndex := fun _ j => 2 - j }

/-- A layer by polygon vertex, through an index array that goes backwards. -/
def backwardUv : FbxLayerElement (Vector2f ℚ) :=
  ⟨.eByPolygonVertex, .eIndexToDirect, fun n => ⟨n, 3⟩, fun n => 2 - n⟩

/-- A layer by polygon vertex with the same UVs, read directly. -/
def forwardUv : FbxLayerElement (Vector2f ℚ) :=
  ⟨.eByPolygonVertex, .eDirect, fun n => ⟨n, 1⟩, fun n => n⟩

theorem backwardUv_read (second : List (FbxLayerElement (Vector2f ℚ))) (j : Nat) :
    ReadsFirstUv (uvTriangle (backwardUv :: second)) 0 j := by
  intro e he _
  cases he
  show (2 : Int) - j = 2 - ((0 + j : Nat) : Int)
  rw [Nat.zero_add]

/-- At the second corner the second layer has the UV (1, 1). -/
theorem second_uv_layer_lost :
    ¬ UvFilled (uvTriangle [backwardUv, forwardUv]) 0 1
      (extractVertex (uvTriangle [backwardUv, forwardUv]) 0 1 ⟨id, ⟨0, 0⟩⟩) := by
  rw [uvFilled_iff _ 0 1 ⟨id, ⟨0, 0⟩⟩ rfl (backwardUv_read [forwardUv] 1)
    fun e he => by cases he; exact Or.inr rfl]
  intro hsecond
  have huv := hsecond forwardUv rfl
  exact absurd (congrArg Vector2f.X huv) (by decide)

/-- At the first corner it has (0, 1), which flipped is what the vertex starts with. -/
theorem uv_filled_iff_one_layer :
    (UvFilled (uvTriangle [backwardUv, forwardUv]) 0 0
        (extractVertex (uvTriangle [backwardUv, forwardUv]) 0 0 ⟨id, ⟨0, 0⟩⟩) ∧
      UvFilled (uvTriangle [backwardUv, forwardUv]) 0 0 (extractSkinnedVertexWithoutSkinData
        (uvTriangle [backwardUv, forwardUv]) 0 0 ⟨id, ⟨0, 0⟩⟩).toSSDefaultVertex) ↔
      ∀ e, (uvTriangle [backwardUv, forwardUv]).elementUV[1]? = some e →
        e.rule (uvTriangle [backwardUv, forwardUv]).toFbxMesh 0 0 = ⟨0, 1⟩ :=
  uv_filled_iff (uvTriangle [backwardUv, forwardUv]) 0 0 ⟨id, ⟨0, 0⟩⟩
    (backwardUv_read [forwardUv] 0) fun c _ e he => by
      have hmem := List.mem_of_getElem? he
      simp only [uvTriangle, List.mem_cons, List.not_mem_nil, or_false] at hmem
      obtain rfl | rfl := hmem
      · exact Or.inr rfl
      · exact Or.inr rfl

end FBXRenderer

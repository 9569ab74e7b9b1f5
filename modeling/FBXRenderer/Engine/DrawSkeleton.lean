import Mathlib
import FBXRenderer.Asset.JointWrites
import FBXRenderer.Asset.KeyPose
import FBXRenderer.Engine.DrawScene

/-!
# FBXRenderer.Engine.DrawSkeleton

`DrawAnimatedSkeletonRecursion` and the part of `PerFrame` that calls it: the direction mesh is
drawn once for every bone, at the pose of a stored frame. `PerFrame` takes 88 bones and 55 frames
for granted.

* `recursion_eq_visits`: the draws are those of the bones that the descent meets.
* `overlay_reads_iff`: when the stored frames are not left, at any time.
* `overlay_draws_key_poses`: with 88 bones the drawn pose is the one of the stored frame.
-/

namespace FBXRenderer

open SS PreorderList CommandStream ID3D11DeviceContext

section Definitions

variable {K : Type} [Field K] (dx : DirectXMath K) (assets : DrawnAssets K)

namespace SSRenderer

/-- What `DrawAnimatedSkeletonRecursion` does for one bone with `currentTransform`. -/
def drawBone (directionMeshCache : Option Nat) (currentTransform : Transform K) :
    Option (List (Command K)) := do
  let model ← directionMeshCache
  let modelAsset ← assets.models[model]?
  let bound ← bindModel assets model modelAsset 0
  let material ← materialOf assets modelAsset 0
  let param ← updateGlobalRenderParam material assets._globalParamContext
  let transform ← updateTransform dx material (currentTransform.asMatrix dx)
    (currentTransform.Rotation.asMatrix dx)
  return bound ++ [param, transform,
    .DrawIndexed (modelAsset._geometry.indexDataNum 0) (modelAsset._geometry.indexDataStartIndex 0)]

/-- The recursion is given as many levels as there are bones. -/
def drawAnimatedSkeletonRecursion (directionMeshCache : Option Nat)
    (boneList : PooledList (BoneNode K)) (animTransform : Nat → Option (Transform K)) :
    Nat → Nat → Transform K → Option (List (Command K))
  | 0, _, _ => none
  | fuel + 1, boneIdx, transform => do
    let this ← animTransform boneIdx
    let currentTransform := this.mul dx transform
    let own ← drawBone dx assets directionMeshCache currentTransform
    let bone ← boneList.get boneIdx
    let below ← bone._childs.data.mapM fun childIdx =>
      drawAnimatedSkeletonRecursion directionMeshCache boneList animTransform fuel childIdx
        currentTransform
    return own ++ below.flatten

variable [LinearOrder K] [FloorRing K]

/-- `(uint32)(elapsedTime * 24) % 55`. -/
def overlayFrame (elapsedTime : K) : Nat := toUint32 (trunc (elapsedTime * (24 : Nat))) % 55

/-- `GetAnimStack().GetData() + 88 * frame`, read at a bone's index. -/
def overlayTransform (anim : SSSkeletonAnimAsset K) (frame boneIdx : Nat) : Option (Transform K) :=
  anim._animStack.data[88 * frame + boneIdx]?

/-- The call in `PerFrame`; without a skeleton nothing is drawn. -/
def drawSkeleton (directionMeshCache : Option Nat) (skeletonAssetCache : Option (SSSkeletonAsset K))
    (skeletonAnimCache : Option (SSSkeletonAnimAsset K)) (elapsedTime : K) :
    Option (List (Command K)) :=
  match skeletonAssetCache with
  | none => some []
  | some skeleton => do
    let anim ← skeletonAnimCache
    drawAnimatedSkeletonRecursion dx assets directionMeshCache skeleton._boneList
      (overlayTransform anim (overlayFrame elapsedTime)) skeleton._boneList.getSize 0
      Transform.Identity

end SSRenderer

end Definitions

section Recursion

variable {K : Type} [Field K] {dx : DirectXMath K} {assets : DrawnAssets K}

/-- The transform that the recursion makes for a bone. -/
def overlayStep (dx : DirectXMath K) (animTransform : Nat → Option (Transform K)) (boneIdx : Nat)
    (transform : Transform K) : Option (Transform K) :=
  (animTransform boneIdx).map fun this => this.mul dx transform

theorem recursion_eq_visits (directionMeshCache : Option Nat) (boneList : PooledList (BoneNode K))
    (animTransform : Nat → Option (Transform K)) : ∀ (fuel boneIdx : Nat) (transform : Transform K),
    SSRenderer.drawAnimatedSkeletonRecursion dx assets directionMeshCache boneList animTransform
        fuel boneIdx transform =
      (IndexTree.visits (fun idx => (boneList.get idx).map (·._childs.data))
          (overlayStep dx animTransform) fuel transform boneIdx).bind
        (emitAll fun v => SSRenderer.drawBone dx assets directionMeshCache v.2) := by
  intro fuel
  induction fuel with
  | zero => intro boneIdx transform; rfl
  | succ fuel ih =>
    intro boneIdx transform
    unfold SSRenderer.drawAnimatedSkeletonRecursion IndexTree.visits
    cases hanim : animTransform boneIdx with
    | none => simp only [overlayStep, hanim, Option.bind_eq_bind, Option.bind_none, Option.map_none]
    | some this =>
      have hstep : overlayStep dx animTransform boneIdx transform =
          some (this.mul dx transform) := by simp only [overlayStep, hanim, Option.map_some]
      simp only [hstep, Option.bind_eq_bind, Option.bind_some, ih]
      cases boneList.get boneIdx with
      | none =>
        cases SSRenderer.drawBone dx assets directionMeshCache (this.mul dx transform) <;> rfl
      | some bone =>
        have hparts : (bone._childs.data.mapM fun c =>
            (IndexTree.visits (fun idx => (boneList.get idx).map (·._childs.data))
              (overlayStep dx animTransform) fuel (this.mul dx transform) c).bind
              (emitAll fun v => SSRenderer.drawBone dx assets directionMeshCache v.2)).map
              List.flatten = _ := emitAll_parts bone._childs.data
        have hown : ∀ (own : List (Command K)) (below : Option (List (List (Command K)))),
            (below.bind fun below => some (own ++ below.flatten)) =
              (below.map List.flatten).map (own ++ ·) := by
          intro own below
          cases below <;> rfl
        simp only [Option.bind_some, Option.map_some, Option.pure_def, hown, hparts]
        cases bone._childs.data.mapM fun c =>
          IndexTree.visits (fun idx => (boneList.get idx).map (·._childs.data))
            (overlayStep dx animTransform) fuel (this.mul dx transform) c with
        | none => simp only [Option.bind_none, Option.map_none, Option.bind_fun_none]
        | some logs => simp only [Option.bind_some, emitAll_cons]

end Recursion

section Overlay

variable {K : Type} [Field K] {dx : DirectXMath K} {assets : DrawnAssets K}

/-- The transforms read for a bone and the bones above it, composed. -/
def overlayPose (dx : DirectXMath K) (bones : PooledList (BoneNode K))
    (animTransform : Nat → Option (Transform K)) : Nat → Transform K :=
  IndexTree.chain (BoneNode.parent bones)
    (fun i t => ((animTransform i).getD Transform.Identity).mul dx t) Transform.Identity

/-- The bones that are drawn, when there is a transform for every one of them. -/
theorem overlay_visits {root : FbxNode K} {bones : PooledList (BoneNode K)}
    (hlayout : boneEntries bones = layout 0 none (nodeTree root)) (htree : BoneNode.IsTree bones)
    {animTransform : Nat → Option (Transform K)}
    (hall : ∀ i, i < bones.getSize → (animTransform i).isSome) :
    IndexTree.visits (fun idx => (bones.get idx).map (·._childs.data))
        (overlayStep dx animTransform) bones.getSize Transform.Identity 0 =
      some ((List.range bones.getSize).map fun i => (i, overlayPose dx bones animTransform i)) := by
  have hstep : ∀ i, i < bones.getSize → ∀ t, overlayStep dx animTransform i t =
      some (((animTransform i).getD Transform.Identity).mul dx t) := by
    intro i hi t
    obtain ⟨this, hthis⟩ := Option.isSome_iff_exists.mp (hall i hi)
    simp only [overlayStep, hthis, Option.map_some, Option.getD_some]
  obtain ⟨log, hlog⟩ := jointBufferRecursive_filled hlayout
    (fun i hi t => ⟨_, hstep i hi t⟩) id
  have hchilds : ∀ i, i < bones.getSize →
      (bones.get i).map (·._childs.data) = some (BoneNode.childs bones i) := by
    intro i hi
    have hget : bones.data[i]? = some bones.data[i] := List.getElem?_eq_getElem hi
    rw [PooledList.get_eq, hget, BoneNode.childs_of_get hget]
    rfl
  have hroot : ((animTransform 0).getD Transform.Identity).mul dx Transform.Identity =
      overlayPose dx bones animTransform 0 :=
    (IndexTree.chain_root
      (fun i t => ((animTransform i).getD Transform.Identity).mul dx t) _).symm
  have hvalues := IndexTree.visits_values htree hchilds hstep Transform.Identity bones.getSize 0
    Transform.Identity log htree.nonempty hroot hlog.visits
  rw [hlog.visits, ← hlog.once, List.map_map]
  congr 1
  refine (List.map_id' log).symm.trans (List.map_congr_left fun v hv => ?_)
  exact Prod.ext rfl (hvalues v hv)

variable {directionMeshCache : Option Nat}

/-- With the direction mesh ready, drawing ends exactly when there is a transform for every bone. -/
theorem recursion_isSome_iff {root : FbxNode K} {bones : PooledList (BoneNode K)}
    (hlayout : boneEntries bones = layout 0 none (nodeTree root)) (htree : BoneNode.IsTree bones)
    (hready : ∀ t, (SSRenderer.drawBone dx assets directionMeshCache t).isSome)
    (animTransform : Nat → Option (Transform K)) :
    (SSRenderer.drawAnimatedSkeletonRecursion dx assets directionMeshCache bones animTransform
        bones.getSize 0 Transform.Identity).isSome ↔
      ∀ i, i < bones.getSize → (animTransform i).isSome := by
  rw [recursion_eq_visits]
  constructor
  · intro hsome i hi
    obtain ⟨cs, hcs⟩ := Option.isSome_iff_exists.mp hsome
    obtain ⟨log, hlog, -⟩ := Option.bind_eq_some_iff.mp hcs
    -- with a transform for every bone the same bones are met, and those are all
    let filled : Nat → Option (Transform K) := fun i =>
      some ((animTransform i).getD Transform.Identity)
    have hfilled : ∀ i t y, overlayStep dx animTransform i t = some y →
        overlayStep dx filled i t = some y := by
      intro i t y hy
      obtain ⟨this, hthis, rfl⟩ := Option.map_eq_some_iff.mp hy
      simp only [overlayStep, filled, hthis, Option.getD_some, Option.map_some]
    have hmono := IndexTree.visits_mono hfilled _ _ _ _ hlog
    rw [overlay_visits hlayout htree fun _ _ => rfl] at hmono
    have hmem : i ∈ log.map Prod.fst := by
      rw [← Option.some_inj.mp hmono, List.map_map]
      exact List.mem_map.mpr ⟨i, List.mem_range.mpr hi, rfl⟩
    obtain ⟨v, hv, rfl⟩ := List.mem_map.mp hmem
    obtain ⟨t, ht⟩ := IndexTree.visits_made _ _ _ _ hlog v hv
    obtain ⟨this, hthis, -⟩ := Option.map_eq_some_iff.mp ht
    rw [hthis]
    rfl
  · intro hall
    rw [overlay_visits hlayout htree hall, Option.bind_some]
    exact emitAll_isSome fun v _ => hready v.2

end Overlay

section Frames

variable {K : Type} [Field K] [LinearOrder K] [FloorRing K] {dx : DirectXMath K}
  {assets : DrawnAssets K} {directionMeshCache : Option Nat}

theorem overlayFrame_lt (elapsedTime : K) : SSRenderer.overlayFrame elapsedTime < 55 :=
  Nat.mod_lt _ (by omega)

/-- With 88 bones and a stored pose for every frame, what is drawn is the key pose of the frame. -/
theorem overlay_draws_key_poses {root : FbxNode K} (hsize : root.nodes.length ≤ 65535)
    (anim : SSSkeletonAnimAsset K)
    (himport : importBoneToSkeletonRecursion (PooledList.new (findFbxNodeWholeChildCnt root)) root
      65535 = some anim._skeleton._boneList)
    (hbones : anim.boneCnt = 88) (hfull : anim.StackFull) (hframes : 55 ≤ anim._frameCnt)
    (elapsedTime : K) :
    SSRenderer.drawSkeleton dx assets directionMeshCache (some anim._skeleton) (some anim)
        elapsedTime =
      emitAll (SSRenderer.drawBone dx assets directionMeshCache)
        ((List.range 88).map (anim.keyPose dx (SSRenderer.overlayFrame elapsedTime))) := by
  obtain ⟨hlayout, htree⟩ := importBoneToSkeletonRecursion_layout hsize himport
  have hframe := overlayFrame_lt elapsedTime
  have hread : ∀ i, i < 88 → 88 * SSRenderer.overlayFrame elapsedTime + i <
      anim._animStack.data.length := by
    intro i hi
    have hle : 88 * 55 ≤ anim.boneCnt * anim._frameCnt := by
      rw [hbones]
      exact Nat.mul_le_mul_left 88 hframes
    rw [hfull.length]
    omega
  have hsome : ∀ i, i < anim._skeleton._boneList.getSize →
      (SSRenderer.overlayTransform anim (SSRenderer.overlayFrame elapsedTime) i).isSome := by
    intro i hi
    have hlt := hread i (hbones ▸ hi)
    unfold SSRenderer.overlayTransform
    rw [List.getElem?_eq_getElem hlt]
    rfl
  have hpose : overlayPose dx anim._skeleton._boneList
      (SSRenderer.overlayTransform anim (SSRenderer.overlayFrame elapsedTime)) =
      anim.keyPose dx (SSRenderer.overlayFrame elapsedTime) := by
    unfold overlayPose SSSkeletonAnimAsset.keyPose SSSkeletonAnimAsset.stored
    rw [hbones]
    rfl
  unfold SSRenderer.drawSkeleton
  simp only [Option.bind_eq_bind, Option.bind_some]
  rw [recursion_eq_visits, overlay_visits hlayout htree hsome, Option.bind_some, hpose]
  have hcount : anim._skeleton._boneList.getSize = 88 := hbones
  rw [hcount, emitAll, emitAll, List.mapM_map, List.mapM_map]
  rfl

variable [IsStrictOrderedRing K]

/-- Every frame below 55 is shown at some time. -/
theorem overlayFrame_at {k : Nat} (hk : k < 55) :
    SSRenderer.overlayFrame ((k : K) / (24 : Nat)) = k := by
  have hpos : ((24 : Nat) : K) ≠ 0 := Nat.cast_ne_zero.mpr (by omega)
  unfold SSRenderer.overlayFrame
  rw [div_mul_cancel₀ _ hpos, trunc, if_pos (Nat.cast_nonneg k), Int.floor_natCast,
    toUint32_natCast (by omega), Nat.mod_eq_of_lt hk]

/-- The bones of an imported skeleton can be drawn at every time exactly when the stored frames
reach to the last bone of the frame 54 with 88 bones a frame: else some time reads behind them. -/
theorem overlay_reads_iff {root : FbxNode K} (hsize : root.nodes.length ≤ 65535)
    (skeleton : SSSkeletonAsset K)
    (himport : importBoneToSkeletonRecursion (PooledList.new (findFbxNodeWholeChildCnt root)) root
      65535 = some skeleton._boneList) (anim : SSSkeletonAnimAsset K)
    (hready : ∀ t, (SSRenderer.drawBone dx assets directionMeshCache t).isSome) :
    (∀ elapsedTime : K, 0 ≤ elapsedTime → (SSRenderer.drawSkeleton dx assets directionMeshCache
        (some skeleton) (some anim) elapsedTime).isSome) ↔
      88 * 54 + skeleton._boneList.getSize ≤ anim._animStack.getSize := by
  obtain ⟨hlayout, htree⟩ := importBoneToSkeletonRecursion_layout hsize himport
  have hdraw : ∀ elapsedTime : K, (SSRenderer.drawSkeleton dx assets directionMeshCache
      (some skeleton) (some anim) elapsedTime).isSome ↔
      ∀ i, i < skeleton._boneList.getSize →
        (SSRenderer.overlayTransform anim (SSRenderer.overlayFrame elapsedTime) i).isSome :=
    fun elapsedTime => recursion_isSome_iff hlayout htree hready _
  constructor
  · intro hall
    have hlast := (hdraw ((54 : Nat) / (24 : Nat))).mp (hall _ (by positivity))
      (skeleton._boneList.getSize - 1) (Nat.sub_lt htree.nonempty Nat.one_pos)
    rw [overlayFrame_at (by omega)] at hlast
    obtain ⟨t, ht⟩ := Option.isSome_iff_exists.mp hlast
    have hlt := (List.getElem?_eq_some_iff.mp ht).1
    have hpos := htree.nonempty
    unfold PooledList.getSize at hpos ⊢
    unfold PooledList.getSize at hlt
    omega
  · intro hle elapsedTime _
    refine (hdraw elapsedTime).mpr fun i hi => ?_
    have hframe := overlayFrame_lt elapsedTime
    unfold SSRenderer.overlayTransform
    rw [List.getElem?_eq_getElem (by unfold PooledList.getSize at hle hi; omega)]
    rfl

end Frames

section FullSkeleton

/-- A direction mesh with one triangle, and its material. -/
def directionAssets : DrawnAssets ℚ where
  placeables := []
  models := [⟨"DirectionMesh_Direction.mdl",
    { subGeometryNum := 1
      indexDataNum := fun _ => 3
      indexDataStartIndex := fun _ => 0
      wholeIndexDataNum := 3
      writes := []
      subMaterialIdxDataCounter := fun _ => 0
      _assetName := "DirectionMesh_Direction.geo"
      _meshType := .Rigid }, fun _ => some 0⟩]
  geometryBuffers := fun _ => ⟨64, some 0, some 1⟩
  materials := fun _ => some (plainMaterial pbrShader)
  _skeletonAssetCache := none
  _skeletonAnimCache := none
  _globalParamContext := ⟨1, ⟨0, 0, 1, 0⟩, ⟨1, 1, 1, 1⟩, ⟨0, 0, 0, 0⟩⟩
  elapsedTime := 0

/-- A root with 87 bones. -/
def fullSkeletonNode : FbxNode ℚ :=
  jointNode "root" ((List.range 87).map fun i => jointNode (toString i) [])

theorem fullSkeletonNode_nodes : fullSkeletonNode.nodes.length = 88 ∧
    ∀ node ∈ fullSkeletonNode.nodes, node.MakesBone := by
  have hchilds : ∀ names : List Nat, (∀ i ∈ names, FitsAssetName (toString i)) →
      (FbxNode.nodesChilds (names.map fun i => jointNode (toString i) [])).length =
          names.length ∧
        ∀ node ∈ FbxNode.nodesChilds (names.map fun i => jointNode (toString i) []),
          node.MakesBone := by
    intro names hnames
    induction names with
    | nil => simp [FbxNode.nodesChilds]
    | cons i names ih =>
      obtain ⟨hi, hnames⟩ := List.forall_mem_cons.mp hnames
      have hrest := ih hnames
      simp only [List.map_cons, FbxNode.nodesChilds, jointNode, FbxNode.nodes, List.length_append,
        List.length_nil, List.length_cons, List.mem_append, List.mem_cons] at hrest ⊢
      refine ⟨by rw [hrest.1]; omega, ?_⟩
      rintro node ((rfl | hnode) | hnode)
      · exact ⟨rfl, hi⟩
      · cases hnode
      · exact hrest.2 node hnode
  obtain ⟨hlength, hall⟩ := hchilds (List.range 87) (by decide +kernel)
  constructor
  · simp only [fullSkeletonNode, jointNode, FbxNode.nodes, List.length_cons] at hlength ⊢
    rw [hlength, List.length_range]
  · intro node hnode
    simp only [fullSkeletonNode, jointNode, FbxNode.nodes, List.mem_cons] at hall hnode
    rcases hnode with rfl | hnode
    · exact ⟨rfl, show FitsAssetName "root" by decide⟩
    · exact hall node hnode

theorem fullSkeletonNode_imported : ∃ bones,
    importBoneToSkeletonRecursion (PooledList.new (findFbxNodeWholeChildCnt fullSkeletonNode))
      fullSkeletonNode 65535 = some bones ∧ bones.getSize = 88 := by
  obtain ⟨hlength, hall⟩ := fullSkeletonNode_nodes
  obtain ⟨bones, hrun, hlayout, -⟩ := importBoneToSkeletonRecursion_root hall (by omega)
  have hcount : findFbxNodeWholeChildCnt fullSkeletonNode = fullSkeletonNode.nodes.length := by
    rw [findFbxNodeWholeChildCnt_eq, toUint32_natCast (by omega)]
  refine ⟨bones, by rw [hcount]; exact hrun, ?_⟩
  rw [← boneEntries_length, hlayout, layout_length, size_nodeTree, hlength]

/-- One frame too few. -/
theorem overlay_reads_iff_full : ∃ (skeleton : SSSkeletonAsset ℚ) (anim : SSSkeletonAnimAsset ℚ),
    importBoneToSkeletonRecursion (PooledList.new (findFbxNodeWholeChildCnt fullSkeletonNode))
        fullSkeletonNode 65535 = some skeleton._boneList ∧
      ((∀ elapsedTime : ℚ, 0 ≤ elapsedTime →
        (SSRenderer.drawSkeleton (DirectXMath.exact ℚ) directionAssets (some 0) (some skeleton)
          (some anim) elapsedTime).isSome) ↔
        88 * 54 + skeleton._boneList.getSize ≤ anim._animStack.getSize) := by
  obtain ⟨bones, hbones, -⟩ := fullSkeletonNode_imported
  exact ⟨⟨"a.skl", bones⟩, ⟨"a.ska", ⟨"a.skl", bones⟩,
      PooledList.ofList (List.replicate (88 * 54) Transform.Identity), 54, 24⟩, hbones,
    overlay_reads_iff (by rw [fullSkeletonNode_nodes.1]; omega) _ hbones _ fun _ => rfl⟩

theorem overlay_draws_key_poses_full : ∃ anim : SSSkeletonAnimAsset ℚ,
    importBoneToSkeletonRecursion (PooledList.new (findFbxNodeWholeChildCnt fullSkeletonNode))
        fullSkeletonNode 65535 = some anim._skeleton._boneList ∧
      SSRenderer.drawSkeleton (DirectXMath.exact ℚ) directionAssets (some 0) (some anim._skeleton)
          (some anim) (7 / 2) =
        emitAll (SSRenderer.drawBone (DirectXMath.exact ℚ) directionAssets (some 0))
          ((List.range 88).map (anim.keyPose (DirectXMath.exact ℚ)
            (SSRenderer.overlayFrame (7 / 2 : ℚ)))) := by
  obtain ⟨bones, hbones, hsize⟩ := fullSkeletonNode_imported
  obtain ⟨anim, -, hfull, hskeleton, hframes, -⟩ :=
    SSSkeletonAnimAsset.new_stackFull "a.ska" ⟨"a.skl", bones⟩ 55 24 (by rw [hsize]; omega)
  have hanim : anim._skeleton._boneList = bones := congrArg SSSkeletonAsset._boneList hskeleton
  have hcount : anim.boneCnt = 88 := by
    rw [SSSkeletonAnimAsset.boneCnt, hanim, hsize]
  exact ⟨anim, by rw [hanim]; exact hbones,
    overlay_draws_key_poses (by rw [fullSkeletonNode_nodes.1]; omega) anim
      (by rw [hanim]; exact hbones) hcount hfull (by omega) _⟩

end FullSkeleton

end FBXRenderer

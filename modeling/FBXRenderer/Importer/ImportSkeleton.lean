import FBXRenderer.Asset.Skeleton
import FBXRenderer.Importer.FbxNode

/-!
# FBXRenderer.Importer.ImportSkeleton

`ImportBoneToSkeletonRecursion` and `ImportCurrentSceneToSkeletonAsset` (`SSFBXImporter.cpp`): the
nodes below the skeleton root become bones in pre-order, and every bone is entered in the child
list of its parent. The import ends early at a push to a full list, at a node without a skeleton
attribute, and at a name that is too long for its array.

* `importCurrentSceneToSkeletonAsset_ok`: the bones of an imported skeleton are one tree, and the
  transform of every bone is one that `ExtractTransformFromNode` returned.
-/

namespace FBXRenderer

open SS

section Import

variable {K : Type}

/-- `node->GetSkeleton()->LimbLength`; there is none without a skeleton attribute. -/
def FbxNode.limbLength (node : FbxNode K) : Option K :=
  match node.nodeAttribute with
  | some (.eSkeleton limbLength) => some limbLength
  | _ => none

theorem FbxNode.isSome_limbLength (node : FbxNode K) :
    node.limbLength.isSome = node.isSkeleton := by
  unfold FbxNode.limbLength FbxNode.isSkeleton
  cases node.nodeAttribute with
  | none => rfl
  | some nodeAttribute =>
    cases nodeAttribute with
    | eMesh mesh => rfl
    | eSkeleton limbLength => rfl
    | other => rfl

/-- `boneList[idx]._childs.PushBack(boneIdx)`. -/
def BoneNode.pushChild (boneIdx : Nat) (bone : BoneNode K) : Option (BoneNode K) :=
  (bone._childs.pushBack boneIdx).map fun childs => { bone with _childs := childs }

/-- `if (parentBoneIdx != 65535)` the new bone is entered at its parent. -/
def linkToParent (boneList : PooledList (BoneNode K)) (parentBoneIdx boneListLastIdx : Nat) :
    Option (PooledList (BoneNode K)) :=
  if parentBoneIdx ≠ 65535 then
    boneList.modify parentBoneIdx (BoneNode.pushChild boneListLastIdx)
  else some boneList

theorem linkToParent_some {boneList boneList' : PooledList (BoneNode K)}
    {parentBoneIdx boneListLastIdx : Nat}
    (h : linkToParent boneList parentBoneIdx boneListLastIdx = some boneList') :
    boneList'.getSize = boneList.getSize ∧ boneList'.capacity = boneList.capacity ∧
      ∀ i bone, boneList.data[i]? = some bone → ∃ bone', boneList'.data[i]? = some bone' ∧
        bone'._parent = bone._parent ∧ bone'._transform = bone._transform ∧
        bone'._childs.data = if i = parentBoneIdx ∧ parentBoneIdx ≠ 65535 then
          bone._childs.data ++ [boneListLastIdx] else bone._childs.data := by
  unfold linkToParent at h
  split at h
  · rename_i hp
    have hmod := PooledList.modify_some h
    refine ⟨hmod.size, hmod.capacity, fun i bone hbone => ?_⟩
    by_cases hi : i = parentBoneIdx
    · subst hi
      obtain ⟨bone', hpush, hbone'⟩ := hmod.here bone hbone
      unfold BoneNode.pushChild at hpush
      obtain ⟨childs, hchilds, rfl⟩ := Option.map_eq_some_iff.mp hpush
      refine ⟨_, hbone', rfl, rfl, ?_⟩
      rw [if_pos ⟨rfl, hp⟩]
      exact (PooledList.pushBack_some hchilds).2.1
    · refine ⟨bone, by rw [hmod.others i hi, hbone], rfl, rfl, ?_⟩
      rw [if_neg fun hand => hi hand.1]
  · rename_i hp
    cases h
    refine ⟨rfl, rfl, fun i bone hbone => ⟨bone, hbone, rfl, rfl, ?_⟩⟩
    rw [if_neg fun hand => hp hand.2]

variable [Field K]

/-- `BoneNode(boneName, parentIdx, childCnt)`. The length has no value yet. The constructor of the
name does not look at its length: `none` is a copy past the end of the array. -/
def BoneNode.new (boneName : String) (parentIdx childCnt : Nat) : Option (BoneNode K) :=
  if h : FitsAssetName boneName then
    some
      { _boneName := boneName
        name_fits := h
        _transform := Transform.Identity
        _length := 0
        _parent := parentIdx
        _childs := PooledList.new childCnt }
  else none

/-- What a new bone was told; it has no children. -/
structure BoneNode.IsNew (boneName : String) (parentIdx childCnt : Nat) (bone : BoneNode K) :
    Prop where
  boneName : bone._boneName = boneName
  parent : bone._parent = parentIdx
  childs : bone._childs = PooledList.new childCnt

theorem BoneNode.new_some {boneName : String} {parentIdx childCnt : Nat} {bone : BoneNode K}
    (h : BoneNode.new boneName parentIdx childCnt = some bone) :
    BoneNode.IsNew boneName parentIdx childCnt bone := by
  unfold BoneNode.new at h
  split at h
  · cases h
    exact ⟨rfl, rfl, rfl⟩
  · cases h

theorem BoneNode.isSome_new (boneName : String) (parentIdx childCnt : Nat) :
    (BoneNode.new boneName parentIdx childCnt : Option (BoneNode K)).isSome ↔
      FitsAssetName boneName := by
  unfold BoneNode.new
  split
  · rename_i h
    exact iff_of_true rfl h
  · rename_i h
    exact iff_of_false Bool.false_ne_true h

/-- Everything up to the loop over the children; the index is that of the new bone. -/
def importBone (boneList : PooledList (BoneNode K)) (node : FbxNode K) (parentBoneIdx : Nat) :
    Option (PooledList (BoneNode K) × Nat) := do
  let childCnt := node.childs.length
  let boneNode ← BoneNode.new node.name parentBoneIdx (toUint16 childCnt)
  let boneList ← boneList.pushBack boneNode
  let boneListLastIdx := toUint16 ((boneList.getSize : Int) - 1)
  let boneList ← linkToParent boneList parentBoneIdx boneListLastIdx
  let limbLength ← node.limbLength
  let boneList ← boneList.modify boneListLastIdx fun boneNode =>
    some { boneNode with
           _length := limbLength
           _transform := extractTransformFromNode node .infinite }
  some (boneList, boneListLastIdx)

mutual

def importBoneToSkeletonRecursion :
    PooledList (BoneNode K) → FbxNode K → Nat → Option (PooledList (BoneNode K))
  | boneList, ⟨name, nodeAttribute, materials, fbxMat, childs⟩, parentBoneIdx => do
    let (boneList, boneListLastIdx) ←
      importBone boneList ⟨name, nodeAttribute, materials, fbxMat, childs⟩ parentBoneIdx
    importChildsToSkeleton boneList childs boneListLastIdx

/-- The loop over the children. -/
def importChildsToSkeleton :
    PooledList (BoneNode K) → List (FbxNode K) → Nat → Option (PooledList (BoneNode K))
  | boneList, [], _ => some boneList
  | boneList, child :: rest, boneListLastIdx => do
    let boneList ← importBoneToSkeletonRecursion boneList child boneListLastIdx
    importChildsToSkeleton boneList rest boneListLastIdx

end

/-- The inner `none` is a scene without a skeleton. The asset is first named after the root node,
as its bone is, and gets its own name when the bones are made. -/
def importCurrentSceneToSkeletonAsset (fileName : String) (rootNode : FbxNode K) :
    Option (Option (SSSkeletonAsset K)) :=
  match findSkeletonRootRecursion rootNode with
  | none => some none
  | some skeletonRoot => do
    let childCount := findFbxNodeWholeChildCnt skeletonRoot
    let boneList ←
      importBoneToSkeletonRecursion (PooledList.new (toUint16 childCount)) skeletonRoot 65535
    let assetName ← fixedAssetName (fileName ++ ".skl")
    some (some { _assetName := assetName, _boneList := boneList })

omit [Field K] in
/-- `boneListLastIdx` is the index of the bone that was just pushed. -/
theorem boneListLastIdx_eq {boneList boneList' : PooledList (BoneNode K)} {bone : BoneNode K}
    (hdata : boneList'.data = boneList.data ++ [bone]) (hlt : boneList.getSize < 2 ^ 16) :
    toUint16 ((boneList'.getSize : Int) - 1) = boneList.getSize := by
  have hsub : ((boneList.getSize + 1 : Nat) : Int) - 1 = (boneList.getSize : Nat) := by omega
  rw [PooledList.getSize_concat hdata, hsub, toUint16_natCast hlt]

/-- What one new bone below `parentBoneIdx` changes in the list. -/
structure BoneAdded (boneList : PooledList (BoneNode K)) (node : FbxNode K) (parentBoneIdx : Nat)
    (boneList' : PooledList (BoneNode K)) : Prop where
  size : boneList'.getSize = boneList.getSize + 1
  capacity : boneList'.capacity = boneList.capacity
  new : ∃ bone, boneList'.data[boneList.getSize]? = some bone ∧ bone._parent = parentBoneIdx ∧
    bone._childs.data = [] ∧ bone._transform = extractTransformFromNode node .infinite
  old : ∀ i bone, boneList.data[i]? = some bone → ∃ bone', boneList'.data[i]? = some bone' ∧
    bone'._parent = bone._parent ∧ bone'._transform = bone._transform ∧
    bone'._childs.data =
      if i = parentBoneIdx then bone._childs.data ++ [boneList.getSize] else bone._childs.data

/-- Where a node can be imported: as the root of an empty list, or below a bone. -/
def ParentReady (boneList : PooledList (BoneNode K)) (parentBoneIdx : Nat) : Prop :=
  parentBoneIdx = 65535 ∧ boneList.data = [] ∨ parentBoneIdx < boneList.getSize

theorem importBone_some {boneList boneList' : PooledList (BoneNode K)} {node : FbxNode K}
    {parentBoneIdx idx : Nat} (hcap : boneList.capacity < 2 ^ 16)
    (hready : ParentReady boneList parentBoneIdx)
    (h : importBone boneList node parentBoneIdx = some (boneList', idx)) :
    idx = boneList.getSize ∧ BoneAdded boneList node parentBoneIdx boneList' := by
  unfold importBone at h
  simp only [Option.bind_eq_bind, Option.bind_eq_some_iff] at h
  obtain ⟨newBone, h0, l1, h1, l2, h2, len, _, l3, h3, hret⟩ := h
  have hnew := BoneNode.new_some h0
  obtain ⟨hroom, hdata1, hcap1⟩ := PooledList.pushBack_some h1
  have hsize1 := PooledList.getSize_concat hdata1
  have hidx := boneListLastIdx_eq hdata1 (Nat.lt_trans hroom hcap)
  rw [hidx] at h2 h3 hret
  cases hret
  have hnot : boneList.getSize ≠ parentBoneIdx ∨ parentBoneIdx = 65535 := by
    rcases hready with ⟨hp, _⟩ | hp
    · exact Or.inr hp
    · exact Or.inl (by omega)
  obtain ⟨hsize2, hcap2, hlink⟩ := linkToParent_some h2
  have hmod := PooledList.modify_some h3
  refine ⟨rfl, ?_, ?_, ?_, ?_⟩
  · rw [hmod.size, hsize2, hsize1]
  · rw [hmod.capacity, hcap2, hcap1]
  · -- the bone that was appended, with its length and transform
    have hlast : l1.data[boneList.getSize]? = some newBone := by
      rw [hdata1]
      exact List.getElem?_concat_length
    obtain ⟨bone, hbone, hpar, _, hchilds⟩ := hlink _ _ hlast
    obtain ⟨bone', hbone', hget⟩ := hmod.here bone hbone
    cases hbone'
    refine ⟨_, hget, hpar.trans hnew.parent, ?_, rfl⟩
    show bone._childs.data = []
    rw [hchilds, if_neg (by omega), hnew.childs]
    rfl
  · intro i bone hbone
    have hi : i < boneList.getSize := (List.getElem?_eq_some_iff.mp hbone).1
    have hbone1 : l1.data[i]? = some bone := by
      rw [hdata1, List.getElem?_append_left hi, hbone]
    obtain ⟨bone', hbone', hpar, htrans, hchilds⟩ := hlink i bone hbone1
    refine ⟨bone', by rw [hmod.others i (by omega), hbone'], hpar, htrans, ?_⟩
    rw [hchilds]
    -- below 65535 only the root of an empty list is added without a parent
    have hp : i = parentBoneIdx → parentBoneIdx ≠ 65535 := by
      have : boneList.getSize < 2 ^ 16 := Nat.lt_trans hroom hcap
      omega
    by_cases hip : i = parentBoneIdx
    · rw [if_pos ⟨hip, hp hip⟩, if_pos hip]
    · rw [if_neg fun hand => hip hand.1, if_neg hip]

/-- What the recursion keeps: the bones made so far are one tree, with extracted transforms. -/
structure BonesOk (boneList : PooledList (BoneNode K)) : Prop where
  isTree : BoneNode.IsTree boneList
  extracted : ∀ bone ∈ boneList.data, ∃ node : FbxNode K,
    bone._transform = extractTransformFromNode node .infinite

theorem BonesOk.of_root {boneList boneList' : PooledList (BoneNode K)} {node : FbxNode K}
    {parentBoneIdx : Nat} (hempty : boneList.data = [])
    (h : BoneAdded boneList node parentBoneIdx boneList') : BonesOk boneList' := by
  have hsize : boneList.getSize = 0 := by
    unfold PooledList.getSize
    rw [hempty]
    rfl
  have hsize' : boneList'.getSize = 1 := by rw [h.size, hsize]
  obtain ⟨bone, hbone, _, hchilds, htrans⟩ := h.new
  rw [hsize] at hbone
  refine ⟨?_, ?_⟩
  · unfold BoneNode.IsTree
    rw [hsize']
    refine IndexTree.isTree_root ?_
    rw [BoneNode.childs_of_get hbone, hchilds]
  · intro b hb
    obtain ⟨i, hi, hget⟩ := List.mem_iff_getElem.mp hb
    obtain rfl : i = 0 := by
      have : i < boneList'.getSize := hi
      omega
    rw [List.getElem?_eq_getElem hi, hget] at hbone
    cases hbone
    exact ⟨node, htrans⟩

theorem BonesOk.push {boneList boneList' : PooledList (BoneNode K)} {node : FbxNode K}
    {parentBoneIdx : Nat} (hok : BonesOk boneList) (hp : parentBoneIdx < boneList.getSize)
    (h : BoneAdded boneList node parentBoneIdx boneList') : BonesOk boneList' := by
  obtain ⟨last, hlast, hlastp, hlastc, hlastt⟩ := h.new
  have hold : ∀ i, i < boneList.getSize → ∃ bone bone', boneList.data[i]? = some bone ∧
      boneList'.data[i]? = some bone' ∧ bone'._parent = bone._parent ∧
      bone'._transform = bone._transform ∧ bone'._childs.data =
        if i = parentBoneIdx then bone._childs.data ++ [boneList.getSize]
        else bone._childs.data := by
    intro i hi
    have hbone : boneList.data[i]? = some boneList.data[i] := List.getElem?_eq_getElem hi
    obtain ⟨bone', hbone', hrest⟩ := h.old i _ hbone
    exact ⟨_, bone', hbone, hbone', hrest⟩
  refine ⟨?_, ?_⟩
  · unfold BoneNode.IsTree
    rw [h.size]
    refine hok.isTree.push hp ?_ ?_ ?_ ?_
    · intro i hi
      obtain ⟨bone, bone', hbone, hbone', _, _, hchilds⟩ := hold i hi
      rw [BoneNode.childs_of_get hbone, BoneNode.childs_of_get hbone', hchilds]
    · rw [BoneNode.childs_of_get hlast, hlastc]
    · intro i hi
      obtain ⟨bone, bone', hbone, hbone', hpar, _, _⟩ := hold i hi
      rw [BoneNode.parent_of_get hbone, BoneNode.parent_of_get hbone', hpar]
    · rw [BoneNode.parent_of_get hlast, hlastp]
  · intro b hb
    obtain ⟨i, hi, hget⟩ := List.mem_iff_getElem.mp hb
    have hb' : boneList'.data[i]? = some b := by rw [List.getElem?_eq_getElem hi, hget]
    have hi' : i < boneList.getSize + 1 := by rw [← h.size]; exact hi
    rcases Nat.lt_succ_iff_lt_or_eq.mp hi' with hlt | rfl
    · obtain ⟨bone, bone', hbone, hbone', _, htrans, _⟩ := hold i hlt
      rw [hb'] at hbone'
      cases hbone'
      rw [htrans]
      exact hok.extracted bone (List.mem_of_getElem? hbone)
    · rw [hlast] at hb'
      cases hb'
      exact ⟨node, hlastt⟩

/-- What a call of the recursion leaves, when the list was ready for it. -/
structure Imported (boneList boneList' : PooledList (BoneNode K)) : Prop where
  ok : BonesOk boneList'
  capacity : boneList'.capacity = boneList.capacity
  size_le : boneList.getSize ≤ boneList'.getSize

theorem importBone_imported {boneList boneList' : PooledList (BoneNode K)} {node : FbxNode K}
    {parentBoneIdx idx : Nat} (hcap : boneList.capacity < 2 ^ 16)
    (hready : ParentReady boneList parentBoneIdx) (hok : boneList.data ≠ [] → BonesOk boneList)
    (h : importBone boneList node parentBoneIdx = some (boneList', idx)) :
    Imported boneList boneList' ∧ idx < boneList'.getSize := by
  obtain ⟨rfl, hadd⟩ := importBone_some hcap hready h
  have hsize := hadd.size
  refine ⟨⟨?_, hadd.capacity, by omega⟩, by omega⟩
  rcases hready with ⟨_, hempty⟩ | hp
  · exact BonesOk.of_root hempty hadd
  · refine (hok ?_).push hp hadd
    intro hempty
    rw [PooledList.getSize, hempty] at hp
    exact absurd hp (Nat.not_lt_zero _)

mutual

theorem importBoneToSkeletonRecursion_some :
    ∀ (node : FbxNode K) (boneList boneList' : PooledList (BoneNode K)) (parentBoneIdx : Nat),
      boneList.capacity < 2 ^ 16 → ParentReady boneList parentBoneIdx →
      (boneList.data ≠ [] → BonesOk boneList) →
      importBoneToSkeletonRecursion boneList node parentBoneIdx = some boneList' →
      Imported boneList boneList'
  | ⟨name, nodeAttribute, materials, fbxMat, childs⟩, boneList, boneList', parentBoneIdx => by
    intro hcap hready hok h
    unfold importBoneToSkeletonRecursion at h
    simp only [Option.bind_eq_bind, Option.bind_eq_some_iff] at h
    obtain ⟨⟨l1, idx⟩, hbone, hchilds⟩ := h
    obtain ⟨h1, hidx⟩ := importBone_imported hcap hready hok hbone
    have h2 := importChildsToSkeleton_some childs l1 boneList' idx
      (by rw [h1.capacity]; exact hcap) hidx h1.ok hchilds
    exact ⟨h2.ok, h2.capacity.trans h1.capacity, Nat.le_trans h1.size_le h2.size_le⟩

theorem importChildsToSkeleton_some :
    ∀ (childs : List (FbxNode K)) (boneList boneList' : PooledList (BoneNode K)) (idx : Nat),
      boneList.capacity < 2 ^ 16 → idx < boneList.getSize → BonesOk boneList →
      importChildsToSkeleton boneList childs idx = some boneList' → Imported boneList boneList'
  | [], boneList, boneList', idx => by
    intro _ _ hok h
    unfold importChildsToSkeleton at h
    cases h
    exact ⟨hok, rfl, Nat.le_refl _⟩
  | child :: rest, boneList, boneList', idx => by
    intro hcap hidx hok h
    unfold importChildsToSkeleton at h
    simp only [Option.bind_eq_bind, Option.bind_eq_some_iff] at h
    obtain ⟨l1, hchild, hrest⟩ := h
    have h1 := importBoneToSkeletonRecursion_some child boneList l1 idx hcap (Or.inr hidx)
      (fun _ => hok) hchild
    have h2 := importChildsToSkeleton_some rest l1 boneList' idx
      (by rw [h1.capacity]; exact hcap) (Nat.lt_of_lt_of_le hidx h1.size_le) h1.ok hrest
    exact ⟨h2.ok, h2.capacity.trans h1.capacity, Nat.le_trans h1.size_le h2.size_le⟩

end

theorem importCurrentSceneToSkeletonAsset_ok {fileName : String} {rootNode : FbxNode K}
    {skeleton : SSSkeletonAsset K}
    (h : importCurrentSceneToSkeletonAsset fileName rootNode = some (some skeleton)) :
    BonesOk skeleton._boneList := by
  unfold importCurrentSceneToSkeletonAsset at h
  split at h
  · cases h
  · rename_i skeletonRoot _
    simp only [Option.bind_eq_bind, Option.bind_eq_some_iff] at h
    obtain ⟨boneList, hrec, assetName, _, heq⟩ := h
    cases heq
    exact (importBoneToSkeletonRecursion_some skeletonRoot _ boneList 65535
      (by rw [PooledList.new_capacity]; exact toUint16_lt _) (Or.inl ⟨rfl, rfl⟩)
      (fun hne => absurd rfl hne) hrec).ok

end Import

section OneBone

/-- A scene of one bone without translation and rotation. -/
def oneBoneScene (S : Fin 3 → ℚ) : FbxNode ℚ where
  name := "bone"
  nodeAttribute := some (.eSkeleton 1)
  materials := []
  fbxMat := fun _ => ⟨fun _ => 0, S, Quaternion.one⟩
  childs := []

def oneBoneSkeleton (S : Fin 3 → ℚ) : SSSkeletonAsset ℚ where
  _assetName := "a.skl"
  _boneList := PooledList.ofList
    [{ _boneName := "bone"
       name_fits := by decide
       _transform := extractTransformFromNode (oneBoneScene S) .infinite
       _length := 1
       _parent := 65535
       _childs := PooledList.new 0 }]

theorem oneBone_imported (S : Fin 3 → ℚ) :
    importCurrentSceneToSkeletonAsset "a" (oneBoneScene S) = some (some (oneBoneSkeleton S)) := rfl

end OneBone

section TwoBones

def kneeNode : FbxNode ℚ where
  name := "knee"
  nodeAttribute := some (.eSkeleton 40)
  materials := []
  fbxMat := fun _ => ⟨![0, -40, 10], ![1, 1, 1], ⟨5 / 13, 0, 0, 12 / 13⟩⟩
  childs := []

/-- Both bones are turned and off the bone above. -/
def hipNode : FbxNode ℚ where
  name := "hip"
  nodeAttribute := some (.eSkeleton 90)
  materials := []
  fbxMat := fun _ => ⟨![100, 0, 50], ![1, 1, 1], ⟨0, 0, 3 / 5, 4 / 5⟩⟩
  childs := [kneeNode]

def legSkeleton : SSSkeletonAsset ℚ where
  _assetName := "leg.skl"
  _boneList := PooledList.ofList
    [{ _boneName := "hip"
       name_fits := by decide
       _transform := extractTransformFromNode hipNode .infinite
       _length := 90
       _parent := 65535
       _childs := PooledList.ofList [1] },
     { _boneName := "knee"
       name_fits := by decide
       _transform := extractTransformFromNode kneeNode .infinite
       _length := 40
       _parent := 0
       _childs := PooledList.new 0 }]

theorem leg_imported :
    importCurrentSceneToSkeletonAsset "leg" hipNode = some (some legSkeleton) := rfl

end TwoBones

end FBXRenderer

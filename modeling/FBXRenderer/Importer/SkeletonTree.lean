import FBXRenderer.Importer.ImportSkeleton
import FBXRenderer.Lib.PreorderList

/-!
# FBXRenderer.Importer.SkeletonTree

The bone list as a node tree in pre-order. `boneEntry` forgets the storage of a bone and `nodeTree`
the parts of a node that no bone carries; under these the importer is `PreorderList.build`.

* `importBoneToSkeletonRecursion_run`: with room in the list the recursion fails at no node that can
  become a bone, and adds the tree of its node.
* `skeleton_tree_imported_iff`: a tree of at most 65535 skeleton nodes becomes bones exactly when
  every name fits its array.
-/

namespace FBXRenderer

open SS PreorderList

section Nodes

variable {K : Type}

mutual

/-- The nodes of a scene in pre-order. -/
def FbxNode.nodes : FbxNode K → List (FbxNode K)
  | ⟨name, nodeAttribute, materials, fbxMat, childs⟩ =>
    ⟨name, nodeAttribute, materials, fbxMat, childs⟩ :: FbxNode.nodesChilds childs

def FbxNode.nodesChilds : List (FbxNode K) → List (FbxNode K)
  | [] => []
  | child :: rest => child.nodes ++ FbxNode.nodesChilds rest

end

mutual

/-- The count is that of the nodes, as a `uint32`. -/
theorem findFbxNodeWholeChildCnt_eq : ∀ node : FbxNode K,
    findFbxNodeWholeChildCnt node = toUint32 (node.nodes.length : Nat)
  | ⟨name, nodeAttribute, materials, fbxMat, childs⟩ => by
    rw [findFbxNodeWholeChildCnt, wholeChildCntChilds_eq childs 1 (by decide), FbxNode.nodes,
      List.length_cons, Nat.add_comm]

theorem wholeChildCntChilds_eq : ∀ (childs : List (FbxNode K)) (sum : Nat), sum < 2 ^ 32 →
    wholeChildCntChilds sum childs = toUint32 (sum + (FbxNode.nodesChilds childs).length : Nat)
  | [], sum, h => by
    rw [wholeChildCntChilds, FbxNode.nodesChilds]
    exact (toUint32_natCast h).symm
  | child :: rest, sum, h => by
    rw [wholeChildCntChilds, wholeChildCntChilds_eq rest _ (toUint32_lt _),
      findFbxNodeWholeChildCnt_eq child, FbxNode.nodesChilds, List.length_append]
    unfold toUint32
    omega

end

theorem nodes_length_pos : ∀ node : FbxNode K, 0 < node.nodes.length
  | ⟨_, _, _, _, _⟩ => by
    rw [FbxNode.nodes, List.length_cons]
    exact Nat.succ_pos _

theorem length_le_nodes (childs : List (FbxNode K)) :
    childs.length ≤ (FbxNode.nodesChilds childs).length := by
  induction childs with
  | nil => exact Nat.le_refl _
  | cons child rest ih =>
    have hpos := nodes_length_pos child
    rw [FbxNode.nodesChilds, List.length_append, List.length_cons]
    omega

/-- What a bone is told by its node. -/
structure BoneLabel (K : Type) where
  boneName : String
  transform : Transform K
  length : K
  childCnt : Nat

variable [Field K]

def nodeLabel (node : FbxNode K) : BoneLabel K where
  boneName := node.name
  transform := extractTransformFromNode node .infinite
  length := node.limbLength.getD 0
  childCnt := toUint16 node.childs.length

mutual

def nodeTree : FbxNode K → RoseTree (BoneLabel K)
  | ⟨name, nodeAttribute, materials, fbxMat, childs⟩ =>
    .node (nodeLabel ⟨name, nodeAttribute, materials, fbxMat, childs⟩) (nodeForest childs)

def nodeForest : List (FbxNode K) → List (RoseTree (BoneLabel K))
  | [] => []
  | child :: rest => nodeTree child :: nodeForest rest

end

mutual

theorem labels_nodeTree : ∀ node : FbxNode K, labels (nodeTree node) = node.nodes.map nodeLabel
  | ⟨name, nodeAttribute, materials, fbxMat, childs⟩ => by
    rw [nodeTree, labels, FbxNode.nodes, List.map_cons, labels_nodeForest childs]

theorem labels_nodeForest : ∀ childs : List (FbxNode K),
    labelsForest (nodeForest childs) = (FbxNode.nodesChilds childs).map nodeLabel
  | [] => rfl
  | child :: rest => by
    rw [nodeForest, labelsForest, FbxNode.nodesChilds, List.map_append, labels_nodeTree child,
      labels_nodeForest rest]

end

theorem size_nodeTree (node : FbxNode K) : size (nodeTree node) = node.nodes.length := by
  rw [← labels_length, labels_nodeTree, List.length_map]

end Nodes

section Bones

variable {K : Type}

def boneParent (parentBoneIdx : Nat) : Option Nat :=
  if parentBoneIdx = 65535 then none else some parentBoneIdx

def boneEntry (bone : BoneNode K) : Entry (BoneLabel K) where
  label := ⟨bone._boneName, bone._transform, bone._length, bone._childs.capacity⟩
  parent := boneParent bone._parent
  childs := bone._childs.data

def boneEntries (boneList : PooledList (BoneNode K)) : List (Entry (BoneLabel K)) :=
  boneList.data.map boneEntry

@[simp] theorem boneEntries_length (boneList : PooledList (BoneNode K)) :
    (boneEntries boneList).length = boneList.getSize := List.length_map ..

end Bones

section Import

variable {K : Type}

/-- The node has a skeleton to ask, and a name that a bone can carry. -/
structure FbxNode.MakesBone (node : FbxNode K) : Prop where
  isSkeleton : node.isSkeleton = true
  name_fits : FitsAssetName node.name

/-- Entering the new bone at a parent with room. -/
theorem linkToParent_eq {boneList : PooledList (BoneNode K)} {parentBoneIdx : Nat} (idx : Nat)
    (hroom : Room BoneLabel.childCnt (boneEntries boneList) (boneParent parentBoneIdx) 1) :
    ∃ boneList', linkToParent boneList parentBoneIdx idx = some boneList' ∧
      boneList'.capacity = boneList.capacity ∧
      boneEntries boneList' = enter (boneEntries boneList) (boneParent parentBoneIdx) [idx] := by
  unfold linkToParent
  by_cases hp : parentBoneIdx = 65535
  · rw [if_neg (not_not.mpr hp)]
    refine ⟨boneList, rfl, rfl, ?_⟩
    rw [boneParent, if_pos hp]
    rfl
  · rw [if_pos hp]
    rw [boneParent, if_neg hp] at hroom ⊢
    obtain ⟨e, he, hlt⟩ := hroom parentBoneIdx rfl
    obtain ⟨bone, hbone, rfl⟩ := Option.map_eq_some_iff.mp (by simpa [boneEntries] using he)
    obtain ⟨childs, hpush, hdata, hcap⟩ := PooledList.pushBack_eq (l := bone._childs) hlt idx
    have hchange : BoneNode.pushChild idx bone = some { bone with _childs := childs } := by
      unfold BoneNode.pushChild
      rw [hpush]
      rfl
    obtain ⟨boneList', hmod, hset, hcap'⟩ := PooledList.modify_eq hbone hchange
    refine ⟨boneList', hmod, hcap', ?_⟩
    have hentry : boneEntry { bone with _childs := childs } =
        (boneEntry bone).addChilds [idx] := by
      unfold boneEntry Entry.addChilds
      simp only [hdata, hcap]
    apply List.ext_getElem?
    intro i
    rw [enter_getElem?]
    unfold boneEntries
    rw [List.getElem?_map, List.getElem?_map, hset, List.getElem?_set]
    by_cases hi : parentBoneIdx = i
    · subst hi
      have hlen : parentBoneIdx < boneList.data.length := (List.getElem?_eq_some_iff.mp hbone).1
      simp only [if_true, hlen, hbone, Option.map_some, hentry]
    · simp only [hi, if_false, Option.some_inj]
      exact Option.map_id'.symm

/-- A bone's own fields, filled in after it was entered at its parent. -/
theorem fillBone_eq {boneList : PooledList (BoneNode K)} {es : List (Entry (BoneLabel K))}
    {bone : BoneNode K} (hes : boneEntries boneList = es ++ [boneEntry bone]) (length : K)
    (transform : Transform K) :
    ∃ boneList', (boneList.modify es.length fun boneNode =>
        some { boneNode with _length := length, _transform := transform }) = some boneList' ∧
      boneList'.capacity = boneList.capacity ∧
      boneEntries boneList' = es ++
        [boneEntry { bone with _length := length, _transform := transform }] := by
  have hlast : (boneEntries boneList)[es.length]? = some (boneEntry bone) := by
    rw [hes]
    simp
  unfold boneEntries at hlast
  rw [List.getElem?_map] at hlast
  obtain ⟨bone', hbone', heq⟩ := Option.map_eq_some_iff.mp hlast
  obtain ⟨boneList', hmod, hset, hcap⟩ := PooledList.modify_eq (f := fun boneNode =>
    some { boneNode with _length := length, _transform := transform }) hbone' rfl
  refine ⟨boneList', hmod, hcap, ?_⟩
  have hsame : boneEntry { bone' with _length := length, _transform := transform } =
      boneEntry { bone with _length := length, _transform := transform } := by
    unfold boneEntry at heq ⊢
    simp only [Entry.mk.injEq, BoneLabel.mk.injEq] at heq ⊢
    exact ⟨⟨heq.1.1, trivial, trivial, heq.1.2.2.2⟩, heq.2.1, heq.2.2⟩
  unfold boneEntries at hes ⊢
  rw [hset, List.map_set, hes, hsame, List.set_append_right _ _ (Nat.le_refl _), Nat.sub_self]
  rfl

variable [Field K]

/-- One bone: a new last entry below its parent. -/
theorem importBone_eq {boneList : PooledList (BoneNode K)} {node : FbxNode K} {parentBoneIdx : Nat}
    (hbone : node.MakesBone) (hcap : boneList.capacity < 2 ^ 16)
    (hroom : boneList.getSize < boneList.capacity)
    (hchild : Room BoneLabel.childCnt (boneEntries boneList) (boneParent parentBoneIdx) 1) :
    ∃ boneList', importBone boneList node parentBoneIdx = some (boneList', boneList.getSize) ∧
      boneList'.capacity = boneList.capacity ∧
      boneEntries boneList' =
        add (boneEntries boneList) (nodeLabel node) (boneParent parentBoneIdx) := by
  obtain ⟨limbLength, hlimb⟩ :=
    Option.isSome_iff_exists.mp (node.isSome_limbLength.trans hbone.isSkeleton)
  obtain ⟨newBone, h0⟩ : ∃ newBone : BoneNode K, BoneNode.new node.name parentBoneIdx
      (toUint16 node.childs.length) = some newBone :=
    Option.isSome_iff_exists.mp ((BoneNode.isSome_new _ _ _).mpr hbone.name_fits)
  have hnew := BoneNode.new_some h0
  obtain ⟨l1, h1, hdata1, hcap1⟩ := PooledList.pushBack_eq hroom newBone
  have hes1 : boneEntries l1 = boneEntries boneList ++ [boneEntry newBone] := by
    unfold boneEntries
    rw [hdata1, List.map_append]
    rfl
  have hidx := boneListLastIdx_eq hdata1 (Nat.lt_trans hroom hcap)
  -- the parent was there before the new bone
  have hchild1 : Room BoneLabel.childCnt (boneEntries l1) (boneParent parentBoneIdx) 1 := by
    intro p hp
    obtain ⟨e, he, hlt⟩ := hchild p hp
    refine ⟨e, ?_, hlt⟩
    rw [hes1, List.getElem?_append_left (List.getElem?_eq_some_iff.mp he).1, he]
  obtain ⟨l2, h2, hcap2, hes2⟩ := linkToParent_eq boneList.getSize hchild1
  have henter : enter (boneEntries l1) (boneParent parentBoneIdx) [boneList.getSize] =
      enter (boneEntries boneList) (boneParent parentBoneIdx) [boneList.getSize] ++
        [boneEntry newBone] := by
    rw [hes1]
    cases hp : boneParent parentBoneIdx with
    | none => rfl
    | some p =>
      obtain ⟨e, he, _⟩ := hchild p hp
      exact modify_append_left (List.getElem?_eq_some_iff.mp he).1 _
  rw [henter] at hes2
  obtain ⟨l3, h3, hcap3, hes3⟩ := fillBone_eq hes2 limbLength
    (extractTransformFromNode node .infinite)
  rw [enter_length, boneEntries_length] at h3
  refine ⟨l3, ?_, by rw [hcap3, hcap2, hcap1], ?_⟩
  · unfold importBone
    simp only [h0, h1, hidx, h2, hlimb, h3, Option.bind_eq_bind, Option.bind_some]
  · rw [hes3, add, boneEntries_length]
    unfold nodeLabel boneEntry
    dsimp only
    rw [hlimb, hnew.boneName, hnew.parent, hnew.childs]
    rfl

mutual

/-- With room in the list and at the parent, the recursion adds the tree of its node, if every node
of it can become a bone. -/
theorem importBoneToSkeletonRecursion_run :
    ∀ (node : FbxNode K) (boneList : PooledList (BoneNode K)) (parentBoneIdx : Nat),
      (∀ n ∈ node.nodes, n.MakesBone) → boneList.capacity < 2 ^ 16 →
      boneList.getSize + node.nodes.length ≤ boneList.capacity →
      Room BoneLabel.childCnt (boneEntries boneList) (boneParent parentBoneIdx) 1 →
      ∃ boneList', importBoneToSkeletonRecursion boneList node parentBoneIdx = some boneList' ∧
        boneList'.capacity = boneList.capacity ∧
        boneEntries boneList' =
          build (boneEntries boneList) (nodeTree node) (boneParent parentBoneIdx)
  | ⟨name, nodeAttribute, materials, fbxMat, childs⟩, boneList, parentBoneIdx => by
    intro hbones hcap hroom hchild
    rw [FbxNode.nodes] at hbones hroom
    rw [List.length_cons] at hroom
    obtain ⟨l1, h1, hcap1, hes1⟩ := importBone_eq (hbones _ (List.mem_cons_self ..)) hcap
      (by omega) hchild
    have hsize1 : l1.getSize = boneList.getSize + 1 := by
      rw [← boneEntries_length, hes1, add_length, boneEntries_length]
    have hcount : childs.length ≤ (FbxNode.nodesChilds childs).length := length_le_nodes childs
    have hchilds : Room BoneLabel.childCnt (boneEntries l1) (some boneList.getSize)
        childs.length := by
      have hplaces := Room.of_add BoneLabel.childCnt (boneEntries boneList)
        (nodeLabel ⟨name, nodeAttribute, materials, fbxMat, childs⟩) (boneParent parentBoneIdx)
      rw [← hes1, boneEntries_length] at hplaces
      exact hplaces.of_le (toUint16_natCast (show childs.length < 2 ^ 16 by omega)).ge
    obtain ⟨l2, h2, hcap2, hes2⟩ := importChildsToSkeleton_run childs l1 boneList.getSize
      (fun n hn => hbones n (List.mem_cons_of_mem _ hn)) (by rw [hcap1]; exact hcap)
      (by rw [hcap1, hsize1]; omega) (by omega) hchilds
    refine ⟨l2, ?_, by rw [hcap2, hcap1], ?_⟩
    · unfold importBoneToSkeletonRecursion
      simp only [h1, Option.bind_eq_bind, Option.bind_some, h2]
    · rw [hes2, hes1, nodeTree, build, boneEntries_length]

theorem importChildsToSkeleton_run :
    ∀ (childs : List (FbxNode K)) (boneList : PooledList (BoneNode K)) (idx : Nat),
      (∀ n ∈ FbxNode.nodesChilds childs, n.MakesBone) → boneList.capacity < 2 ^ 16 →
      boneList.getSize + (FbxNode.nodesChilds childs).length ≤ boneList.capacity →
      idx < boneList.getSize →
      Room BoneLabel.childCnt (boneEntries boneList) (some idx) childs.length →
      ∃ boneList', importChildsToSkeleton boneList childs idx = some boneList' ∧
        boneList'.capacity = boneList.capacity ∧
        boneEntries boneList' = buildForest (boneEntries boneList) (nodeForest childs) idx
  | [], boneList, idx => by
    intro _ _ _ _ _
    refine ⟨boneList, ?_, rfl, ?_⟩
    · rw [importChildsToSkeleton]
    · rw [nodeForest, buildForest]
  | child :: rest, boneList, idx => by
    intro hbones hcap hroom hidx hchild
    rw [FbxNode.nodesChilds] at hbones hroom
    rw [List.length_append] at hroom
    have hparent : boneParent idx = some idx := by
      have hle := boneList.size_le
      unfold PooledList.getSize at hidx
      rw [boneParent, if_neg (by omega)]
    have hone : Room BoneLabel.childCnt (boneEntries boneList) (boneParent idx) 1 := by
      rw [hparent]
      exact hchild.of_le (by simp)
    obtain ⟨l1, h1, hcap1, hes1⟩ := importBoneToSkeletonRecursion_run child boneList idx
      (fun n hn => hbones n (List.mem_append_left _ hn)) hcap (by omega) hone
    rw [hparent] at hes1
    have hsize1 : l1.getSize = boneList.getSize + child.nodes.length := by
      rw [← boneEntries_length, hes1, build_length fun p hp => by cases hp; simpa using hidx,
        boneEntries_length, size_nodeTree]
    rw [List.length_cons] at hchild
    obtain ⟨l2, h2, hcap2, hes2⟩ := importChildsToSkeleton_run rest l1 idx
      (fun n hn => hbones n (List.mem_append_right _ hn)) (by rw [hcap1]; exact hcap)
      (by rw [hcap1, hsize1]; omega) (by omega) (by rw [hes1]; exact hchild.build _)
    refine ⟨l2, ?_, by rw [hcap2, hcap1], ?_⟩
    · unfold importChildsToSkeleton
      simp only [h1, Option.bind_eq_bind, Option.bind_some, h2]
    · rw [hes2, hes1, nodeForest, buildForest]

end

end Import

section WholeTree

variable {K : Type}

theorem boneParent_eq_none {p : Nat} : boneParent p = none ↔ p = 65535 := by simp [boneParent]

theorem boneParent_eq_some {p q : Nat} : boneParent p = some q ↔ p ≠ 65535 ∧ p = q := by
  simp [boneParent]

theorem parentOf_boneEntries {boneList : PooledList (BoneNode K)} {i : Nat}
    (hi : i < boneList.getSize) :
    parentOf (boneEntries boneList) i = boneParent (BoneNode.parent boneList i) := by
  have hget : boneList.data[i]? = some boneList.data[i] := List.getElem?_eq_getElem hi
  unfold parentOf boneEntries
  rw [List.getElem?_map, hget, BoneNode.parent_of_get hget]
  rfl

/-- The links of a bone list that is linked as a list of entries. -/
theorem linked_bones {boneList : PooledList (BoneNode K)} (h : Linked (boneEntries boneList))
    (hlt : boneList.getSize ≤ 65535) :
    (0 < boneList.getSize → BoneNode.parent boneList 0 = 65535) ∧
    (∀ i, 0 < i → i < boneList.getSize → BoneNode.parent boneList i < i) ∧
    ∀ i, i < boneList.getSize → BoneNode.childs boneList i =
      (List.range boneList.getSize).filter fun c => BoneNode.parent boneList c = i := by
  refine ⟨fun h0 => ?_, fun i h0 hi => ?_, fun i hi => ?_⟩
  · rw [← boneParent_eq_none, ← parentOf_boneEntries h0]
    cases hp : parentOf (boneEntries boneList) 0 with
    | none => rfl
    | some p => exact absurd (h.parent_lt 0 p hp) (Nat.not_lt_zero p)
  · obtain ⟨p, hp⟩ := Option.ne_none_iff_exists'.mp (h.rooted i h0 (by simpa using hi))
    have hlt' := h.parent_lt i p hp
    rw [parentOf_boneEntries hi, boneParent_eq_some] at hp
    rw [hp.2]
    exact hlt'
  · have hget : boneList.data[i]? = some boneList.data[i] := List.getElem?_eq_getElem hi
    have hentry : (boneEntries boneList)[i]? = some (boneEntry boneList.data[i]) := by
      unfold boneEntries
      rw [List.getElem?_map, hget]
      rfl
    have hchilds := h.childs_eq i _ hentry
    rw [boneEntries_length] at hchilds
    rw [BoneNode.childs_of_get hget]
    refine hchilds.trans (List.filter_congr fun c hc => ?_)
    rw [parentOf_boneEntries (List.mem_range.mp hc), decide_eq_decide, boneParent_eq_some]
    constructor
    · exact fun hp => hp.2
    · exact fun hp => ⟨by omega, hp⟩

variable [Field K]

/-- The recursion on an empty list with one place for every node. -/
theorem importBoneToSkeletonRecursion_root {root : FbxNode K}
    (hbones : ∀ node ∈ root.nodes, node.MakesBone) (hsize : root.nodes.length ≤ 65535) :
    ∃ boneList, importBoneToSkeletonRecursion (PooledList.new root.nodes.length) root 65535 =
        some boneList ∧
      boneEntries boneList = layout 0 none (nodeTree root) ∧ Linked (boneEntries boneList) := by
  obtain ⟨boneList, hrun, _, hes⟩ := importBoneToSkeletonRecursion_run root
    (PooledList.new root.nodes.length) 65535 hbones (by rw [PooledList.new_capacity]; omega)
    (by rw [PooledList.new_capacity]; exact (Nat.zero_add _).le)
    (fun p hp => by cases hp)
  have hnone : Below ([] : List (Entry (BoneLabel K))) none := fun p hp => by cases hp
  have hbuild : boneEntries boneList = build [] (nodeTree root) none := hes
  refine ⟨boneList, hrun, ?_, ?_⟩
  · rw [hbuild, build_eq _ _ _ hnone]
    rfl
  · rw [hbuild]
    exact linked_nil.build _ _ _ hnone (Or.inl rfl)

/-- The recursion ends, so no push fails; there is one bone for each node, in pre-order and with its
name and transform, parents and child lists agree, and along the child lists the bones are the tree
of the nodes. -/
def SkeletonTreeImported (root : FbxNode K) : Prop :=
  ∃ boneList, importBoneToSkeletonRecursion
      (PooledList.new (findFbxNodeWholeChildCnt root)) root 65535 = some boneList ∧
    boneList.getSize = root.nodes.length ∧
    boneList.data.map (fun bone => (bone._boneName, bone._transform)) =
      root.nodes.map (fun node => (node.name, extractTransformFromNode node .infinite)) ∧
    BoneNode.parent boneList 0 = 65535 ∧
    (∀ i, 0 < i → i < boneList.getSize → BoneNode.parent boneList i < i) ∧
    (∀ i, i < boneList.getSize → BoneNode.childs boneList i =
      (List.range boneList.getSize).filter fun c => BoneNode.parent boneList c = i) ∧
    readTree (boneEntries boneList) boneList.getSize 0 = some (nodeTree root)

theorem skeletonTree_of_bones {root : FbxNode K} (hbones : ∀ node ∈ root.nodes, node.MakesBone)
    (hsize : root.nodes.length ≤ 65535) : SkeletonTreeImported root := by
  obtain ⟨boneList, hrun, hlayout, hlinked⟩ := importBoneToSkeletonRecursion_root hbones hsize
  have hcount : findFbxNodeWholeChildCnt root = root.nodes.length := by
    rw [findFbxNodeWholeChildCnt_eq, toUint32_natCast (by omega)]
  have hlength : boneList.getSize = root.nodes.length := by
    rw [← boneEntries_length, hlayout, layout_length, size_nodeTree]
  obtain ⟨hroot, hparent, hchilds⟩ := linked_bones hlinked (by omega)
  refine ⟨boneList, by rw [hcount]; exact hrun, hlength, ?_, ?_, hparent, hchilds, ?_⟩
  · have hlabels : boneList.data.map (fun bone => (boneEntry bone).label) =
        root.nodes.map nodeLabel := by
      rw [← labels_nodeTree, ← layout_labels (nodeTree root) 0 none, ← hlayout]
      unfold boneEntries
      rw [List.map_map]
      rfl
    have hpairs := congrArg (List.map fun label : BoneLabel K =>
      (label.boneName, label.transform)) hlabels
    rw [List.map_map, List.map_map] at hpairs
    exact hpairs
  · have hpos := nodes_length_pos root
    exact hroot (by omega)
  · refine readTree_layout (nodeTree root) 0 none _ ?_ (by rw [size_nodeTree, hlength])
    rw [hlayout]
    exact stands_suffix [] _

/-- Bones carry names that fit, so a tree with any other name is not imported. -/
theorem names_fit_of_skeletonTree {root : FbxNode K} (h : SkeletonTreeImported root) :
    ∀ node ∈ root.nodes, FitsAssetName node.name := by
  obtain ⟨boneList, _, _, hlabels, _⟩ := h
  intro node hnode
  have hmem : (node.name, extractTransformFromNode node .infinite) ∈
      boneList.data.map fun bone => (bone._boneName, bone._transform) := by
    rw [hlabels]
    exact List.mem_map_of_mem hnode
  obtain ⟨bone, _, heq⟩ := List.mem_map.mp hmem
  rw [← (Prod.mk.inj heq).1]
  exact bone.name_fits

/-- A tree of at most 65535 skeleton nodes, imported into a list of the counted capacity, becomes a
tree of bones exactly when the name of every node fits the bone's array. -/
theorem skeleton_tree_imported_iff {root : FbxNode K}
    (hskel : ∀ node ∈ root.nodes, node.isSkeleton = true) (hsize : root.nodes.length ≤ 65535) :
    SkeletonTreeImported root ↔ ∀ node ∈ root.nodes, FitsAssetName node.name :=
  ⟨names_fit_of_skeletonTree, fun hnames =>
    skeletonTree_of_bones (fun node hnode => ⟨hskel node hnode, hnames node hnode⟩) hsize⟩

end WholeTree

section Hand

/-- A node of a skeleton. -/
def jointNode (name : String) (childs : List (FbxNode ℚ)) : FbxNode ℚ where
  name := name
  nodeAttribute := some (.eSkeleton 1)
  materials := []
  fbxMat := fun _ => ⟨fun _ => 0, fun _ => 1, Quaternion.one⟩
  childs := childs

/-- A hand with two fingers, one of them with two joints. -/
def handNode : FbxNode ℚ :=
  jointNode "hand" [jointNode "thumb" [], jointNode "finger" [jointNode "tip" []]]

theorem handNode_makesBones : ∀ node ∈ handNode.nodes, node.MakesBone := by
  have hnames : ∀ name ∈ ["hand", "thumb", "finger", "tip"], FitsAssetName name := by decide
  simp only [handNode, jointNode, FbxNode.nodes, FbxNode.nodesChilds, List.append_nil,
    List.cons_append, List.nil_append, List.forall_mem_cons] at hnames ⊢
  obtain ⟨hhand, hthumb, hfinger, htip, _⟩ := hnames
  exact ⟨⟨rfl, hhand⟩, ⟨rfl, hthumb⟩, ⟨rfl, hfinger⟩, ⟨rfl, htip⟩, fun _ h => nomatch h⟩

theorem skeleton_tree_imported_iff_hand : SkeletonTreeImported handNode :=
  (skeleton_tree_imported_iff (fun node hnode => (handNode_makesBones node hnode).isSkeleton)
    (by decide)).mpr fun node hnode => (handNode_makesBones node hnode).name_fits

/-- A bone whose name has as many letters as its array has places, so that none is left for the
terminator. -/
def longNode : FbxNode ℚ := jointNode (String.ofList (List.replicate 128 'b')) []

theorem long_name_not_imported :
    (∀ node ∈ longNode.nodes, node.isSkeleton = true) ∧ longNode.nodes.length ≤ 65535 ∧
      ¬ SkeletonTreeImported longNode := by
  refine ⟨?_, by decide, fun h => ?_⟩
  · intro node hnode
    obtain rfl := List.mem_singleton.mp hnode
    rfl
  · have hfits := names_fit_of_skeletonTree h longNode List.mem_cons_self
    exact absurd hfits (by decide +kernel)

end Hand

end FBXRenderer

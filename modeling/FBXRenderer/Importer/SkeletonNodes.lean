import FBXRenderer.Importer.SkeletonTree

/-!
# FBXRenderer.Importer.SkeletonNodes

Which nodes of a scene become bones. `FindSkeletonRootRecursion` stops at the first skeleton node,
and `ImportBoneToSkeletonRecursion` takes every node below it without looking at its attribute, so
the two agree with the skeleton nodes of the scene on one kind of scene only.

* `findSkeletonRootRecursion_found`: the root that is found, and what is left beside its subtree.
* `bones_are_skeleton_nodes_iff`: the bones are the skeleton nodes, and no other node is asked for
  its skeleton, exactly when the skeleton nodes are one whole subtree with at most 65535 nodes and
  names that fit their arrays.
-/

namespace FBXRenderer

open SS PreorderList

section Search

variable {K : Type}

def FbxNode.skeletonNodes (node : FbxNode K) : List (FbxNode K) := node.nodes.filter (·.isSkeleton)

theorem FbxNode.mem_nodes_self (node : FbxNode K) : node ∈ node.nodes := by
  cases node with
  | mk name nodeAttribute materials fbxMat childs =>
    rw [FbxNode.nodes]
    exact List.mem_cons_self ..

theorem FbxNode.head?_nodes (node : FbxNode K) : node.nodes.head? = some node := by
  cases node with
  | mk name nodeAttribute materials fbxMat childs =>
    rw [FbxNode.nodes]
    rfl

theorem mem_skeletonNodes {node root : FbxNode K} :
    node ∈ root.skeletonNodes ↔ node ∈ root.nodes ∧ node.isSkeleton = true := List.mem_filter

/-- A subtree of skeleton nodes only. -/
theorem skeletonNodes_of_all {top : FbxNode K} (h : ∀ node ∈ top.nodes, node.isSkeleton = true) :
    top.skeletonNodes = top.nodes := List.filter_eq_self.mpr h

/-- The outcome of the search through `nodes`: nothing, or the first skeleton node, whose subtree
comes first among the skeleton nodes. -/
def FirstSkeleton (nodes : List (FbxNode K)) : Option (FbxNode K) → Prop
  | none => nodes.filter (·.isSkeleton) = []
  | some top => top.isSkeleton = true ∧
      ∃ rest, nodes.filter (·.isSkeleton) = top.skeletonNodes ++ rest

mutual

theorem findSkeletonRootRecursion_found : ∀ node : FbxNode K,
    FirstSkeleton node.nodes (findSkeletonRootRecursion node)
  | ⟨name, nodeAttribute, materials, fbxMat, childs⟩ => by
    rw [findSkeletonRootRecursion]
    by_cases hskel : FbxNode.isSkeleton ⟨name, nodeAttribute, materials, fbxMat, childs⟩ = true
    · rw [if_pos hskel]
      exact ⟨hskel, [], (List.append_nil _).symm⟩
    · rw [if_neg hskel]
      have hchilds := findSkeletonRootChilds_found childs
      have hfilter : (FbxNode.nodes ⟨name, nodeAttribute, materials, fbxMat, childs⟩).filter
          (·.isSkeleton) = (FbxNode.nodesChilds childs).filter (·.isSkeleton) := by
        rw [FbxNode.nodes, List.filter_cons_of_neg hskel]
      unfold FirstSkeleton at hchilds ⊢
      rw [hfilter]
      exact hchilds

theorem findSkeletonRootChilds_found : ∀ childs : List (FbxNode K),
    FirstSkeleton (FbxNode.nodesChilds childs) (findSkeletonRootChilds childs)
  | [] => by
    rw [findSkeletonRootChilds]
    rfl
  | child :: rest => by
    have hchild := findSkeletonRootRecursion_found child
    have hrest := findSkeletonRootChilds_found rest
    rw [findSkeletonRootChilds]
    cases hfind : findSkeletonRootRecursion child with
    | none =>
      rw [hfind] at hchild
      have hfilter : (FbxNode.nodesChilds (child :: rest)).filter (·.isSkeleton) =
          (FbxNode.nodesChilds rest).filter (·.isSkeleton) := by
        rw [FbxNode.nodesChilds, List.filter_append, hchild, List.nil_append]
      unfold FirstSkeleton at hrest ⊢
      rw [hfilter]
      exact hrest
    | some top =>
      rw [hfind] at hchild
      obtain ⟨hskel, more, hmore⟩ := hchild
      simp only [hskel, if_true]
      refine ⟨hskel, more ++ (FbxNode.nodesChilds rest).filter (·.isSkeleton), ?_⟩
      rw [FbxNode.nodesChilds, List.filter_append, hmore, List.append_assoc]

end

/-- One skeleton: its top is the node that is found. -/
theorem findSkeletonRootRecursion_top {rootNode top : FbxNode K}
    (h : rootNode.skeletonNodes = top.nodes) : findSkeletonRootRecursion rootNode = some top := by
  have hfound := findSkeletonRootRecursion_found rootNode
  have hhead := top.head?_nodes
  cases hfind : findSkeletonRootRecursion rootNode with
  | none =>
    rw [hfind] at hfound
    rw [← h, FbxNode.skeletonNodes, hfound] at hhead
    cases hhead
  | some r =>
    rw [hfind] at hfound
    obtain ⟨hskel, rest, hrest⟩ := hfound
    have hr : r.skeletonNodes.head? = some r := by
      obtain ⟨tail, htail⟩ := List.head?_eq_some_iff.mp r.head?_nodes
      rw [FbxNode.skeletonNodes, htail, List.filter_cons_of_pos hskel]
      rfl
    rw [← h, FbxNode.skeletonNodes, hrest, List.head?_append, hr] at hhead
    exact hhead

theorem findSkeletonRootRecursion_none {rootNode : FbxNode K} (h : rootNode.skeletonNodes = []) :
    findSkeletonRootRecursion rootNode = none := by
  have hfound := findSkeletonRootRecursion_found rootNode
  cases hfind : findSkeletonRootRecursion rootNode with
  | none => rfl
  | some top =>
    rw [hfind] at hfound
    obtain ⟨hskel, rest, hrest⟩ := hfound
    have hmem : top ∈ rootNode.skeletonNodes := by
      rw [FbxNode.skeletonNodes, hrest]
      exact List.mem_append_left _ (mem_skeletonNodes.mpr ⟨top.mem_nodes_self, hskel⟩)
    rw [h] at hmem
    cases hmem

end Search

section Made

variable {K : Type} [Field K]

/-- A bone that was made. -/
theorem importBone_made {boneList boneList' : PooledList (BoneNode K)} {node : FbxNode K}
    {parentBoneIdx idx : Nat}
    (h : importBone boneList node parentBoneIdx = some (boneList', idx)) :
    node.MakesBone ∧ boneList'.getSize = boneList.getSize + 1 ∧
      boneList'.capacity = boneList.capacity := by
  unfold importBone at h
  simp only [Option.bind_eq_bind, Option.bind_eq_some_iff] at h
  obtain ⟨newBone, h0, l1, h1, l2, h2, limbLength, hlimb, l3, h3, hret⟩ := h
  cases hret
  obtain ⟨_, hdata1, hcap1⟩ := PooledList.pushBack_some h1
  obtain ⟨hsize2, hcap2, _⟩ := linkToParent_some h2
  have hmod := PooledList.modify_some h3
  refine ⟨⟨?_, ?_⟩, ?_, by rw [hmod.capacity, hcap2, hcap1]⟩
  · rw [← node.isSome_limbLength, hlimb]
    rfl
  · rw [← BoneNode.isSome_new (K := K) node.name parentBoneIdx (toUint16 node.childs.length), h0]
    rfl
  · rw [hmod.size, hsize2, PooledList.getSize_concat hdata1]

mutual

/-- A recursion that did not fail met skeleton nodes with names that fit only, and made a bone of
each. -/
theorem importBoneToSkeletonRecursion_made : ∀ (node : FbxNode K)
    (boneList boneList' : PooledList (BoneNode K)) (parentBoneIdx : Nat),
    importBoneToSkeletonRecursion boneList node parentBoneIdx = some boneList' →
    (∀ n ∈ node.nodes, n.MakesBone) ∧
      boneList'.getSize = boneList.getSize + node.nodes.length ∧
      boneList'.capacity = boneList.capacity
  | ⟨name, nodeAttribute, materials, fbxMat, childs⟩, boneList, boneList', parentBoneIdx => by
    intro h
    unfold importBoneToSkeletonRecursion at h
    simp only [Option.bind_eq_bind, Option.bind_eq_some_iff] at h
    obtain ⟨⟨l1, idx⟩, hbone, hchilds⟩ := h
    obtain ⟨hskel, hsize1, hcap1⟩ := importBone_made hbone
    obtain ⟨hskels, hsize2, hcap2⟩ := importChildsToSkeleton_made childs l1 boneList' idx hchilds
    rw [FbxNode.nodes]
    refine ⟨fun n hn => ?_, ?_, hcap2.trans hcap1⟩
    · rcases List.mem_cons.mp hn with rfl | hn
      · exact hskel
      · exact hskels n hn
    · rw [List.length_cons]
      omega

theorem importChildsToSkeleton_made : ∀ (childs : List (FbxNode K))
    (boneList boneList' : PooledList (BoneNode K)) (idx : Nat),
    importChildsToSkeleton boneList childs idx = some boneList' →
    (∀ n ∈ FbxNode.nodesChilds childs, n.MakesBone) ∧
      boneList'.getSize = boneList.getSize + (FbxNode.nodesChilds childs).length ∧
      boneList'.capacity = boneList.capacity
  | [], boneList, boneList', idx => by
    intro h
    unfold importChildsToSkeleton at h
    cases h
    rw [FbxNode.nodesChilds]
    exact ⟨fun n hn => (nomatch hn), rfl, rfl⟩
  | child :: rest, boneList, boneList', idx => by
    intro h
    unfold importChildsToSkeleton at h
    simp only [Option.bind_eq_bind, Option.bind_eq_some_iff] at h
    obtain ⟨l1, hchild, hrest⟩ := h
    obtain ⟨hskel1, hsize1, hcap1⟩ :=
      importBoneToSkeletonRecursion_made child boneList l1 idx hchild
    obtain ⟨hskel2, hsize2, hcap2⟩ := importChildsToSkeleton_made rest l1 boneList' idx hrest
    rw [FbxNode.nodesChilds]
    refine ⟨fun n hn => ?_, ?_, hcap2.trans hcap1⟩
    · rcases List.mem_append.mp hn with hn | hn
      · exact hskel1 n hn
      · exact hskel2 n hn
    · rw [List.length_append]
      omega

end

end Made

section Scene

variable {K : Type} [Field K]

/-- The bone was made for the node. -/
structure BoneOf (node : FbxNode K) (bone : BoneNode K) : Prop where
  name : bone._boneName = node.name
  transform : bone._transform = extractTransformFromNode node .infinite
  length : node.limbLength = some bone._length

/-- The bones of the asset; without a skeleton none is made. -/
def importedBones : Option (SSSkeletonAsset K) → List (BoneNode K)
  | none => []
  | some skeleton => skeleton._boneList.data

/-- The import ends, so no node without a skeleton was asked for one; the bones are the skeleton
nodes of the scene, each once; and the bone of every skeleton node is found by its name. -/
def BonesAreSkeletonNodes (fileName : String) (rootNode : FbxNode K) : Prop :=
  ∃ result, importCurrentSceneToSkeletonAsset fileName rootNode = some result ∧
    (∃ made : List (FbxNode K), made.Perm rootNode.skeletonNodes ∧
      List.Forall₂ BoneOf made (importedBones result)) ∧
    ∀ node ∈ rootNode.skeletonNodes, findBoneIdxWithNameFromSkeleton
      ((importedBones result).map (·._boneName)) node.name ≠ -1

/-- The skeleton nodes are all the nodes of one subtree, or there are none; and their names, like
that of the asset they make, fit the arrays they are copied to. -/
def OneSkeleton (fileName : String) (rootNode : FbxNode K) : Prop :=
  rootNode.skeletonNodes = [] ∨
    (∃ top ∈ rootNode.nodes, rootNode.skeletonNodes = top.nodes ∧ top.nodes.length ≤ 65535) ∧
      (∀ node ∈ rootNode.skeletonNodes, FitsAssetName node.name) ∧
      FitsAssetName (fileName ++ ".skl")

theorem limbLength_of_isSkeleton {node : FbxNode K} (h : node.isSkeleton = true) :
    node.limbLength = some (node.limbLength.getD 0) := by
  obtain ⟨limbLength, hlimb⟩ := Option.isSome_iff_exists.mp (node.isSome_limbLength.trans h)
  rw [hlimb]
  rfl

/-- Bones with the labels of skeleton nodes were made for them. -/
theorem forall₂_boneOf : ∀ (nodes : List (FbxNode K)) (bones : List (BoneNode K)),
    (∀ node ∈ nodes, node.isSkeleton = true) →
    bones.map (fun bone => (boneEntry bone).label) = nodes.map nodeLabel →
    List.Forall₂ BoneOf nodes bones := by
  intro nodes
  induction nodes with
  | nil =>
    intro bones _ hlabels
    obtain rfl := List.map_eq_nil_iff.mp hlabels
    exact List.Forall₂.nil
  | cons node nodes ih =>
    intro bones hskel hlabels
    cases bones with
    | nil => cases hlabels
    | cons bone bones =>
      obtain ⟨hlabel, hlabels⟩ := List.cons.inj hlabels
      refine List.Forall₂.cons ⟨?_, ?_, ?_⟩
        (ih bones (fun n hn => hskel n (List.mem_cons_of_mem _ hn)) hlabels)
      · exact congrArg BoneLabel.boneName hlabel
      · exact congrArg BoneLabel.transform hlabel
      · rw [limbLength_of_isSkeleton (hskel node (List.mem_cons_self ..))]
        exact congrArg some (congrArg BoneLabel.length hlabel).symm

theorem bones_found {made nodes : List (FbxNode K)} {bones : List (BoneNode K)}
    (hperm : made.Perm nodes) (hbones : List.Forall₂ BoneOf made bones) {node : FbxNode K}
    (hnode : node ∈ nodes) :
    findBoneIdxWithNameFromSkeleton (bones.map (·._boneName)) node.name ≠ -1 := by
  have hnames : bones.map (·._boneName) = made.map (·.name) := by
    refine List.forall₂_eq_eq_eq ▸ ?_
    rw [List.forall₂_map_left_iff, List.forall₂_map_right_iff]
    exact hbones.flip.imp fun _ _ h => h.name
  obtain ⟨i, _, hi⟩ := findBoneIdx_of_mem
    (List.mem_map_of_mem (f := (·.name)) (hperm.mem_iff.mpr hnode))
  rw [hnames, hi]
  omega

/-- The import of a scene whose skeleton nodes are the subtree of `top`. -/
theorem importCurrentSceneToSkeletonAsset_top {rootNode top : FbxNode K} {fileName : String}
    (hfind : findSkeletonRootRecursion rootNode = some top)
    (hbones : ∀ node ∈ top.nodes, node.MakesBone) (hsize : top.nodes.length ≤ 65535)
    (hfile : FitsAssetName (fileName ++ ".skl")) :
    ∃ boneList, importCurrentSceneToSkeletonAsset fileName rootNode =
        some (some { _assetName := fileName ++ ".skl", _boneList := boneList }) ∧
      List.Forall₂ BoneOf top.nodes boneList.data := by
  obtain ⟨boneList, hrun, hlayout, _⟩ := importBoneToSkeletonRecursion_root hbones hsize
  have hcount : toUint16 (findFbxNodeWholeChildCnt top : Nat) = top.nodes.length := by
    rw [findFbxNodeWholeChildCnt_eq, toUint32_natCast (by omega), toUint16_natCast (by omega)]
  refine ⟨boneList, ?_, forall₂_boneOf _ _ (fun node hnode => (hbones node hnode).isSkeleton) ?_⟩
  · unfold importCurrentSceneToSkeletonAsset
    simp only [hfind, hcount, hrun, fixedAssetName_of_fits hfile, Option.bind_eq_bind,
      Option.bind_some]
  · rw [← labels_nodeTree, ← layout_labels (nodeTree top) 0 none, ← hlayout]
    unfold boneEntries
    rw [List.map_map]
    rfl

/-- What an import that ends tells about the scene. -/
theorem importCurrentSceneToSkeletonAsset_made {fileName : String} {rootNode : FbxNode K}
    {result : Option (SSSkeletonAsset K)}
    (h : importCurrentSceneToSkeletonAsset fileName rootNode = some result) :
    (rootNode.skeletonNodes = [] ∧ result = none) ∨ ∃ (top : FbxNode K) (rest : List (FbxNode K)),
      rootNode.skeletonNodes = top.nodes ++ rest ∧
        (importedBones result).length = top.nodes.length ∧ top.nodes.length ≤ 65535 ∧
        (∀ node ∈ top.nodes, FitsAssetName node.name) ∧ FitsAssetName (fileName ++ ".skl") := by
  have hfound := findSkeletonRootRecursion_found rootNode
  unfold importCurrentSceneToSkeletonAsset at h
  cases hfind : findSkeletonRootRecursion rootNode with
  | none =>
    rw [hfind] at hfound h
    cases h
    exact Or.inl ⟨hfound, rfl⟩
  | some top =>
    rw [hfind] at hfound h
    obtain ⟨_, rest, hrest⟩ := hfound
    simp only [Option.bind_eq_bind, Option.bind_eq_some_iff] at h
    obtain ⟨boneList, hrun, assetName, hname, heq⟩ := h
    obtain ⟨hfile, rfl⟩ := fixedAssetName_eq_some.mp hname
    cases heq
    obtain ⟨hbones, hsize, hcap⟩ := importBoneToSkeletonRecursion_made top _ boneList _ hrun
    have hlength : boneList.data.length = top.nodes.length := by
      have hnew : (PooledList.new (toUint16 (findFbxNodeWholeChildCnt top : Nat)) :
        PooledList (BoneNode K)).getSize = 0 := rfl
      rw [hnew, Nat.zero_add] at hsize
      exact hsize
    refine Or.inr ⟨top, rest, ?_, hlength, ?_, fun node hnode => (hbones node hnode).name_fits,
      hfile⟩
    · rw [← skeletonNodes_of_all fun node hnode => (hbones node hnode).isSkeleton]
      exact hrest
    · have hle := boneList.size_le
      have hlt := toUint16_lt (findFbxNodeWholeChildCnt top : Nat)
      rw [hcap, PooledList.new_capacity, hlength] at hle
      omega

/-- The bones can be the skeleton nodes only when these are one whole subtree. -/
theorem oneSkeleton_of_bones {fileName : String} {rootNode : FbxNode K}
    (h : BonesAreSkeletonNodes fileName rootNode) : OneSkeleton fileName rootNode := by
  obtain ⟨result, himport, ⟨made, hperm, hbones⟩, _⟩ := h
  rcases importCurrentSceneToSkeletonAsset_made himport with ⟨hnone, _⟩ | ⟨top, rest, h⟩
  · exact Or.inl hnone
  · obtain ⟨hnodes, hlength, hsize, hnames, hfile⟩ := h
    -- as many bones as skeleton nodes leave nothing beside the subtree
    have hrest : rest = [] := by
      have h1 := hperm.length_eq
      have h2 := hbones.length_eq
      rw [hnodes, List.length_append] at h1
      exact List.length_eq_zero_iff.mp (by omega)
    rw [hrest, List.append_nil] at hnodes
    refine Or.inr ⟨⟨top, ?_, hnodes, hsize⟩, by rwa [hnodes], hfile⟩
    exact (mem_skeletonNodes.mp (hnodes ▸ top.mem_nodes_self)).1

theorem bones_of_oneSkeleton {fileName : String} {rootNode : FbxNode K}
    (h : OneSkeleton fileName rootNode) : BonesAreSkeletonNodes fileName rootNode := by
  rcases h with hnone | ⟨⟨top, _, hnodes, hsize⟩, hnames, hfile⟩
  · refine ⟨none, ?_, ⟨[], ?_, List.Forall₂.nil⟩, ?_⟩
    · unfold importCurrentSceneToSkeletonAsset
      simp only [findSkeletonRootRecursion_none hnone]
    · rw [hnone]
    · rw [hnone]
      exact fun node hnode => (nomatch hnode)
  · have hmakes : ∀ node ∈ top.nodes, node.MakesBone := by
      intro node hnode
      rw [← hnodes] at hnode
      exact ⟨(mem_skeletonNodes.mp hnode).2, hnames node hnode⟩
    obtain ⟨boneList, himport, hbones⟩ := importCurrentSceneToSkeletonAsset_top
      (findSkeletonRootRecursion_top hnodes) hmakes hsize hfile
    have hperm : top.nodes.Perm rootNode.skeletonNodes := by rw [hnodes]
    exact ⟨_, himport, ⟨top.nodes, hperm, hbones⟩, fun node hnode =>
      bones_found hperm hbones hnode⟩

/-- The bones are the skeleton nodes of the scene exactly when these are one whole subtree that
16-bit indices can number, with names that fit. -/
theorem bones_are_skeleton_nodes_iff (fileName : String) (rootNode : FbxNode K) :
    BonesAreSkeletonNodes fileName rootNode ↔ OneSkeleton fileName rootNode :=
  ⟨oneSkeleton_of_bones, bones_of_oneSkeleton⟩

end Scene

section Scenes

/-- A node that carries no skeleton, as a group or the root of a scene. -/
def groupNode (name : String) (childs : List (FbxNode ℚ)) : FbxNode ℚ where
  name := name
  nodeAttribute := none
  materials := []
  fbxMat := fun _ => ⟨fun _ => 0, fun _ => 1, Quaternion.one⟩
  childs := childs

/-- A prop held by a bone is asked for its skeleton, and a second skeleton gets no bones. -/
theorem bones_are_not_skeleton_nodes :
    ¬ BonesAreSkeletonNodes "held.fbx"
        (groupNode "root" [jointNode "hand" [groupNode "sword" []]]) ∧
      ¬ BonesAreSkeletonNodes "pair.fbx"
        (groupNode "root" [jointNode "man" [], jointNode "horse" []]) := by
  constructor
  · intro h
    have hone := oneSkeleton_of_bones h
    simp [OneSkeleton, FbxNode.skeletonNodes, FbxNode.nodes, FbxNode.nodesChilds,
      FbxNode.isSkeleton, groupNode, jointNode] at hone
  · intro h
    have hone := oneSkeleton_of_bones h
    simp [OneSkeleton, FbxNode.skeletonNodes, FbxNode.nodes, FbxNode.nodesChilds,
      FbxNode.isSkeleton, groupNode, jointNode] at hone

end Scenes

end FBXRenderer

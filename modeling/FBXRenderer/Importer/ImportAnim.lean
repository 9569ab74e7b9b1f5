import FBXRenderer.Asset.FrameRead

/-!
# FBXRenderer.Importer.ImportAnim

`ImportCurrentSceneToSkeletonAnimAsset` (`SSFBXImporter.cpp`): every bone's node is evaluated at
every frame of the take. The loops run over the bones outside and over the scene's frame numbers
inside, and the animation stack is stored frame by frame.

* `importBones_eq_calls`: the loops are one list of calls of `SetAnimStackTransform`.
* `skeleton_anim_imported`: every entry of the stack is set by one of them, to the transform of its
  bone at its frame; and what is read from the stack at a time.
-/

namespace FBXRenderer

open SS

/-- The frame numbers of a take's start and end, at 24 frames per second. -/
structure FbxTakeInfo where
  frameStart : Int
  frameEnd : Int

def FbxTakeInfo.frameCnt (takeInfo : FbxTakeInfo) : Int :=
  takeInfo.frameEnd - takeInfo.frameStart + 1

section Import

variable {K : Type} [Field K]

/-- The loop over the frames from `frameIdx` on. -/
def importBoneFrames (skeletonIdx : Nat) (currentNode : FbxNode K) (takeInfo : FbxTakeInfo)
    (frameIdx : Int) (skeletonAnimAsset : SSSkeletonAnimAsset K) :
    Option (SSSkeletonAnimAsset K) :=
  if frameIdx ≤ takeInfo.frameEnd then do
    let transform := extractTransformFromNode currentNode (.frame frameIdx)
    let skeletonAnimAsset ← skeletonAnimAsset.setAnimStackTransform skeletonIdx
      (toUint32 (frameIdx - takeInfo.frameStart)) transform
    importBoneFrames skeletonIdx currentNode takeInfo (frameIdx + 1) skeletonAnimAsset
  else some skeletonAnimAsset
termination_by (takeInfo.frameEnd + 1 - frameIdx).toNat

/-- The loop over the bones; the scene finds a node under the name of each. -/
def importBones (bones : PooledList (BoneNode K)) (findNodeByName : String → Option (FbxNode K))
    (takeInfo : FbxTakeInfo) (skeletonAnimAsset : SSSkeletonAnimAsset K) :
    Option (SSSkeletonAnimAsset K) :=
  (List.range bones.getSize).foldlM (fun skeletonAnimAsset skeletonIdx => do
    let bone ← bones.get skeletonIdx
    let currentNode ← findNodeByName bone._boneName
    importBoneFrames skeletonIdx currentNode takeInfo takeInfo.frameStart skeletonAnimAsset)
    skeletonAnimAsset

/-- The inner `none` is a scene without an animation, or without its skeleton. -/
def importCurrentSceneToSkeletonAnimAsset (_fileName : String)
    (currAnimStack : Option FbxTakeInfo)
    (findAssetWithName : String → Option (SSSkeletonAsset K))
    (findNodeByName : String → Option (FbxNode K)) : Option (Option (SSSkeletonAnimAsset K)) :=
  match currAnimStack with
  | none => some none
  | some takeInfo =>
    match findAssetWithName (_fileName ++ ".skl") with
    | none => some none
    | some skeletonAsset => do
      let skeletonAnimAsset ← SSSkeletonAnimAsset.new (_fileName ++ ".ska") skeletonAsset
        (toUint32 takeInfo.frameCnt) 24
      let skeletonAnimAsset ←
        importBones skeletonAsset._boneList findNodeByName takeInfo skeletonAnimAsset
      some (some skeletonAnimAsset)

end Import

section Calls

variable {K : Type}

/-- A call of `SetAnimStackTransform`. -/
structure AnimCall (K : Type) where
  skeletonIdx : Nat
  frameIdx : Nat
  transform : Transform K

def AnimCall.apply (skeletonAnimAsset : SSSkeletonAnimAsset K) (c : AnimCall K) :
    Option (SSSkeletonAnimAsset K) :=
  skeletonAnimAsset.setAnimStackTransform c.skeletonIdx c.frameIdx c.transform

/-- The entry of the stack that the call sets. -/
def AnimCall.entry (boneCnt : Nat) (c : AnimCall K) : Nat :=
  toUint32 (boneCnt * c.frameIdx + c.skeletonIdx : Nat)

/-- A list of calls that stay in the stack. -/
theorem apply_all : ∀ (calls : List (AnimCall K)) (asset : SSSkeletonAnimAsset K),
    (∀ c ∈ calls, c.entry asset.boneCnt < asset._animStack.data.length) →
    ∃ animStack, calls.foldlM AnimCall.apply asset =
        some { asset with _animStack := animStack } ∧
      animStack.data = GridWrites.writeAll asset._animStack.data
        (calls.map fun c => (c.entry asset.boneCnt, c.transform)) := by
  intro calls
  induction calls with
  | nil =>
    intro asset _
    exact ⟨asset._animStack, rfl, rfl⟩
  | cons c calls ih =>
    intro asset hin
    have hc := hin c (List.mem_cons_self ..)
    obtain ⟨stack1, hset, hdata⟩ : ∃ stack1,
        asset._animStack.set (c.entry asset.boneCnt) c.transform = some stack1 ∧
          stack1.data = asset._animStack.data.set (c.entry asset.boneCnt) c.transform := by
      unfold PooledList.set
      rw [if_pos hc]
      exact ⟨_, rfl, rfl⟩
    have happly : AnimCall.apply asset c = some { asset with _animStack := stack1 } := by
      unfold AnimCall.apply SSSkeletonAnimAsset.setAnimStackTransform
      rw [show toUint32 _ = c.entry asset.boneCnt from rfl, hset]
      rfl
    obtain ⟨stack2, hrun, hdata2⟩ := ih { asset with _animStack := stack1 } (by
      intro c' hc'
      show _ < stack1.data.length
      rw [hdata, List.length_set]
      exact hin c' (List.mem_cons_of_mem _ hc'))
    refine ⟨stack2, ?_, ?_⟩
    · rw [List.foldlM_cons, happly]
      exact hrun
    · rw [hdata2, hdata]
      rfl

variable [Field K]

/-- The calls for `n` frames of a bone, from `frameIdx` on. -/
def boneCalls (skeletonIdx : Nat) (currentNode : FbxNode K) (takeInfo : FbxTakeInfo)
    (frameIdx : Int) (n : Nat) : List (AnimCall K) :=
  (List.range n).map fun i : Nat =>
    { skeletonIdx := skeletonIdx
      frameIdx := toUint32 (frameIdx + i - takeInfo.frameStart)
      transform := extractTransformFromNode currentNode (.frame (frameIdx + i)) }

theorem importBoneFrames_eq_calls (skeletonIdx : Nat) (currentNode : FbxNode K)
    (takeInfo : FbxTakeInfo) : ∀ (n : Nat) (frameIdx : Int) (asset : SSSkeletonAnimAsset K),
    (takeInfo.frameEnd + 1 - frameIdx).toNat = n →
    importBoneFrames skeletonIdx currentNode takeInfo frameIdx asset =
      (boneCalls skeletonIdx currentNode takeInfo frameIdx n).foldlM AnimCall.apply asset := by
  intro n
  induction n with
  | zero =>
    intro frameIdx asset hn
    rw [importBoneFrames, if_neg (by omega)]
    rfl
  | succ n ih =>
    intro frameIdx asset hn
    have htail : boneCalls skeletonIdx currentNode takeInfo frameIdx (n + 1) =
        { skeletonIdx := skeletonIdx
          frameIdx := toUint32 (frameIdx - takeInfo.frameStart)
          transform := extractTransformFromNode currentNode (.frame frameIdx) } ::
        boneCalls skeletonIdx currentNode takeInfo (frameIdx + 1) n := by
      unfold boneCalls
      rw [List.range_succ_eq_map, List.map_cons, List.map_map]
      simp only [Nat.cast_zero, add_zero, Function.comp_def, Nat.cast_succ, add_assoc,
        add_comm (1 : Int)]
    rw [importBoneFrames, if_pos (by omega), htail, List.foldlM_cons]
    refine bind_congr fun asset1 => ?_
    exact ih (frameIdx + 1) asset1 (by omega)

/-- The calls for all bones. -/
def animCalls (bones : PooledList (BoneNode K)) (findNodeByName : String → Option (FbxNode K))
    (takeInfo : FbxTakeInfo) : Option (List (AnimCall K)) :=
  ((List.range bones.getSize).mapM fun skeletonIdx => do
    let bone ← bones.get skeletonIdx
    let currentNode ← findNodeByName bone._boneName
    some (boneCalls skeletonIdx currentNode takeInfo takeInfo.frameStart
      takeInfo.frameCnt.toNat)).map List.flatten

theorem importBones_eq_calls (bones : PooledList (BoneNode K))
    (findNodeByName : String → Option (FbxNode K)) (takeInfo : FbxTakeInfo)
    (asset : SSSkeletonAnimAsset K) :
    importBones bones findNodeByName takeInfo asset =
      (animCalls bones findNodeByName takeInfo).bind fun calls =>
        calls.foldlM AnimCall.apply asset := by
  unfold importBones animCalls
  rw [← GridWrites.foldlM_flatten]
  congr 1
  funext asset skeletonIdx
  simp only [Option.bind_eq_bind, Option.bind_assoc, Option.bind_some]
  refine Option.bind_congr fun bone _ => Option.bind_congr fun currentNode _ => ?_
  refine importBoneFrames_eq_calls skeletonIdx currentNode takeInfo _ _ asset ?_
  unfold FbxTakeInfo.frameCnt
  omega

end Calls

section Filled

variable {K : Type} [Field K]

/-- Every bone's node is the one that the scene finds under the bone's name. -/
def NodesFound (bones : PooledList (BoneNode K)) (findNodeByName : String → Option (FbxNode K))
    (node : Nat → FbxNode K) : Prop :=
  ∀ b bone, bones.data[b]? = some bone → findNodeByName bone._boneName = some (node b)

theorem animCalls_eq {bones : PooledList (BoneNode K)}
    {findNodeByName : String → Option (FbxNode K)} {node : Nat → FbxNode K}
    (hnode : NodesFound bones findNodeByName node) (takeInfo : FbxTakeInfo) :
    animCalls bones findNodeByName takeInfo = some ((List.range bones.getSize).flatMap fun b =>
      boneCalls b (node b) takeInfo takeInfo.frameStart takeInfo.frameCnt.toNat) := by
  unfold animCalls
  rw [GridWrites.mapM_some (h := fun b => boneCalls b (node b) takeInfo takeInfo.frameStart
    takeInfo.frameCnt.toNat), List.flatMap_def]
  · rfl
  · intro b hb
    have hlt : b < bones.data.length := List.mem_range.mp hb
    have hget : bones.data[b]? = some bones.data[b] := List.getElem?_eq_getElem hlt
    simp only [PooledList.get_eq, hget, hnode b _ hget, Option.bind_eq_bind, Option.bind_some]

/-- No index wraps: a call sets the entry of its bone in the row of its frame. -/
theorem boneCalls_writes {B F b : Nat} (hb : b < B) (hsize : B * F < 2 ^ 32)
    (currentNode : FbxNode K) (takeInfo : FbxTakeInfo) :
    (boneCalls b currentNode takeInfo takeInfo.frameStart F).map
        (fun c => (c.entry B, c.transform)) =
      (List.range F).map fun f : Nat => (B * f + b,
        extractTransformFromNode currentNode (.frame (takeInfo.frameStart + f))) := by
  unfold boneCalls
  rw [List.map_map]
  refine List.map_congr_left fun f hf => ?_
  have hlt : B * f + b < B * F := GridWrites.entry_lt hb (List.mem_range.mp hf)
  have hle : 1 * f ≤ B * f := Nat.mul_le_mul_right f (Nat.lt_of_le_of_lt (Nat.zero_le b) hb)
  have hframe : toUint32 (takeInfo.frameStart + f - takeInfo.frameStart) = f := by
    rw [add_sub_cancel_left, toUint32_natCast (by omega)]
  simp only [Function.comp_apply, AnimCall.entry, hframe]
  rw [toUint32_natCast (by omega)]

/-- The calls that fill the stack of the asset, one for each entry, and what the stack holds. -/
structure StackFilled (findNodeByName : String → Option (FbxNode K)) (takeInfo : FbxTakeInfo)
    (node : Nat → FbxNode K) (asset : SSSkeletonAnimAsset K) : Prop where
  calls : ∃ new calls,
    SSSkeletonAnimAsset.new asset._assetName asset._skeleton asset._frameCnt
      asset._framePerSec = some new ∧
    animCalls asset._skeleton._boneList findNodeByName takeInfo = some calls ∧
    calls.foldlM AnimCall.apply new = some asset ∧
    (calls.map (·.entry asset.boneCnt)).Perm (List.range (asset.boneCnt * asset._frameCnt))
  length : asset._animStack.data.length = asset.boneCnt * asset._frameCnt
  entry : ∀ b f : Nat, b < asset.boneCnt → f < asset._frameCnt →
    asset._animStack.data[asset.boneCnt * f + b]? =
      some (extractTransformFromNode (node b) (.frame (takeInfo.frameStart + f)))

theorem new_assetName {assetName : String} {skeleton : SSSkeletonAsset K} {F fps : Nat}
    {new : SSSkeletonAnimAsset K}
    (h : SSSkeletonAnimAsset.new assetName skeleton F fps = some new) :
    new._assetName = assetName := by
  unfold SSSkeletonAnimAsset.new at h
  simp only [Option.bind_eq_bind, Option.bind_eq_some_iff, Option.some_inj] at h
  obtain ⟨_, _, _, _, rfl⟩ := h
  rfl

/-- The loops on a new asset with `F` frames. -/
theorem importBones_filled {skeleton : SSSkeletonAsset K}
    {findNodeByName : String → Option (FbxNode K)} {node : Nat → FbxNode K}
    (hnode : NodesFound skeleton._boneList findNodeByName node) {takeInfo : FbxTakeInfo}
    {F : Nat} (hF : takeInfo.frameCnt.toNat = F)
    (hsize : skeleton._boneList.getSize * F < 2 ^ 32) (assetName : String) (fps : Nat) :
    ∃ new asset, SSSkeletonAnimAsset.new assetName skeleton F fps = some new ∧
      importBones skeleton._boneList findNodeByName takeInfo new = some asset ∧
      asset._skeleton = skeleton ∧ asset._frameCnt = F ∧ asset._framePerSec = fps ∧
      StackFilled findNodeByName takeInfo node asset := by
  obtain ⟨new, hnew, hfull, hskel, hcnt, hfps⟩ :=
    SSSkeletonAnimAsset.new_stackFull assetName skeleton F fps hsize
  subst hskel hcnt hfps
  have hcalls := animCalls_eq hnode takeInfo
  obtain ⟨calls, hcallsEq⟩ : ∃ calls, calls = (List.range new.boneCnt).flatMap fun b =>
    boneCalls b (node b) takeInfo takeInfo.frameStart takeInfo.frameCnt.toNat := ⟨_, rfl⟩
  have hrows : calls.map (fun c => (c.entry new.boneCnt, c.transform)) =
      (List.range new.boneCnt).flatMap fun b => (List.range new._frameCnt).map fun f : Nat =>
        (new.boneCnt * f + b,
          extractTransformFromNode (node b) (.frame (takeInfo.frameStart + f))) := by
    rw [hcallsEq, hF, List.map_flatMap]
    refine List.flatMap_congr fun b hb => ?_
    exact boneCalls_writes (List.mem_range.mp hb) hsize (node b) takeInfo
  have hentries : calls.map (·.entry new.boneCnt) =
      (calls.map fun c => (c.entry new.boneCnt, c.transform)).map Prod.fst := by
    rw [List.map_map]
    rfl
  have hperm : (calls.map (·.entry new.boneCnt)).Perm
      (List.range (new.boneCnt * new._frameCnt)) := by
    rw [hentries, hrows, List.map_flatMap]
    simp only [List.map_map, Function.comp_def]
    exact GridWrites.columns_perm new.boneCnt new._frameCnt
  have hin : ∀ c ∈ calls, c.entry new.boneCnt < new._animStack.data.length := by
    intro c hc
    rw [hfull.length]
    exact List.mem_range.mp (hperm.mem_iff.mp (List.mem_map_of_mem hc))
  obtain ⟨animStack, hrun, hdata⟩ := apply_all calls new hin
  have hlength : animStack.data.length = new.boneCnt * new._frameCnt := by
    rw [hdata, GridWrites.writeAll_length, hfull.length]
  refine ⟨new, { new with _animStack := animStack }, hnew, ?_, rfl, rfl, rfl,
    ⟨new, calls, ?_, ?_, hrun, hperm⟩, hlength, ?_⟩
  · rw [importBones_eq_calls, hcalls, Option.bind_some, ← hrun, hcallsEq]
    rfl
  · rw [← hnew, new_assetName hnew]
  · rw [hcalls, hcallsEq]
    rfl
  · intro b f hb hf
    show animStack.data[new.boneCnt * f + b]? = _
    rw [hdata]
    have hwrite : (new.boneCnt * f + b,
        extractTransformFromNode (node b) (.frame (takeInfo.frameStart + f))) ∈
          calls.map fun c => (c.entry new.boneCnt, c.transform) := by
      rw [hrows]
      exact List.mem_flatMap.mpr ⟨b, List.mem_range.mpr hb,
        List.mem_map.mpr ⟨f, List.mem_range.mpr hf, rfl⟩⟩
    refine GridWrites.writeAll_of_mem _ _ ?_ hwrite ?_
    · rw [← hentries]
      exact hperm.nodup_iff.mpr List.nodup_range
    · rw [hfull.length]
      exact GridWrites.entry_lt hb hf

variable [LinearOrder K] [IsStrictOrderedRing K] [FloorRing K]

/-- For every skeleton and take, with a node for each bone: every entry of the stack is set by
exactly one call, to the transform of its bone at its frame; and at every time from 0 on the
entries of the bones in the frame of the time and in the next one, or the last, are blended. -/
theorem skeleton_anim_imported (dx : DirectXMath K) (fileName : String) {takeInfo : FbxTakeInfo}
    {findAssetWithName : String → Option (SSSkeletonAsset K)} {skeleton : SSSkeletonAsset K}
    (hfind : findAssetWithName (fileName ++ ".skl") = some skeleton)
    {findNodeByName : String → Option (FbxNode K)} {node : Nat → FbxNode K}
    (hnode : NodesFound skeleton._boneList findNodeByName node)
    (hbones : 1 ≤ skeleton._boneList.getSize) (hframes : 1 ≤ takeInfo.frameCnt)
    (hsize : skeleton._boneList.getSize * takeInfo.frameCnt < 2 ^ 32) :
    ∃ asset, importCurrentSceneToSkeletonAnimAsset fileName (some takeInfo) findAssetWithName
        findNodeByName = some (some asset) ∧
      asset._skeleton = skeleton ∧ (asset._frameCnt : Int) = takeInfo.frameCnt ∧
      asset._framePerSec = 24 ∧ StackFilled findNodeByName takeInfo node asset ∧
      ∀ time, 0 ≤ time → ∃ k alpha, SSSkeletonAnimAsset.FramesRead dx asset time k alpha := by
  obtain ⟨F, hF⟩ := Int.eq_ofNat_of_zero_le (show 0 ≤ takeInfo.frameCnt by omega)
  have hsizeNat : skeleton._boneList.getSize * F < 2 ^ 32 := by
    rw [hF] at hsize
    exact_mod_cast hsize
  have hF32 : F < 2 ^ 32 := by
    have hle : 1 * F ≤ skeleton._boneList.getSize * F := Nat.mul_le_mul_right F hbones
    omega
  obtain ⟨new, asset, hnew, hrun, hskel, hcnt, hfps, hfilled⟩ := importBones_filled hnode
    (show takeInfo.frameCnt.toNat = F by omega) hsizeNat (fileName ++ ".ska") 24
  have hboneCnt : asset.boneCnt = skeleton._boneList.getSize := by
    unfold SSSkeletonAnimAsset.boneCnt
    rw [hskel]
  have hfull : asset.StackFull := by
    refine ⟨hfilled.length, ?_⟩
    rw [hfilled.length, hboneCnt, hcnt]
    exact hsizeNat
  refine ⟨asset, ?_, hskel, by omega, hfps, hfilled, fun time htime => ?_⟩
  · unfold importCurrentSceneToSkeletonAnimAsset
    have hcount : toUint32 takeInfo.frameCnt = F := by rw [hF, toUint32_natCast hF32]
    simp only [hfind, hcount, hnew, hrun, Option.bind_eq_bind, Option.bind_some]
  · exact SSSkeletonAnimAsset.updateGPUBufferFrameState_reads hfull (by omega) (by omega)
      (by omega) htime

end Filled

section Leg

/-- Three frames of a leg, from frame 5 on. -/
theorem skeleton_anim_imported_leg :
    let findNodeByName := fun name => if name = "hip" then some hipNode else some kneeNode
    let node := fun i => if i = 0 then hipNode else kneeNode
    ∃ asset, importCurrentSceneToSkeletonAnimAsset "leg" (some ⟨5, 7⟩)
        (fun name => if name = "leg.skl" then some legSkeleton else none) findNodeByName =
          some (some asset) ∧
      asset._skeleton = legSkeleton ∧ (asset._frameCnt : Int) = 3 ∧
      asset._framePerSec = 24 ∧ StackFilled findNodeByName ⟨5, 7⟩ node asset ∧
      ∀ time, 0 ≤ time → ∃ k alpha,
        SSSkeletonAnimAsset.FramesRead (DirectXMath.exact ℚ) asset time k alpha := by
  intro findNodeByName node
  refine skeleton_anim_imported (DirectXMath.exact ℚ) "leg" rfl (fun i bone hbone => ?_) (by decide)
    (by decide) (by decide)
  match i with
  | 0 | 1 =>
    cases hbone
    rfl

end Leg

end FBXRenderer

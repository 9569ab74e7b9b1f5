import FBXRenderer.Importer.SkinSlots

/-!
# FBXRenderer.Importer.SkinWeights

What the cluster loop leaves in the four slots of a vertex.

A weight at or below the threshold is added to the slot the next bone will take. If no such bone
follows, the slot stays without a bone and the shader never reads it: `shader_sum_iff` says that
exactly the weights after the last one above the threshold are lost. And since such a weight does
not advance the bone count, a fifth influence can be stored past the fourth slot of a skin that the
closing check accepts: `slots_in_range_iff`.
-/

namespace FBXRenderer

open SS

section Slots

variable {K : Type} [Field K]

theorem writeSlot_apply {α : Type} (slots : Fin VERTEX_SKINNING_BONE_COUNT_MAX → α) (b : Nat)
    (f : α → α) (i : Fin VERTEX_SKINNING_BONE_COUNT_MAX) :
    writeSlot slots b f i = if i.val = b then f (slots i) else slots i := by
  unfold writeSlot
  by_cases hb : b < VERTEX_SKINNING_BONE_COUNT_MAX
  · rw [dif_pos hb, Function.update_apply]
    by_cases hi : i = ⟨b, hb⟩
    · subst hi
      rw [if_pos rfl, if_pos rfl]
    · rw [if_neg hi, if_neg fun e => hi (Fin.ext e)]
  · rw [dif_neg hb, if_neg fun hi : i.val = b => hb (hi ▸ i.isLt)]

theorem sum_writeSlot (slots : Fin VERTEX_SKINNING_BONE_COUNT_MAX → K) {b : Nat}
    (hb : b < VERTEX_SKINNING_BONE_COUNT_MAX) (w : K) :
    ∑ i, writeSlot slots b (· + w) i = (∑ i, slots i) + w := by
  have hsplit : ∀ i, writeSlot slots b (· + w) i = slots i + if i = ⟨b, hb⟩ then w else 0 := by
    intro i
    rw [writeSlot_apply]
    by_cases hi : i = ⟨b, hb⟩
    · subst hi
      rw [if_pos rfl, if_pos rfl]
    · rw [if_neg hi, if_neg fun e => hi (Fin.ext e), add_zero]
  rw [Finset.sum_congr rfl fun i _ => hsplit i, Finset.sum_add_distrib, Finset.sum_ite_eq']
  simp

theorem sum_takeWhile_lt (f : Fin 4 → K) (n : Nat) :
    (((List.finRange 4).takeWhile fun i => decide (i.val < n)).map f).sum =
      ∑ i, if i.val < n then f i else 0 := by
  have hrange : List.finRange 4 = [0, 1, 2, 3] := rfl
  rw [hrange, Fin.sum_univ_four]
  rcases Nat.lt_or_ge n 4 with hlt | hge
  · obtain rfl | rfl | rfl | rfl : n = 0 ∨ n = 1 ∨ n = 2 ∨ n = 3 := by omega
    all_goals simp [List.takeWhile, add_assoc]
  · have hall : ∀ i : Fin 4, i.val < n := fun i => by omega
    simp only [hall, decide_true, if_true]
    simp [List.takeWhile, add_assoc]

/-- The shader reads the slots below `n` when exactly these have a bone. -/
theorem shaderWeightSum_eq {v : SSSkinnedVertex K} {n : Nat}
    (h : ∀ i, v.BoneIdx i ≠ SS_UINT32_MAX ↔ i.val < n) :
    shaderWeightSum v = ∑ i, if i.val < n then v.Weight i else 0 := by
  have hdec : ∀ i, decide (v.BoneIdx i ≠ SS_UINT32_MAX) = decide (i.val < n) := by
    intro i
    simp only [h i]
  unfold shaderWeightSum
  simp only [hdec]
  exact sum_takeWhile_lt v.Weight n

theorem weightSum_concat (es : List (Influence K)) (e : Influence K) :
    weightSum (es ++ [e]) = weightSum es + e.weight := by
  simp [weightSum]

variable [LinearOrder K]

theorem trailingSum_concat (es : List (Influence K)) (e : Influence K) :
    trailingSum (es ++ [e]) = if e.Above then 0 else trailingSum es + e.weight := by
  unfold trailingSum
  rw [List.reverse_append, List.reverse_singleton, List.singleton_append, List.takeWhile_cons]
  by_cases ha : e.Above
  · simp [ha]
  · simp [ha, add_comm]

theorem countAbove_le (es : List (Influence K)) : countAbove es ≤ es.length :=
  List.countP_le_length

/-- The slots of a vertex after at most four influences: the bones are the first `countAbove`
slots, the next slot holds what came after the last bone, and no weight is missing. -/
structure SlotsHold (es : List (Influence K)) (v : SSSkinnedVertex K) : Prop where
  valid : ∀ i, v.BoneIdx i ≠ SS_UINT32_MAX ↔ i.val < countAbove es
  current : ∀ i, i.val = countAbove es → v.Weight i = trailingSum es
  later : ∀ i, countAbove es < i.val → v.Weight i = 0
  sum : ∑ i, v.Weight i = weightSum es
  full : countAbove es = VERTEX_SKINNING_BONE_COUNT_MAX → trailingSum es = 0

theorem slotsHold_step {es : List (Influence K)} {e : Influence K} {v : SSSkinnedVertex K}
    (h : SlotsHold es v) (hlen : es.length < VERTEX_SKINNING_BONE_COUNT_MAX)
    (hjoint : e.joint ≠ SS_UINT32_MAX) :
    SlotsHold (es ++ [e]) (entryUpdate (countAbove es % 2 ^ 8) e v) := by
  have hcount := countAbove_le es
  have hb : countAbove es < 4 := Nat.lt_of_le_of_lt hcount hlen
  have hmod : countAbove es % 2 ^ 8 = countAbove es := Nat.mod_eq_of_lt (by omega)
  rw [hmod, entryUpdate]
  by_cases ha : e.Above
  · have hc : countAbove (es ++ [e]) = countAbove es + 1 := by rw [countAbove_concat, if_pos ha]
    have ht : trailingSum (es ++ [e]) = 0 := by rw [trailingSum_concat, if_pos ha]
    rw [if_pos ha]
    refine ⟨fun i => ?_, fun i hi => ?_, fun i hi => ?_, ?_, fun _ => ht⟩
    · rw [addBone_BoneIdx, writeSlot_apply, hc]
      by_cases hi : i.val = countAbove es
      · rw [if_pos hi]
        exact ⟨fun _ => by omega, fun _ => hjoint⟩
      · rw [if_neg hi, h.valid i]; omega
    · rw [addBone_Weight, writeSlot_apply, if_neg (by omega), ht]
      exact h.later i (by omega)
    · rw [addBone_Weight, writeSlot_apply, if_neg (by omega)]
      exact h.later i (by omega)
    · rw [addBone_Weight, sum_writeSlot _ hb, h.sum, weightSum_concat]
  · have hc : countAbove (es ++ [e]) = countAbove es := by
      rw [countAbove_concat, if_neg ha, Nat.add_zero]
    have ht : trailingSum (es ++ [e]) = trailingSum es + e.weight := by
      rw [trailingSum_concat, if_neg ha]
    rw [if_neg ha]
    refine ⟨fun i => ?_, fun i hi => ?_, fun i hi => ?_, ?_, fun hfull => ?_⟩
    · rw [hc]; exact h.valid i
    · rw [hc] at hi
      rw [addWeight_Weight, writeSlot_apply, if_pos hi, h.current i hi, ht]
    · rw [hc] at hi
      rw [addWeight_Weight, writeSlot_apply, if_neg (by omega)]
      exact h.later i hi
    · rw [addWeight_Weight, sum_writeSlot _ hb, h.sum, weightSum_concat]
    · omega

theorem slotsHold_vertexRun {v : SSSkinnedVertex K} (hbone : ∀ i, v.BoneIdx i = SS_UINT32_MAX)
    (hweight : ∀ i, v.Weight i = 0) (es : List (Influence K))
    (hlen : es.length ≤ VERTEX_SKINNING_BONE_COUNT_MAX)
    (hjoint : ∀ e ∈ es, e.joint ≠ SS_UINT32_MAX) : SlotsHold es (vertexRun v es).1 := by
  induction es using List.reverseRecOn with
  | nil =>
    refine ⟨fun i => ?_, fun i _ => hweight i, fun i _ => hweight i, ?_, fun h => ?_⟩
    · exact ⟨fun h => absurd (hbone i) h, fun h => absurd h (Nat.not_lt_zero _)⟩
    · exact Finset.sum_eq_zero fun i _ => hweight i
    · cases h
  | append_singleton es e ih =>
    rw [List.length_append, List.length_singleton] at hlen
    have hprev := ih (by omega) fun e' he' => hjoint e' (List.mem_append_left _ he')
    rw [← entryUpdate_vertexRun]
    exact slotsHold_step hprev (by omega)
      (hjoint e (List.mem_append_right _ (List.mem_singleton_self e)))

/-- The shader's sum misses exactly the trailing weights. -/
theorem shaderWeightSum_add_trailing {es : List (Influence K)} {v : SSSkinnedVertex K}
    (h : SlotsHold es v) (hlen : es.length ≤ VERTEX_SKINNING_BONE_COUNT_MAX) :
    shaderWeightSum v + trailingSum es = weightSum es := by
  have hcount := countAbove_le es
  rw [shaderWeightSum_eq h.valid, ← h.sum]
  rcases Nat.lt_or_eq_of_le (Nat.le_trans hcount hlen) with hlt | heq
  · have hsplit : ∀ i : Fin VERTEX_SKINNING_BONE_COUNT_MAX, v.Weight i =
        (if i.val < countAbove es then v.Weight i else 0) +
          if i = ⟨countAbove es, hlt⟩ then trailingSum es else 0 := by
      intro i
      rcases Nat.lt_trichotomy i.val (countAbove es) with hi | hi | hi
      · rw [if_pos hi, if_neg fun e => by rw [e] at hi; exact Nat.lt_irrefl _ hi, add_zero]
      · rw [if_neg (by omega), if_pos (Fin.ext hi), h.current i hi, zero_add]
      · rw [if_neg (by omega), if_neg fun e => by rw [e] at hi; exact Nat.lt_irrefl _ hi,
          h.later i hi, add_zero]
    rw [Finset.sum_congr rfl fun i _ => hsplit i, Finset.sum_add_distrib, Finset.sum_ite_eq',
      if_pos (Finset.mem_univ _)]
  · rw [h.full heq, add_zero]
    exact Finset.sum_congr rfl fun i _ => if_pos (by rw [heq]; exact i.isLt)

end Slots

/-- Every bone of the skin is in the skeleton, whose bone list is far below `2 ^ 32`. -/
structure BonesFound {K : Type} (bones : List String) (skin : FbxSkin K) : Prop where
  count_lt : bones.length < SS_UINT32_MAX
  found : ∀ c ∈ skin.clusters, c.linkName ∈ bones

/-- The SDK's promise on a skin: entries name control points of the mesh. -/
def SkinInput {K : Type} (mesh : FbxMesh) (skin : FbxSkin K) : Prop :=
  ∀ c ∈ skin.clusters, ∀ e ∈ c.entries, e.1 < mesh.controlPointsCount

theorem jointIdx_ne {K : Type} {bones : List String} {skin : FbxSkin K}
    (h : BonesFound bones skin) {e : Influence K} (he : e ∈ skin.influences bones) :
    e.joint ≠ SS_UINT32_MAX := by
  obtain ⟨c, hc, he⟩ := List.mem_flatMap.mp he
  obtain ⟨_, _, rfl⟩ := List.mem_map.mp he
  have hcount := h.count_lt
  obtain ⟨i, hlt, hi⟩ := findBoneIdx_of_mem (h.found c hc)
  show toUint32 (findBoneIdxWithNameFromSkeleton bones c.linkName) ≠ _
  unfold SS_UINT32_MAX at *
  rw [hi, toUint32_natCast (by omega)]
  omega

section Skinning

variable {K : Type} [Field K] [LinearOrder K]
  {similar : SSSkinnedVertex K → SSSkinnedVertex K → Bool} {mesh : FbxGeometry K}
  {sdk : FbxVectors K} {bones : List String} {skin : FbxSkin K}

/-- Every vertex of every control point, after the cluster loop. -/
theorem vertex_weights {d : DedupState (SSSkinnedVertex K)} {s : SkinState K}
    (hrep : Represents similar mesh.toFbxMesh
      (fun i j => extractSkinnedVertexWithoutSkinData mesh i j sdk)
      (corners mesh.toFbxMesh mesh.polygonCount) d)
    (htracks : Tracks d (skin.influences bones) s) (hbones : BonesFound bones skin)
    {cp v : Nat} (hv : v ∈ (d.controlPointToSSIdxMap cp).data)
    (hfour : (influencesOf (skin.influences bones) cp).length ≤ VERTEX_SKINNING_BONE_COUNT_MAX) :
    ∃ x, s.ssVertexBuffer.get v = some x ∧
      shaderWeightSum x + trailingSum (influencesOf (skin.influences bones) cp) =
        weightSum (influencesOf (skin.influences bones) cp) := by
  have hlt := (vertexLists_of_represents hrep).lt cp v hv
  obtain ⟨x, hx⟩ : ∃ x, d.ssVertexBuffer.data[v]? = some x := ⟨_, List.getElem?_eq_getElem hlt⟩
  have hfresh : ∃ i j, extractSkinnedVertexWithoutSkinData mesh i j sdk = x := by
    have hmem := List.mem_of_getElem? hx
    rw [hrep.buffer] at hmem
    obtain ⟨c, _, hc⟩ := List.mem_map.mp hmem
    exact ⟨c.1, c.2, hc⟩
  obtain ⟨i, j, rfl⟩ := hfresh
  have hread := htracks.vertices cp v hv
  rw [hx, Option.map_some] at hread
  refine ⟨_, (PooledList.get_eq _ _).trans hread, ?_⟩
  have hjoint : ∀ e ∈ influencesOf (skin.influences bones) cp, e.joint ≠ SS_UINT32_MAX :=
    fun e he => jointIdx_ne hbones (List.mem_filter.mp he).1
  have hhold := slotsHold_vertexRun (v := extractSkinnedVertexWithoutSkinData mesh i j sdk)
    (fun _ => rfl) (fun _ => rfl) _ hfour hjoint
  exact shaderWeightSum_add_trailing hhold hfour

variable (similar mesh sdk bones skin)

/-- De-duplication and cluster loop, for a skin whose entries name control points. -/
theorem skin_run (hin : SkinInput mesh.toFbxMesh skin) : ∃ d s,
    buildVertices similar mesh.toFbxMesh
      (fun i j => extractSkinnedVertexWithoutSkinData mesh i j sdk) = some d ∧
    clusterLoop mesh.controlPointsCount bones skin d = some s ∧
    Represents similar mesh.toFbxMesh
      (fun i j => extractSkinnedVertexWithoutSkinData mesh i j sdk)
      (corners mesh.toFbxMesh mesh.polygonCount) d ∧
    Tracks d (skin.influences bones) s := by
  obtain ⟨d, hd, hrep⟩ := buildVertices_eq similar mesh.toFbxMesh
    fun i j => extractSkinnedVertexWithoutSkinData mesh i j sdk
  obtain ⟨s, hs, htracks⟩ := clusterLoop_eq (vertexLists_of_represents hrep) bones skin hin
  exact ⟨d, s, hd, hs, hrep, htracks⟩

/-- The shader's sum is the whole weight of the control point, for every vertex, exactly when the
weights that come after the last one above the threshold add up to nothing. -/
theorem shader_sum_iff (hin : SkinInput mesh.toFbxMesh skin) (hbones : BonesFound bones skin)
    (hfour : ∀ cp, (influencesOf (skin.influences bones) cp).length ≤
      VERTEX_SKINNING_BONE_COUNT_MAX) :
    ∃ d s, buildVertices similar mesh.toFbxMesh
        (fun i j => extractSkinnedVertexWithoutSkinData mesh i j sdk) = some d ∧
      clusterLoop mesh.controlPointsCount bones skin d = some s ∧
      ((∀ cp v, v ∈ (d.controlPointToSSIdxMap cp).data →
          ∃ x, s.ssVertexBuffer.get v = some x ∧
            shaderWeightSum x = weightSum (influencesOf (skin.influences bones) cp)) ↔
        ∀ i j, mesh.IsCorner i j →
          trailingSum (influencesOf (skin.influences bones) (mesh.controlPoint i j)) = 0) := by
  obtain ⟨d, s, hd, hs, hrep, htracks⟩ := skin_run similar mesh sdk bones skin hin
  refine ⟨d, s, hd, hs, ?_⟩
  constructor
  · intro h i j hc
    have hne := (idxMap_ne_nil_iff hrep (mesh.controlPoint i j)).mpr ⟨i, j, hc, rfl⟩
    obtain ⟨v, hv⟩ := List.exists_mem_of_ne_nil _ hne
    obtain ⟨x, hx, hsum⟩ := vertex_weights hrep htracks hbones hv (hfour _)
    obtain ⟨x', hx', hsum'⟩ := h _ v hv
    have hxx : x' = x := Option.some.inj (hx'.symm.trans hx)
    rw [← hsum', hxx] at hsum
    exact left_eq_add.mp hsum.symm
  · intro h cp v hv
    obtain ⟨i, j, hc, hcp⟩ := (idxMap_ne_nil_iff hrep cp).mp (List.ne_nil_of_mem hv)
    obtain ⟨x, hx, hsum⟩ := vertex_weights hrep htracks hbones hv (hfour _)
    have htrail := h i j hc
    rw [hcp] at htrail
    rw [htrail, add_zero] at hsum
    exact ⟨x, hx, hsum⟩

/-- All stores stay inside the four slots, or the import is rejected, exactly when no used control
point has an influence at a bone count (modulo 256) of four or more, or some count ends above
four. -/
theorem slots_in_range_iff (hin : SkinInput mesh.toFbxMesh skin) :
    ∃ d s, buildVertices similar mesh.toFbxMesh
        (fun i j => extractSkinnedVertexWithoutSkinData mesh i j sdk) = some d ∧
      clusterLoop mesh.controlPointsCount bones skin d = some s ∧
      (((∀ w ∈ s.writes, w.2 < VERTEX_SKINNING_BONE_COUNT_MAX) ∨
          ¬ BoneCntAccepted mesh.controlPointsCount s) ↔
        (∀ i j, mesh.IsCorner i j →
          SlotsInRange (influencesOf (skin.influences bones) (mesh.controlPoint i j))) ∨
        ∃ cp, cp < mesh.controlPointsCount ∧
          4 < countAbove (influencesOf (skin.influences bones) cp) % 2 ^ 8) := by
  obtain ⟨d, s, hd, hs, hrep, htracks⟩ := skin_run similar mesh sdk bones skin hin
  refine ⟨d, s, hd, hs, ?_⟩
  have hwrites : (∀ w ∈ s.writes, w.2 < VERTEX_SKINNING_BONE_COUNT_MAX) ↔
      ∀ i j, mesh.IsCorner i j →
        SlotsInRange (influencesOf (skin.influences bones) (mesh.controlPoint i j)) := by
    rw [htracks.writes]
    constructor
    · intro h i j hc
      exact h _ ((idxMap_ne_nil_iff hrep _).mpr ⟨i, j, hc, rfl⟩)
    · intro h cp hne
      obtain ⟨i, j, hc, rfl⟩ := (idxMap_ne_nil_iff hrep cp).mp hne
      exact h i j hc
  have hreject : ¬ BoneCntAccepted mesh.controlPointsCount s ↔ ∃ cp, cp < mesh.controlPointsCount ∧
      4 < countAbove (influencesOf (skin.influences bones) cp) % 2 ^ 8 := by
    unfold BoneCntAccepted
    simp only [htracks.boneCnt, not_forall, not_le, exists_prop]
  rw [hwrites, hreject]

end Skinning

/-- One control point: a weight above the threshold, then one below. -/
def smallWeightLast : FbxSkin ℚ := ⟨[⟨"a", [(0, 49 / 50)]⟩, ⟨"b", [(0, 1 / 50)]⟩]⟩

/-- One control point: four weights above the threshold, then one below. -/
def fifthSmallWeight : FbxSkin ℚ :=
  ⟨[⟨"a", [(0, 1 / 4)]⟩, ⟨"b", [(0, 1 / 4)]⟩, ⟨"c", [(0, 1 / 4)]⟩, ⟨"d", [(0, 23 / 100)]⟩,
    ⟨"e", [(0, 1 / 50)]⟩]⟩

theorem above_iff {joint cp : Nat} {w : ℚ} :
    (⟨joint, cp, w⟩ : Influence ℚ).Above ↔ (16106127 : ℚ) / 2 ^ 29 < w := by
  unfold Influence.Above SKIN_WEIGHT_THRESHOLD floatOf
  push_cast
  rfl

theorem smallWeightLast_input : SkinInput reversedTriangle.toFbxMesh smallWeightLast := by
  unfold SkinInput
  decide

theorem smallWeightLast_found : BonesFound ["a", "b"] smallWeightLast where
  count_lt := by decide
  found := by decide

theorem smallWeightLast_length (cp : Nat) :
    (influencesOf (smallWeightLast.influences ["a", "b"]) cp).length ≤
      VERTEX_SKINNING_BONE_COUNT_MAX :=
  Nat.le_trans (List.length_filter_le ..) (show 2 ≤ 4 by decide)

theorem trailing_weight_lost : ∃ d s,
    buildVertices (fun _ _ => false) reversedTriangle.toFbxMesh
      (fun i j => extractSkinnedVertexWithoutSkinData reversedTriangle i j ⟨id, ⟨0, 0⟩⟩) = some d ∧
    clusterLoop reversedTriangle.controlPointsCount ["a", "b"] smallWeightLast d = some s ∧
    ¬ ∀ cp v, v ∈ (d.controlPointToSSIdxMap cp).data →
      ∃ x, s.ssVertexBuffer.get v = some x ∧
        shaderWeightSum x =
          weightSum (influencesOf (smallWeightLast.influences ["a", "b"]) cp) := by
  obtain ⟨d, s, hd, hs, hrep, htracks⟩ := skin_run (fun _ _ => false) reversedTriangle
    ⟨id, ⟨0, 0⟩⟩ ["a", "b"] smallWeightLast smallWeightLast_input
  refine ⟨d, s, hd, hs, fun h => ?_⟩
  have hne := (idxMap_ne_nil_iff hrep 0).mpr ⟨0, 2, ⟨by decide, by decide⟩, rfl⟩
  obtain ⟨v, hv⟩ := List.exists_mem_of_ne_nil _ hne
  obtain ⟨x, hx, hsum⟩ := vertex_weights hrep htracks smallWeightLast_found hv
    (smallWeightLast_length 0)
  obtain ⟨x', hx', hsum'⟩ := h 0 v hv
  have hxx : x' = x := Option.some.inj (hx'.symm.trans hx)
  rw [← hsum', hxx] at hsum
  have htrail : trailingSum (influencesOf (smallWeightLast.influences ["a", "b"]) 0) = 1 / 50 := by
    show trailingSum ([⟨_, 0, 49 / 50⟩] ++ [⟨_, 0, 1 / 50⟩]) = (1 / 50 : ℚ)
    rw [trailingSum_concat, if_neg (mt above_iff.mp (by norm_num)), ← List.nil_append [_],
      trailingSum_concat, if_pos (above_iff.mpr (by norm_num)), zero_add]
  rw [htrail] at hsum
  norm_num at hsum

theorem shader_sum_iff_small_last : ∃ d s,
    buildVertices (fun _ _ => false) reversedTriangle.toFbxMesh
      (fun i j => extractSkinnedVertexWithoutSkinData reversedTriangle i j ⟨id, ⟨0, 0⟩⟩) = some d ∧
    clusterLoop reversedTriangle.controlPointsCount ["a", "b"] smallWeightLast d = some s ∧
    ((∀ cp v, v ∈ (d.controlPointToSSIdxMap cp).data →
        ∃ x, s.ssVertexBuffer.get v = some x ∧
          shaderWeightSum x =
            weightSum (influencesOf (smallWeightLast.influences ["a", "b"]) cp)) ↔
      ∀ i j, reversedTriangle.IsCorner i j →
        trailingSum (influencesOf (smallWeightLast.influences ["a", "b"])
          (reversedTriangle.controlPoint i j)) = 0) :=
  shader_sum_iff (fun _ _ => false) reversedTriangle ⟨id, ⟨0, 0⟩⟩ ["a", "b"] smallWeightLast
    smallWeightLast_input smallWeightLast_found smallWeightLast_length

theorem fifthSmallWeight_input : SkinInput reversedTriangle.toFbxMesh fifthSmallWeight := by
  unfold SkinInput
  decide

theorem fifthSmallWeight_countAbove (bones : List String) :
    countAbove (fifthSmallWeight.influences bones) = 4 := by
  simp [fifthSmallWeight, FbxSkin.influences, countAbove, List.countP_cons, above_iff]
  norm_num

theorem fifth_slot_written : ∃ d s,
    buildVertices (fun _ _ => false) reversedTriangle.toFbxMesh
      (fun i j => extractSkinnedVertexWithoutSkinData reversedTriangle i j ⟨id, ⟨0, 0⟩⟩) = some d ∧
    clusterLoop reversedTriangle.controlPointsCount ["a", "b", "c", "d", "e"] fifthSmallWeight d =
      some s ∧
    BoneCntAccepted reversedTriangle.controlPointsCount s ∧
    ¬ ∀ w ∈ s.writes, w.2 < VERTEX_SKINNING_BONE_COUNT_MAX := by
  obtain ⟨d, s, hd, hs, hrep, htracks⟩ := skin_run (fun _ _ => false) reversedTriangle
    ⟨id, ⟨0, 0⟩⟩ ["a", "b", "c", "d", "e"] fifthSmallWeight fifthSmallWeight_input
  refine ⟨d, s, hd, hs, fun cp _ => ?_, fun h => ?_⟩
  · have hsub :
        countAbove (influencesOf (fifthSmallWeight.influences ["a", "b", "c", "d", "e"]) cp) ≤
          countAbove (fifthSmallWeight.influences ["a", "b", "c", "d", "e"]) :=
      List.filter_sublist.countP_le
    rw [fifthSmallWeight_countAbove] at hsub
    rw [htracks.boneCnt]
    omega
  · have hne := (idxMap_ne_nil_iff hrep 0).mpr ⟨0, 2, ⟨by decide, by decide⟩, rfl⟩
    have hrange := htracks.writes.mp h 0 hne 4 (by decide)
    have htake : countAbove
        ((influencesOf (fifthSmallWeight.influences ["a", "b", "c", "d", "e"]) 0).take 4) = 4 := by
      simp [fifthSmallWeight, FbxSkin.influences, influencesOf, countAbove, List.countP_cons,
        above_iff]
      norm_num
    rw [htake] at hrange
    exact absurd hrange (by decide)

theorem slots_in_range_iff_fifth : ∃ d s,
    buildVertices (fun _ _ => false) reversedTriangle.toFbxMesh
      (fun i j => extractSkinnedVertexWithoutSkinData reversedTriangle i j ⟨id, ⟨0, 0⟩⟩) = some d ∧
    clusterLoop reversedTriangle.controlPointsCount ["a", "b", "c", "d", "e"] fifthSmallWeight d =
      some s ∧
    (((∀ w ∈ s.writes, w.2 < VERTEX_SKINNING_BONE_COUNT_MAX) ∨
        ¬ BoneCntAccepted reversedTriangle.controlPointsCount s) ↔
      (∀ i j, reversedTriangle.IsCorner i j →
        SlotsInRange (influencesOf (fifthSmallWeight.influences ["a", "b", "c", "d", "e"])
          (reversedTriangle.controlPoint i j))) ∨
      ∃ cp, cp < reversedTriangle.controlPointsCount ∧
        4 < countAbove (influencesOf
          (fifthSmallWeight.influences ["a", "b", "c", "d", "e"]) cp) % 2 ^ 8) :=
  slots_in_range_iff (fun _ _ => false) reversedTriangle ⟨id, ⟨0, 0⟩⟩ ["a", "b", "c", "d", "e"]
    fifthSmallWeight fifthSmallWeight_input

end FBXRenderer

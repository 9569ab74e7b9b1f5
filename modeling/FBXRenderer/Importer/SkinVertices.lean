import FBXRenderer.Importer.SkinWeights

/-!
# FBXRenderer.Importer.SkinVertices

The skinning data of all vertices of a control point, for a skin in which no control point has more
than four entries: the same in every copy, the bones of the weights above the threshold in the first
slots and in cluster order, and no weight lost. What belongs to one control point does not depend on
the entries of another one.

* `skinning_data`: all of this, for every control point.
-/

namespace FBXRenderer

open SS

section Joints

variable {K : Type} [Field K] [LinearOrder K]

/-- The bones of the weights above the threshold, in loop order. -/
def aboveJoints (es : List (Influence K)) : List Nat :=
  (es.filter fun e => e.Above).map Influence.joint

theorem length_aboveJoints (es : List (Influence K)) : (aboveJoints es).length = countAbove es := by
  rw [aboveJoints, List.length_map, countAbove, List.countP_eq_length_filter]

theorem aboveJoints_concat (es : List (Influence K)) (e : Influence K) :
    aboveJoints (es ++ [e]) = aboveJoints es ++ if e.Above then [e.joint] else [] := by
  unfold aboveJoints
  rw [List.filter_append, List.map_append, List.filter_singleton]
  by_cases ha : e.Above
  · simp [ha]
  · simp [ha]

theorem bones_step {es : List (Influence K)} {e : Influence K} {v : SSSkinnedVertex K}
    (h : ∀ i : Fin VERTEX_SKINNING_BONE_COUNT_MAX, i.val < countAbove es →
      (aboveJoints es)[i.val]? = some (v.BoneIdx i))
    (hlen : es.length < VERTEX_SKINNING_BONE_COUNT_MAX) :
    ∀ i : Fin VERTEX_SKINNING_BONE_COUNT_MAX, i.val < countAbove (es ++ [e]) →
      (aboveJoints (es ++ [e]))[i.val]? =
        some ((entryUpdate (countAbove es % 2 ^ 8) e v).BoneIdx i) := by
  have hcount := countAbove_le es
  have hmod : countAbove es % 2 ^ 8 = countAbove es := by
    refine Nat.mod_eq_of_lt ?_
    unfold VERTEX_SKINNING_BONE_COUNT_MAX at hlen
    omega
  intro i hi
  rw [countAbove_concat] at hi
  rw [hmod, entryUpdate, aboveJoints_concat]
  by_cases ha : e.Above
  · rw [if_pos ha] at hi
    rw [if_pos ha, if_pos ha, addBone_BoneIdx, writeSlot_apply]
    by_cases heq : i.val = countAbove es
    · rw [if_pos heq, heq, ← length_aboveJoints, List.getElem?_concat_length]
    · have hlt : i.val < countAbove es := by omega
      rw [if_neg heq, List.getElem?_append_left (by rw [length_aboveJoints]; exact hlt)]
      exact h i hlt
  · rw [if_neg ha] at hi
    rw [if_neg ha, if_neg ha, List.append_nil, addWeight_BoneIdx]
    exact h i hi

theorem bones_vertexRun (v : SSSkinnedVertex K) (es : List (Influence K))
    (hlen : es.length ≤ VERTEX_SKINNING_BONE_COUNT_MAX) :
    ∀ i : Fin VERTEX_SKINNING_BONE_COUNT_MAX, i.val < countAbove es →
      (aboveJoints es)[i.val]? = some ((vertexRun v es).1.BoneIdx i) := by
  induction es using List.reverseRecOn with
  | nil =>
    intro i hi
    exact absurd hi (Nat.not_lt_zero _)
  | append_singleton es e ih =>
    rw [List.length_append, List.length_singleton] at hlen
    rw [← entryUpdate_vertexRun]
    exact bones_step (ih (by omega)) (by omega)

/-- The arrays of a vertex depend on its influences and on what was in them before. -/
theorem vertexRun_alike {v w : SSSkinnedVertex K} (hbone : v.BoneIdx = w.BoneIdx)
    (hweight : v.Weight = w.Weight) (es : List (Influence K)) :
    (vertexRun v es).1.BoneIdx = (vertexRun w es).1.BoneIdx ∧
      (vertexRun v es).1.Weight = (vertexRun w es).1.Weight := by
  induction es using List.reverseRecOn with
  | nil => exact ⟨hbone, hweight⟩
  | append_singleton es e ih =>
    obtain ⟨hb, hw⟩ := ih
    rw [← entryUpdate_vertexRun, ← entryUpdate_vertexRun, entryUpdate]
    by_cases ha : e.Above
    · rw [if_pos ha, addBone_BoneIdx, addBone_BoneIdx, addBone_Weight, addBone_Weight, hb, hw]
      exact ⟨rfl, rfl⟩
    · rw [if_neg ha, addWeight_BoneIdx, addWeight_BoneIdx, addWeight_Weight, addWeight_Weight, hw]
      exact ⟨hb, rfl⟩

end Joints

section Without

variable {K : Type}

/-- The skin without the entries of a control point. -/
def FbxSkin.without (skin : FbxSkin K) (cp : Nat) : FbxSkin K :=
  ⟨skin.clusters.map fun c => { c with entries := c.entries.filter fun e => e.1 ≠ cp }⟩

theorem influences_without (bones : List String) (skin : FbxSkin K) (cp : Nat) :
    (skin.without cp).influences bones =
      (skin.influences bones).filter fun e => e.controlPoint ≠ cp := by
  unfold FbxSkin.influences FbxSkin.without
  rw [List.flatMap_map, List.filter_flatMap]
  refine List.flatMap_congr fun c _ => ?_
  rw [List.filter_map]
  rfl

theorem influencesOf_without (bones : List String) (skin : FbxSkin K) {cp cp' : Nat}
    (h : cp' ≠ cp) : influencesOf ((skin.without cp).influences bones) cp' =
      influencesOf (skin.influences bones) cp' := by
  rw [influences_without, influencesOf, influencesOf, List.filter_filter]
  refine List.filter_congr fun e _ => ?_
  by_cases he : e.controlPoint = cp'
  · simp [he, h]
  · simp [he]

theorem SkinInput.without {mesh : FbxMesh} {skin : FbxSkin K} (h : SkinInput mesh skin) (cp : Nat) :
    SkinInput mesh (skin.without cp) := by
  intro c hc e he
  obtain ⟨c', hc', rfl⟩ := List.mem_map.mp hc
  exact h c' hc' e (List.mem_of_mem_filter he)

end Without

section Skinning

variable {K : Type} [Field K] [LinearOrder K]

/-- What the cluster loop leaves in the vertices of a control point. -/
structure SkinnedBy (bones : List String) (skin : FbxSkin K) (d : DedupState (SSSkinnedVertex K))
    (s : SkinState K) (cp : Nat) : Prop where
  /-- All copies have the same arrays. -/
  alike : ∀ v ∈ (d.controlPointToSSIdxMap cp).data, ∀ w ∈ (d.controlPointToSSIdxMap cp).data,
    ∃ x y, s.ssVertexBuffer.get v = some x ∧ s.ssVertexBuffer.get w = some y ∧
      x.BoneIdx = y.BoneIdx ∧ x.Weight = y.Weight
  valid : ∀ v ∈ (d.controlPointToSSIdxMap cp).data, ∃ x, s.ssVertexBuffer.get v = some x ∧
    ∀ i, x.BoneIdx i ≠ SS_UINT32_MAX ↔ i.val < s.boneCntArr cp
  /-- The valid slots hold the bones of the weights above the threshold, in cluster order. -/
  inOrder : ∀ v ∈ (d.controlPointToSSIdxMap cp).data, ∃ x, s.ssVertexBuffer.get v = some x ∧
    (List.ofFn x.BoneIdx).take (s.boneCntArr cp) =
      aboveJoints (influencesOf (skin.influences bones) cp)
  sum : ∀ v ∈ (d.controlPointToSSIdxMap cp).data, ∃ x, s.ssVertexBuffer.get v = some x ∧
    ∑ i, x.Weight i = weightSum (influencesOf (skin.influences bones) cp)

/-- Two states with the same vertices for every control point but one. -/
def SameExceptAt (d : DedupState (SSSkinnedVertex K)) (cp : Nat) (s s' : SkinState K) : Prop :=
  ∀ cp', cp' ≠ cp → ∀ v ∈ (d.controlPointToSSIdxMap cp').data,
    s.ssVertexBuffer.get v = s'.ssVertexBuffer.get v

theorem take_ofFn_bones {v : SSSkinnedVertex K} {es : List (Influence K)}
    (hlen : es.length ≤ VERTEX_SKINNING_BONE_COUNT_MAX)
    (h : ∀ i : Fin VERTEX_SKINNING_BONE_COUNT_MAX, i.val < countAbove es →
      (aboveJoints es)[i.val]? = some (v.BoneIdx i)) :
    (List.ofFn v.BoneIdx).take (countAbove es) = aboveJoints es := by
  have hcount := Nat.le_trans (countAbove_le es) hlen
  refine List.ext_getElem? fun k => ?_
  rw [List.getElem?_take]
  by_cases hk : k < countAbove es
  · have hslot : k < VERTEX_SKINNING_BONE_COUNT_MAX := Nat.lt_of_lt_of_le hk hcount
    rw [if_pos hk, List.getElem?_ofFn, dif_pos hslot]
    exact (h ⟨k, hslot⟩ hk).symm
  · rw [if_neg hk, List.getElem?_eq_none (by rw [length_aboveJoints]; omega)]

section Vertices

variable {similar : SSSkinnedVertex K → SSSkinnedVertex K → Bool} {mesh : FbxGeometry K}
  {sdk : FbxVectors K} {bones : List String} {skin : FbxSkin K}
  {d : DedupState (SSSkinnedVertex K)} {s : SkinState K}

/-- A vertex of a control point starts without bones and takes the influences of the point. -/
theorem vertex_run (hrep : Represents similar mesh.toFbxMesh
      (fun i j => extractSkinnedVertexWithoutSkinData mesh i j sdk)
      (corners mesh.toFbxMesh mesh.polygonCount) d)
    (htracks : Tracks d (skin.influences bones) s) {cp v : Nat}
    (hv : v ∈ (d.controlPointToSSIdxMap cp).data) :
    ∃ x, (∀ i, x.BoneIdx i = SS_UINT32_MAX) ∧ (∀ i, x.Weight i = 0) ∧
      s.ssVertexBuffer.get v =
        some (vertexRun x (influencesOf (skin.influences bones) cp)).1 := by
  have hlt := (vertexLists_of_represents hrep).lt cp v hv
  have hread := htracks.vertices cp v hv
  rw [List.getElem?_eq_getElem hlt, Option.map_some, ← PooledList.get_eq] at hread
  have hmem := List.getElem_mem hlt
  simp only [hrep.buffer] at hmem
  obtain ⟨c, _, hc⟩ := List.mem_map.mp hmem
  refine ⟨extractSkinnedVertexWithoutSkinData mesh c.1 c.2 sdk, fun _ => rfl, fun _ => rfl, ?_⟩
  rw [hread, hc]
  simp only [hrep.buffer]

theorem skinnedBy_of_tracks (hrep : Represents similar mesh.toFbxMesh
      (fun i j => extractSkinnedVertexWithoutSkinData mesh i j sdk)
      (corners mesh.toFbxMesh mesh.polygonCount) d)
    (htracks : Tracks d (skin.influences bones) s) (hbones : BonesFound bones skin) {cp : Nat}
    (hfour : (influencesOf (skin.influences bones) cp).length ≤ VERTEX_SKINNING_BONE_COUNT_MAX) :
    SkinnedBy bones skin d s cp := by
  have hcnt : s.boneCntArr cp = countAbove (influencesOf (skin.influences bones) cp) := by
    have hle := Nat.le_trans (countAbove_le _) hfour
    rw [htracks.boneCnt]
    exact Nat.mod_eq_of_lt (by unfold VERTEX_SKINNING_BONE_COUNT_MAX at hle; omega)
  have hjoint : ∀ e ∈ influencesOf (skin.influences bones) cp, e.joint ≠ SS_UINT32_MAX :=
    fun e he => jointIdx_ne hbones (List.mem_filter.mp he).1
  constructor
  case alike =>
    intro v hv w hw
    obtain ⟨x, hbx, hwx, hx⟩ := vertex_run hrep htracks hv
    obtain ⟨y, hby, hwy, hy⟩ := vertex_run hrep htracks hw
    refine ⟨_, _, hx, hy, vertexRun_alike ?_ ?_ _⟩
    · funext i
      rw [hbx, hby]
    · funext i
      rw [hwx, hwy]
  case valid =>
    intro v hv
    obtain ⟨x, hbx, hwx, hx⟩ := vertex_run hrep htracks hv
    refine ⟨_, hx, ?_⟩
    rw [hcnt]
    exact (slotsHold_vertexRun hbx hwx _ hfour hjoint).valid
  case inOrder =>
    intro v hv
    obtain ⟨x, _, _, hx⟩ := vertex_run hrep htracks hv
    refine ⟨_, hx, ?_⟩
    rw [hcnt]
    exact take_ofFn_bones hfour (bones_vertexRun x _ hfour)
  case sum =>
    intro v hv
    obtain ⟨x, hbx, hwx, hx⟩ := vertex_run hrep htracks hv
    exact ⟨_, hx, (slotsHold_vertexRun hbx hwx _ hfour hjoint).sum⟩

/-- Runs over the same vertices whose influences agree away from one control point. -/
theorem sameExceptAt_of_tracks {skin' : FbxSkin K} {s' : SkinState K} {cp : Nat}
    (htracks : Tracks d (skin.influences bones) s) (htracks' : Tracks d (skin'.influences bones) s')
    (hsame : ∀ cp', cp' ≠ cp → influencesOf (skin'.influences bones) cp' =
      influencesOf (skin.influences bones) cp') : SameExceptAt d cp s s' := by
  intro cp' hcp v hv
  rw [PooledList.get_eq, PooledList.get_eq, htracks.vertices cp' v hv, htracks'.vertices cp' v hv,
    hsame cp' hcp]

end Vertices

variable (similar : SSSkinnedVertex K → SSSkinnedVertex K → Bool) (mesh : FbxGeometry K)
  (sdk : FbxVectors K) (bones : List String) (skin : FbxSkin K)

/-- The cluster loop gives every control point its skinning data, and the entries of one control
point leave the vertices of all others alone. -/
theorem skinning_data (hin : SkinInput mesh.toFbxMesh skin) (hbones : BonesFound bones skin)
    (hfour : ∀ cp, (influencesOf (skin.influences bones) cp).length ≤
      VERTEX_SKINNING_BONE_COUNT_MAX) :
    ∃ d s, buildVertices similar mesh.toFbxMesh
        (fun i j => extractSkinnedVertexWithoutSkinData mesh i j sdk) = some d ∧
      clusterLoop mesh.controlPointsCount bones skin d = some s ∧
      ∀ cp, SkinnedBy bones skin d s cp ∧
        ∃ s', clusterLoop mesh.controlPointsCount bones (skin.without cp) d = some s' ∧
          SameExceptAt d cp s s' := by
  obtain ⟨d, s, hd, hs, hrep, htracks⟩ := skin_run similar mesh sdk bones skin hin
  refine ⟨d, s, hd, hs, fun cp => ⟨skinnedBy_of_tracks hrep htracks hbones (hfour cp), ?_⟩⟩
  obtain ⟨s', hs', htracks'⟩ :=
    clusterLoop_eq (vertexLists_of_represents hrep) bones (skin.without cp) (hin.without cp)
  exact ⟨s', hs', sameExceptAt_of_tracks htracks htracks' fun cp' h =>
    influencesOf_without bones skin h⟩

end Skinning

theorem skinning_data_small_last : ∃ d s,
    buildVertices (fun _ _ => false) reversedTriangle.toFbxMesh
      (fun i j => extractSkinnedVertexWithoutSkinData reversedTriangle i j ⟨id, ⟨0, 0⟩⟩) = some d ∧
    clusterLoop reversedTriangle.controlPointsCount ["a", "b"] smallWeightLast d = some s ∧
    ∀ cp, SkinnedBy ["a", "b"] smallWeightLast d s cp ∧
      ∃ s', clusterLoop reversedTriangle.controlPointsCount ["a", "b"]
          (smallWeightLast.without cp) d = some s' ∧ SameExceptAt d cp s s' :=
  skinning_data (fun _ _ => false) reversedTriangle ⟨id, ⟨0, 0⟩⟩ ["a", "b"] smallWeightLast
    smallWeightLast_input smallWeightLast_found smallWeightLast_length

end FBXRenderer

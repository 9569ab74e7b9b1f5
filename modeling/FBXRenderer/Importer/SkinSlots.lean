import FBXRenderer.Importer.Skin
import FBXRenderer.Importer.CornerIndex

/-!
# FBXRenderer.Importer.SkinSlots

The cluster loop seen from one control point: its vertices and its bone count depend only on its
own influences, in cluster order (`vertexRun`). `Tracks` says so of a whole run; one cluster entry
preserves it (`clusterEntry_step`), so the loop does (`clusterLoop_eq`).
-/

namespace FBXRenderer

open SS

/-- One cluster entry, with the joint index of its cluster. -/
structure Influence (K : Type) where
  joint : Nat
  controlPoint : Nat
  weight : K

section Influences

variable {K : Type}

/-- All cluster entries in loop order. -/
def FbxSkin.influences (bones : List String) (skin : FbxSkin K) : List (Influence K) :=
  skin.clusters.flatMap fun c => c.entries.map fun e => ⟨c.jointIdx bones, e.1, e.2⟩

def influencesOf (es : List (Influence K)) (cp : Nat) : List (Influence K) :=
  es.filter fun e => e.controlPoint = cp

theorem influencesOf_concat (es : List (Influence K)) (e : Influence K) (cp : Nat) :
    influencesOf (es ++ [e]) cp =
      influencesOf es cp ++ if e.controlPoint = cp then [e] else [] := by
  unfold influencesOf
  rw [List.filter_append, List.filter_singleton]
  simp

theorem influencesOf_concat_self (done : List (Influence K)) (e : Influence K) :
    influencesOf (done ++ [e]) e.controlPoint = influencesOf done e.controlPoint ++ [e] := by
  rw [influencesOf_concat, if_pos rfl]

theorem influencesOf_concat_of_ne (done : List (Influence K)) {e : Influence K} {cp : Nat}
    (h : cp ≠ e.controlPoint) : influencesOf (done ++ [e]) cp = influencesOf done cp := by
  rw [influencesOf_concat, if_neg fun he => h he.symm, List.append_nil]

variable [Field K] [LinearOrder K]

def Influence.Above (e : Influence K) : Prop := SKIN_WEIGHT_THRESHOLD K < e.weight

instance (e : Influence K) : Decidable e.Above := inferInstanceAs (Decidable (_ < _))

def countAbove (es : List (Influence K)) : Nat := es.countP fun e => decide e.Above

/-- Sum of the weights after the last one above the threshold. -/
def trailingSum (es : List (Influence K)) : K :=
  ((es.reverse.takeWhile fun e => !decide e.Above).map Influence.weight).sum

def weightSum (es : List (Influence K)) : K := (es.map Influence.weight).sum

/-- What an influence does to a vertex and the bone count of its control point. -/
def vertexStep (st : SSSkinnedVertex K × Nat) (e : Influence K) : SSSkinnedVertex K × Nat :=
  if e.Above then (addBone st.2 e.joint e.weight st.1, toUint8 (st.2 + 1 : Nat))
  else (addWeight st.2 e.weight st.1, st.2)

def vertexRun (v : SSSkinnedVertex K) (es : List (Influence K)) : SSSkinnedVertex K × Nat :=
  es.foldl vertexStep (v, 0)

/-- The bone count before each influence is below four. -/
def SlotsInRange (es : List (Influence K)) : Prop :=
  ∀ n, n < es.length → countAbove (es.take n) % 2 ^ 8 < VERTEX_SKINNING_BONE_COUNT_MAX

theorem countAbove_concat (es : List (Influence K)) (e : Influence K) :
    countAbove (es ++ [e]) = countAbove es + if e.Above then 1 else 0 := by
  simp [countAbove, List.countP_append, List.countP_cons]

theorem vertexRun_concat (v : SSSkinnedVertex K) (es : List (Influence K)) (e : Influence K) :
    vertexRun v (es ++ [e]) = vertexStep (vertexRun v es) e := by
  simp [vertexRun, List.foldl_append]

theorem vertexRun_count (v : SSSkinnedVertex K) (es : List (Influence K)) :
    (vertexRun v es).2 = countAbove es % 2 ^ 8 := by
  induction es using List.reverseRecOn with
  | nil => rfl
  | append_singleton es e ih =>
    rw [vertexRun_concat, countAbove_concat, vertexStep]
    by_cases ha : e.Above
    · rw [if_pos ha, if_pos ha, ih]
      dsimp only
      unfold toUint8; omega
    · rw [if_neg ha, if_neg ha, ih]; rfl

theorem slotsInRange_concat (es : List (Influence K)) (e : Influence K) :
    SlotsInRange (es ++ [e]) ↔
      SlotsInRange es ∧ countAbove es % 2 ^ 8 < VERTEX_SKINNING_BONE_COUNT_MAX := by
  unfold SlotsInRange
  constructor
  · intro h
    refine ⟨fun n hn => ?_, ?_⟩
    · have := h n (by rw [List.length_append]; omega)
      rwa [List.take_append_of_le_length (by omega)] at this
    · have := h es.length (by rw [List.length_append]; simp)
      rwa [List.take_left] at this
  · intro ⟨h1, h2⟩ n hn
    rw [List.length_append, List.length_singleton] at hn
    rw [List.take_append_of_le_length (by omega)]
    rcases Nat.lt_or_ge n es.length with hlt | hge
    · exact h1 n hlt
    · rw [List.take_of_length_le hge]; exact h2

end Influences

/-- The vertices of different control points are different entries of the buffer. -/
structure VertexLists {V : Type} (d : DedupState V) : Prop where
  nodup : ∀ cp, (d.controlPointToSSIdxMap cp).data.Nodup
  lt : ∀ cp v, v ∈ (d.controlPointToSSIdxMap cp).data → v < d.ssVertexBuffer.data.length
  disjoint : ∀ cp cp' v, v ∈ (d.controlPointToSSIdxMap cp).data →
    v ∈ (d.controlPointToSSIdxMap cp').data → cp = cp'

theorem vertexLists_of_represents {V : Type} {similar : V → V → Bool} {mesh : FbxMesh}
    {extract : Nat → Nat → V} {done : List (Nat × Nat)} {d : DedupState V}
    (h : Represents similar mesh extract done d) : VertexLists d := by
  refine ⟨fun cp => ?_, fun cp v hv => ?_, fun cp cp' v hv hv' => ?_⟩
  · rw [h.idxMap]; exact List.nodup_findIdxs
  · rw [h.idxMap] at hv
    obtain ⟨hlt, _⟩ := List.mem_findIdxs_iff_exists_getElem_pos.mp hv
    rw [h.buffer, List.length_map]; exact hlt
  · rw [h.idxMap] at hv hv'
    obtain ⟨_, hcp⟩ := List.mem_findIdxs_iff_exists_getElem_pos.mp hv
    obtain ⟨_, hcp'⟩ := List.mem_findIdxs_iff_exists_getElem_pos.mp hv'
    exact (of_decide_eq_true hcp).symm.trans (of_decide_eq_true hcp')

theorem idxMap_ne_nil_iff {V : Type} {similar : V → V → Bool} {mesh : FbxMesh}
    {extract : Nat → Nat → V} {d : DedupState V}
    (h : Represents similar mesh extract (corners mesh mesh.polygonCount) d) (cp : Nat) :
    (d.controlPointToSSIdxMap cp).data ≠ [] ↔
      ∃ i j, mesh.IsCorner i j ∧ mesh.controlPoint i j = cp := by
  rw [h.idxMap, Ne, List.findIdxs_eq_nil_iff]
  constructor
  · intro hne
    by_contra hnone
    refine hne fun c hc => decide_eq_false fun hcp => hnone ⟨c.1, c.2, ?_, hcp⟩
    exact mem_corners.mp (FirstFit.mem_of_mem_stored _ hc)
  · intro ⟨i, j, hc, hcp⟩ hnil
    have hmem : (i, j) ∈ corners mesh mesh.polygonCount := mem_corners.mpr hc
    obtain ⟨k, h1, h2⟩ := h.index (i, j) hmem
    rw [hcp, h.idxMap, List.findIdxs_eq_nil_iff.mpr hnil] at h2
    cases h2

theorem updateVertices_eq {K : Type} (b : Nat) (f : SSSkinnedVertex K → SSSkinnedVertex K) :
    ∀ (l : List Nat) (s : SkinState K), l.Nodup → (∀ v ∈ l, v < s.ssVertexBuffer.data.length) →
      ∃ s', updateVertices b f l s = some s' ∧
        s'.ssVertexBuffer.data.length = s.ssVertexBuffer.data.length ∧
        (∀ v, s'.ssVertexBuffer.data[v]? =
          if v ∈ l then (s.ssVertexBuffer.data[v]?).map f else s.ssVertexBuffer.data[v]?) ∧
        s'.boneCntArr = s.boneCntArr ∧ s'.writes = s.writes ++ l.map fun v => (v, b) := by
  intro l
  induction l with
  | nil => intro s _ _; exact ⟨s, rfl, rfl, fun v => rfl, rfl, (List.append_nil _).symm⟩
  | cons i l ih =>
    intro s hnodup hlt
    obtain ⟨hi, hnodup'⟩ := List.nodup_cons.mp hnodup
    have hilt := hlt i (List.mem_cons_self ..)
    let s1 : SkinState K :=
      { s with
        ssVertexBuffer := ⟨s.ssVertexBuffer.data.set i (f s.ssVertexBuffer.data[i]),
          s.ssVertexBuffer.capacity, by rw [List.length_set]; exact s.ssVertexBuffer.size_le⟩
        writes := s.writes ++ [(i, b)] }
    have hlen1 : s1.ssVertexBuffer.data.length = s.ssVertexBuffer.data.length := List.length_set
    obtain ⟨s', hs', hlen, hdata, hcnt, hwrites⟩ := ih s1 hnodup' fun v hv => by
      rw [hlen1]; exact hlt v (List.mem_cons_of_mem _ hv)
    refine ⟨s', ?_, ?_, ?_, ?_, ?_⟩
    · unfold updateVertices
      rw [PooledList.get_of_lt hilt]
      simp only [Option.bind_eq_bind, Option.bind_some, PooledList.set, if_pos hilt]
      exact hs'
    · rw [hlen, hlen1]
    · intro v
      rw [hdata v]
      show (if v ∈ l then ((s.ssVertexBuffer.data.set i _)[v]?).map f
        else (s.ssVertexBuffer.data.set i _)[v]?) = _
      by_cases hv : v = i
      · subst hv
        rw [if_neg hi, if_pos (List.mem_cons_self ..), List.getElem?_set_self hilt,
          List.getElem?_eq_getElem hilt]
        rfl
      · have hmem : v ∈ i :: l ↔ v ∈ l := by
          rw [List.mem_cons]; exact ⟨fun h => h.resolve_left hv, Or.inr⟩
        rw [List.getElem?_set_ne (fun e => hv e.symm)]
        simp only [hmem]
    · rw [hcnt]
    · rw [hwrites]
      simp [s1]

section Run

variable {K : Type} [Field K] [LinearOrder K]

/-- The state of the cluster loop after the influences in `done`. -/
structure Tracks (d : DedupState (SSSkinnedVertex K)) (done : List (Influence K))
    (s : SkinState K) : Prop where
  length : s.ssVertexBuffer.data.length = d.ssVertexBuffer.data.length
  boneCnt : ∀ cp, s.boneCntArr cp = countAbove (influencesOf done cp) % 2 ^ 8
  vertices : ∀ cp v, v ∈ (d.controlPointToSSIdxMap cp).data →
    s.ssVertexBuffer.data[v]? =
      (d.ssVertexBuffer.data[v]?).map fun x => (vertexRun x (influencesOf done cp)).1
  writes : (∀ w ∈ s.writes, w.2 < VERTEX_SKINNING_BONE_COUNT_MAX) ↔
    ∀ cp, (d.controlPointToSSIdxMap cp).data ≠ [] → SlotsInRange (influencesOf done cp)

/-- What the body of the loop stores in every vertex of the control point. -/
def entryUpdate (b : Nat) (e : Influence K) : SSSkinnedVertex K → SSSkinnedVertex K :=
  if e.Above then addBone b e.joint e.weight else addWeight b e.weight

theorem entryUpdate_vertexRun (x : SSSkinnedVertex K) (es : List (Influence K))
    (e : Influence K) : entryUpdate (countAbove es % 2 ^ 8) e (vertexRun x es).1 =
      (vertexRun x (es ++ [e])).1 := by
  rw [vertexRun_concat, vertexStep, vertexRun_count, entryUpdate]
  by_cases ha : e.Above
  · rw [if_pos ha, if_pos ha]
  · rw [if_neg ha, if_neg ha]

theorem clusterEntry_eq {cnt : Nat} {idxMap : Nat → PooledList Nat} {s s1 : SkinState K}
    {e : Influence K} (hcp : e.controlPoint < cnt)
    (h : updateVertices (s.boneCntArr e.controlPoint)
      (entryUpdate (s.boneCntArr e.controlPoint) e) (idxMap e.controlPoint).data s = some s1)
    (hcnt : s1.boneCntArr = s.boneCntArr) :
    clusterEntry cnt idxMap e.joint e.controlPoint e.weight s =
      some { s1 with
        boneCntArr := Function.update s.boneCntArr e.controlPoint
          (if e.Above then toUint8 (s.boneCntArr e.controlPoint + 1 : Nat)
            else s.boneCntArr e.controlPoint) } := by
  unfold clusterEntry
  unfold entryUpdate at h
  rw [if_pos hcp]
  by_cases ha : e.Above
  · have hle : ¬ e.weight ≤ SKIN_WEIGHT_THRESHOLD K := not_le.mpr ha
    rw [if_pos ha] at h
    simp only [if_neg hle, h, Option.map_some, if_pos ha, hcnt]
  · have hle : e.weight ≤ SKIN_WEIGHT_THRESHOLD K := not_lt.mp ha
    rw [if_neg ha] at h
    simp only [if_pos hle, h, if_neg ha, Function.update_eq_self]
    rw [← hcnt]

theorem clusterEntry_step {cnt : Nat} {d : DedupState (SSSkinnedVertex K)}
    (hd : VertexLists d) {done : List (Influence K)} {s : SkinState K} (h : Tracks d done s)
    {e : Influence K} (hcp : e.controlPoint < cnt) :
    ∃ s', clusterEntry cnt d.controlPointToSSIdxMap e.joint e.controlPoint e.weight s = some s' ∧
      Tracks d (done ++ [e]) s' := by
  have hlt : ∀ v ∈ (d.controlPointToSSIdxMap e.controlPoint).data,
      v < s.ssVertexBuffer.data.length := by
    intro v hv
    rw [h.length]; exact hd.lt _ v hv
  obtain ⟨s1, hs1, hlen, hdata, hcnt, hwrites⟩ :=
    updateVertices_eq (s.boneCntArr e.controlPoint)
      (entryUpdate (s.boneCntArr e.controlPoint) e) _ s (hd.nodup e.controlPoint) hlt
  refine ⟨_, clusterEntry_eq hcp hs1 hcnt, ?_, fun cp => ?_, fun cp v hv => ?_, ?_⟩
  · exact hlen.trans h.length
  · show Function.update s.boneCntArr e.controlPoint _ cp = _
    by_cases hc : cp = e.controlPoint
    · subst hc
      rw [Function.update_self, influencesOf_concat_self, countAbove_concat, h.boneCnt]
      by_cases ha : e.Above
      · rw [if_pos ha, if_pos ha]
        unfold toUint8; omega
      · rw [if_neg ha, if_neg ha]; rfl
    · rw [Function.update_of_ne hc, influencesOf_concat_of_ne _ hc, h.boneCnt]
  · show s1.ssVertexBuffer.data[v]? = _
    rw [hdata v]
    by_cases hc : cp = e.controlPoint
    · subst hc
      rw [if_pos hv, h.vertices _ v hv, influencesOf_concat_self, Option.map_map, h.boneCnt]
      congr 1
      funext x
      exact entryUpdate_vertexRun x _ e
    · -- a vertex of another control point
      have hnot : v ∉ (d.controlPointToSSIdxMap e.controlPoint).data := fun hv' =>
        hc (hd.disjoint cp e.controlPoint v hv hv')
      rw [if_neg hnot, influencesOf_concat_of_ne _ hc, h.vertices cp v hv]
  · show (∀ w ∈ s1.writes, _) ↔ _
    rw [hwrites, List.forall_mem_append, h.writes]
    constructor
    · intro ⟨hold, hnew⟩ cp hne
      by_cases hc : cp = e.controlPoint
      · subst hc
        rw [influencesOf_concat_self, slotsInRange_concat, ← h.boneCnt]
        obtain ⟨v, hv⟩ := List.exists_mem_of_ne_nil _ hne
        exact ⟨hold _ hne, hnew _ (List.mem_map_of_mem hv)⟩
      · rw [influencesOf_concat_of_ne _ hc]; exact hold cp hne
    · intro hall
      refine ⟨fun cp hne => ?_, fun w hw => ?_⟩
      · have := hall cp hne
        by_cases hc : cp = e.controlPoint
        · subst hc
          rw [influencesOf_concat_self, slotsInRange_concat] at this
          exact this.1
        · rwa [influencesOf_concat_of_ne _ hc] at this
      · obtain ⟨v, hv, rfl⟩ := List.mem_map.mp hw
        have := hall e.controlPoint (List.ne_nil_of_mem hv)
        rw [influencesOf_concat_self, slotsInRange_concat, ← h.boneCnt] at this
        exact this.2

theorem clusterEntries_eq {cnt : Nat} {d : DedupState (SSSkinnedVertex K)} (hd : VertexLists d)
    (joint : Nat) : ∀ (entries : List (Nat × K)) (done : List (Influence K)) (s : SkinState K),
      Tracks d done s → (∀ e ∈ entries, e.1 < cnt) →
      ∃ s', clusterEntries cnt d.controlPointToSSIdxMap joint entries s = some s' ∧
        Tracks d (done ++ entries.map fun e => ⟨joint, e.1, e.2⟩) s' := by
  intro entries
  induction entries with
  | nil =>
    intro done s h _
    rw [List.map_nil, List.append_nil]
    exact ⟨s, rfl, h⟩
  | cons e entries ih =>
    intro done s h hlt
    have hcp : (⟨joint, e.1, e.2⟩ : Influence K).controlPoint < cnt := hlt e (List.mem_cons_self ..)
    obtain ⟨s1, hs1, h1⟩ := clusterEntry_step hd h hcp
    obtain ⟨s2, hs2, h2⟩ := ih _ s1 h1 fun e' he' => hlt e' (List.mem_cons_of_mem _ he')
    refine ⟨s2, ?_, ?_⟩
    · unfold clusterEntries at hs2 ⊢
      rw [List.foldlM_cons]
      simp only [hs1, Option.bind_eq_bind, Option.bind_some, hs2]
    · rw [List.append_assoc] at h2
      exact h2

theorem clusterLoop_steps {cnt : Nat} {d : DedupState (SSSkinnedVertex K)} (hd : VertexLists d)
    (bones : List String) : ∀ (clusters : List (FbxCluster K)) (done : List (Influence K))
      (s : SkinState K), Tracks d done s → (∀ c ∈ clusters, ∀ e ∈ c.entries, e.1 < cnt) →
      ∃ s', clusters.foldlM (fun s c => clusterEntries cnt d.controlPointToSSIdxMap
          (c.jointIdx bones) c.entries s) s = some s' ∧
        Tracks d (done ++ FbxSkin.influences bones ⟨clusters⟩) s' := by
  intro clusters
  induction clusters with
  | nil =>
    intro done s h _
    refine ⟨s, rfl, ?_⟩
    show Tracks d (done ++ []) s
    rw [List.append_nil]; exact h
  | cons c clusters ih =>
    intro done s h hlt
    obtain ⟨s1, hs1, h1⟩ := clusterEntries_eq hd (c.jointIdx bones) c.entries done s h
      (hlt c (List.mem_cons_self ..))
    obtain ⟨s2, hs2, h2⟩ := ih _ s1 h1 fun c' hc' => hlt c' (List.mem_cons_of_mem _ hc')
    refine ⟨s2, ?_, ?_⟩
    · rw [List.foldlM_cons]
      simp only [hs1, Option.bind_eq_bind, Option.bind_some, hs2]
    · rw [List.append_assoc] at h2
      exact h2

/-- The cluster loop never fails, and every control point sees its own influences only. -/
theorem clusterLoop_eq {cnt : Nat} {d : DedupState (SSSkinnedVertex K)} (hd : VertexLists d)
    (bones : List String) (skin : FbxSkin K)
    (hlt : ∀ c ∈ skin.clusters, ∀ e ∈ c.entries, e.1 < cnt) :
    ∃ s, clusterLoop cnt bones skin d = some s ∧ Tracks d (skin.influences bones) s := by
  have hstart : Tracks d [] (SkinState.mk d.ssVertexBuffer (fun _ => 0) [] : SkinState K) := by
    refine ⟨rfl, fun _ => rfl, fun cp v _ => ?_, ?_⟩
    · show d.ssVertexBuffer.data[v]? = (d.ssVertexBuffer.data[v]?).map id
      rw [Option.map_id]; rfl
    · exact ⟨fun _ _ _ n hn => absurd hn (Nat.not_lt_zero n), fun _ w hw => absurd hw (by simp)⟩
  exact clusterLoop_steps hd bones skin.clusters [] _ hstart hlt

end Run

end FBXRenderer

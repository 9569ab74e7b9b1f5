import Mathlib
import FBXRenderer.NativeKeywords
import FBXRenderer.Container.PooledList
import FBXRenderer.Container.StringHashMapRuns
import FBXRenderer.Lib.PartialRun

/-!
# FBXRenderer.Asset.AssetManagerContainer

`AssetManagerContainer<AssetType>` (`AssetManagerContainer.h`): assets in a growing list, with a
hash map from their names to their positions in the list.

* An asset is any type with a name; a name is what `SSAssetBase::_assetName` can hold. `none` is a
  list that was pushed to while full.
* `container_run`: whatever is inserted, the list has all of it in order, and a name finds the
  asset of the one insertion of that name that succeeded.
* `keeps_agreement_iff`: a failed insertion leaves its asset in the list, so list and hash map
  agree in a run exactly when every insertion succeeds.
-/

namespace FBXRenderer

open SS

/-- A name that fits `FixedStringA<ASSET_NAME_LEN_MAX>`. -/
abbrev AssetName := { name : CStr // name.strlen < ASSET_NAME_LEN_MAX }

/-- The bytes of an ASCII text. -/
def asciiBytes (s : String) : List UInt8 := s.toList.map fun c => UInt8.ofNat c.toNat

structure AssetManagerContainer (A : Type) where
  _list : PooledList A
  _hashMap : StringHashMapA Nat PATH_LEN_MAX

/-- An insertion: its result, the text of the message box if there was one, and the container. -/
structure Inserted (A : Type) where
  result : InsertResult
  alert : Option (List UInt8)
  container : AssetManagerContainer A

/-- The cases of the switch fall through. -/
def errorCodeText : InsertResult → List UInt8
  | .collisionLimit =>
    asciiBytes "CollisionLimit)" ++ (asciiBytes "InvalidStrKey)" ++ asciiBytes "KeyAlreadyExist)")
  | .invalidStrKey => asciiBytes "InvalidStrKey)" ++ asciiBytes "KeyAlreadyExist)"
  | .keyAlreadyExist => asciiBytes "KeyAlreadyExist)"
  | .success => []

/-- The text about a failed insertion, as it is put together. -/
def errorString (head : String) (name : CStr) (result : InsertResult) : List UInt8 :=
  asciiBytes head ++ name.bytes ++ asciiBytes "), (ErrorCode: " ++ errorCodeText result

/-- With an asset name and a head of at most 100 letters the text fits its `FixedStringA<300>`. -/
theorem errorString_fits {head : String} (hhead : (asciiBytes head).length ≤ 100)
    (name : AssetName) (result : InsertResult) :
    (errorString head name.1 result).length < 300 := by
  have hname : name.1.bytes.length < ASSET_NAME_LEN_MAX := name.2
  have hcode : (errorCodeText result).length ≤ 45 := by cases result <;> decide
  have htail : (asciiBytes "), (ErrorCode: ").length = 15 := by decide
  unfold ASSET_NAME_LEN_MAX at hname
  simp only [errorString, List.length_append, htail]
  omega

/-- The text in front of the name. -/
def newAssetErrorHead : String := "new asset insertion failed on hashmap. (asset name: "

namespace AssetManagerContainer

variable {A : Type}

def new (raw : Nat → Nat) (poolCapacity hashCapacity hashCollisionLimit : Nat) (hashSeed : UInt64) :
    AssetManagerContainer A where
  _list := PooledList.new poolCapacity
  _hashMap := StringHashMapA.new raw hashCapacity hashCollisionLimit hashSeed

variable (cityHash64WithSeed : CStr → UInt64 → UInt64) (getAssetName : A → AssetName)

/-- The assertion before the message box tests the text, which is never null. -/
def insertNewAsset (c : AssetManagerContainer A) (newAsset : A) : Option (Inserted A) := do
  let grown :=
    if c._list.isFull then c._list.increaseCapacityAndCopy (toUint32 (c._list.capacity * 2 : Nat))
    else some c._list
  let list ← grown
  let list ← list.pushBack newAsset
  let name := (getAssetName newAsset).1
  let r := c._hashMap.tryInsert cityHash64WithSeed name (toUint32 ((list.getSize : Int) - 1))
  some {
    result := r.1
    alert := if r.1 = .success then none else some (errorString newAssetErrorHead name r.1)
    container := { _list := list, _hashMap := r.2 } }

/-- The outer `none` is a read outside the list, the inner one the null pointer. -/
def findAssetWithName (c : AssetManagerContainer A) (name : CStr) : Option (Option A) :=
  match c._hashMap.tryFind cityHash64WithSeed name SS_UINT32_MAX with
  | (.success, foundIdx) => (c._list.get foundIdx).map some
  | _ => some none

def getAssetWithIdx (c : AssetManagerContainer A) (idx : Nat) : Option A := c._list.get idx

/-- A run of insertions, with their results in order. -/
def insertAll (c : AssetManagerContainer A) (assets : List A) :
    Option (List InsertResult × AssetManagerContainer A) :=
  assets.foldlM (fun st a => (insertNewAsset cityHash64WithSeed getAssetName st.2 a).map
    fun r => (st.1 ++ [r.result], r.container)) ([], c)

section Run

variable {H : CStr → UInt64 → UInt64} {getAssetName : A → AssetName}
  {c c' : AssetManagerContainer A} {assets : List A} {results : List InsertResult}

/-- Call number `idx` of the run inserted an asset named `name`. -/
def InsertedAt (getAssetName : A → AssetName) (assets : List A) (results : List InsertResult)
    (name : CStr) (idx : Nat) : Prop :=
  ∃ a, assets[idx]? = some a ∧ (getAssetName a).1 = name ∧ results[idx]? = some .success

/-- What a run of insertions keeps: the list has the assets in order, the hash map has the
positions of those that succeeded. -/
structure ContainerState (H : CStr → UInt64 → UInt64) (getAssetName : A → AssetName)
    (c : AssetManagerContainer A) (assets : List A) (results : List InsertResult) : Prop where
  list : c._list.data = assets
  length : results.length = assets.length
  hash : ∃ es, StringHashMapA.EraseFreeState H c._hashMap es ∧
    ∀ k idx, .inserted k idx ∈ es ↔ InsertedAt getAssetName assets results k idx

theorem insertAll_concat (c : AssetManagerContainer A) (assets : List A) (a : A) :
    insertAll H getAssetName c (assets ++ [a]) = (insertAll H getAssetName c assets).bind fun st =>
      (insertNewAsset H getAssetName st.2 a).map fun r => (st.1 ++ [r.result], r.container) := by
  rw [insertAll, PartialRun.foldlM_concat]
  rfl

/-- The list and the hash map after an insertion. -/
theorem insertNewAsset_eq (c : AssetManagerContainer A) (a : A) :
    insertNewAsset H getAssetName c a = (c._list.pushBackCapacity a).map fun list =>
      let r := c._hashMap.tryInsert H (getAssetName a).1 (toUint32 ((list.getSize : Int) - 1))
      ⟨r.1, if r.1 = .success then none
        else some (errorString newAssetErrorHead (getAssetName a).1 r.1), ⟨list, r.2⟩⟩ := by
  rw [← PooledList.grow_pushBack, Option.map_eq_bind, Option.bind_assoc]
  rfl

theorem insertEvent_eq_inserted {k k' : CStr} {v v' : Nat} {r : InsertResult} :
    StringHashMapA.insertEvent k v r = .inserted k' v' ↔ r = .success ∧ k = k' ∧ v = v' := by
  cases r <;> simp [StringHashMapA.insertEvent]

theorem insertedAt_concat (hlen : results.length = assets.length) {a : A} {r : InsertResult}
    {k : CStr} {idx : Nat} :
    InsertedAt getAssetName (assets ++ [a]) (results ++ [r]) k idx ↔
      InsertedAt getAssetName assets results k idx ∨
        r = .success ∧ (getAssetName a).1 = k ∧ assets.length = idx := by
  unfold InsertedAt
  obtain hlt | rfl | hgt := Nat.lt_trichotomy idx assets.length
  · rw [List.getElem?_append_left hlt, List.getElem?_append_left (by omega)]
    constructor
    · exact Or.inl
    · rintro (h | ⟨_, _, h⟩)
      · exact h
      · omega
  · rw [List.getElem?_concat_length, ← hlen, List.getElem?_concat_length]
    constructor
    · rintro ⟨b, hb, hname, hr⟩
      cases hb
      cases hr
      exact Or.inr ⟨rfl, hname, rfl⟩
    · rintro (⟨b, _, _, hr⟩ | ⟨rfl, hname, _⟩)
      · rw [List.getElem?_eq_none (Nat.le_refl _)] at hr
        cases hr
      · exact ⟨a, rfl, hname, rfl⟩
  · have hnone : (assets ++ [a])[idx]? = none := List.getElem?_eq_none (by simp; omega)
    have hnone' : assets[idx]? = none := List.getElem?_eq_none (by omega)
    rw [hnone, hnone']
    constructor
    · rintro ⟨_, hb, _⟩
      cases hb
    · rintro (⟨_, hb, _⟩ | ⟨_, _, h⟩)
      · cases hb
      · omega

theorem containerState_new (H : CStr → UInt64 → UInt64) (getAssetName : A → AssetName)
    (raw : Nat → Nat) (poolCapacity : Nat) {hashCapacity : Nat} (hhash : 0 < hashCapacity)
    (limit : Nat) (seed : UInt64) :
    ContainerState H getAssetName (new raw poolCapacity hashCapacity limit seed) [] [] where
  list := rfl
  length := rfl
  hash := by
    refine ⟨[], StringHashMapA.eraseFreeState_new H raw hhash limit seed, fun k idx => ?_⟩
    simp [InsertedAt]

/-- One insertion that the list can take. -/
theorem ContainerState.insert (h : ContainerState H getAssetName c assets results)
    (hsize : assets.length < 2 ^ 32) {a : A} {list : PooledList A}
    (hpush : list.data = c._list.data ++ [a]) :
    ContainerState H getAssetName
      ⟨list, (c._hashMap.tryInsert H (getAssetName a).1 (toUint32 ((list.getSize : Int) - 1))).2⟩
      (assets ++ [a]) (results ++ [(c._hashMap.tryInsert H (getAssetName a).1
        (toUint32 ((list.getSize : Int) - 1))).1]) := by
  have hidx : toUint32 ((list.getSize : Int) - 1) = assets.length := by
    rw [PooledList.getSize_concat hpush, PooledList.getSize, h.list, Nat.cast_add, Nat.cast_one,
      add_sub_cancel_right, toUint32_natCast hsize]
  rw [hidx]
  obtain ⟨es, hes, hevents⟩ := h.hash
  obtain ⟨m', es', hstep, hes'⟩ := hes.opStep (.call (.insert (getAssetName a).1 assets.length))
    ⟨trivial, trivial⟩
  cases hstep
  refine ⟨?_, ?_, es ++ _, hes', ?_⟩
  · rw [hpush, h.list]
  · rw [List.length_append, List.length_append, h.length]
    rfl
  · intro k idx
    rw [insertedAt_concat h.length, ← hevents, List.mem_append, List.mem_singleton]
    refine or_congr_right ?_
    rw [eq_comm, ← insertEvent_eq_inserted]
    rfl

/-- An insertion that goes through, from a list that fits a `uint32`. -/
theorem ContainerState.insertNewAsset_some (h : ContainerState H getAssetName c assets results)
    (hcap : c._list.capacity < 2 ^ 32) {a : A} {r : Inserted A}
    (hr : insertNewAsset H getAssetName c a = some r) :
    c._list.Takes ∧ r.container._list.capacity < 2 ^ 32 ∧
      ContainerState H getAssetName r.container (assets ++ [a]) (results ++ [r.result]) := by
  rw [insertNewAsset_eq, Option.map_eq_some_iff] at hr
  obtain ⟨list, hpush, rfl⟩ := hr
  obtain ⟨htakes, hdata, hcap'⟩ := PooledList.pushBackCapacity_some hcap hpush
  have hle := c._list.size_le
  rw [h.list] at hle
  exact ⟨htakes, hcap', h.insert (by omega) hdata⟩

/-- What the container answers after the calls of a run. -/
structure FindsInserted (H : CStr → UInt64 → UInt64) (getAssetName : A → AssetName)
    (c : AssetManagerContainer A) (assets : List A) (results : List InsertResult) : Prop where
  results_length : results.length = assets.length
  by_index : ∀ idx, c.getAssetWithIdx idx = assets[idx]?
  by_name : ∀ (idx : Nat) (a : A), assets[idx]? = some a →
    results[idx]? = some InsertResult.success →
    c.findAssetWithName H (getAssetName a).1 = some (some a)
  once : ∀ name idx idx', InsertedAt getAssetName assets results name idx →
    InsertedAt getAssetName assets results name idx' → idx = idx'
  missing : ∀ name, (∀ idx, ¬ InsertedAt getAssetName assets results name idx) →
    c.findAssetWithName H name = some none
  invalid : ∀ name, ¬ StringHashMapA.ValidKey PATH_LEN_MAX name →
    c.findAssetWithName H name = some none

theorem findAssetWithName_eq {name : CStr} {r : FindResult} {foundIdx : Nat}
    (h : c._hashMap.tryFind H name SS_UINT32_MAX = (r, foundIdx)) :
    c.findAssetWithName H name =
      if r = .success then (c._list.get foundIdx).map some else some none := by
  unfold findAssetWithName
  rw [h]
  cases r <;> rfl

theorem findAssetWithName_invalid {name : CStr}
    (h : ¬ StringHashMapA.ValidKey PATH_LEN_MAX name) :
    c.findAssetWithName H name = some none := by
  have hidx : c._hashMap.tryFindIndex H name 0 = (.invalidStrKey, 0) := by
    unfold StringHashMapA.tryFindIndex
    rw [if_pos]
    unfold StringHashMapA.ValidKey at h
    omega
  have hfind : c._hashMap.tryFind H name SS_UINT32_MAX = (.invalidStrKey, SS_UINT32_MAX) := by
    unfold StringHashMapA.tryFind
    rw [hidx]
  rw [findAssetWithName_eq hfind, if_neg (by decide)]

theorem ContainerState.once (h : ContainerState H getAssetName c assets results) {name : CStr}
    {idx idx' : Nat} (h1 : InsertedAt getAssetName assets results name idx)
    (h2 : InsertedAt getAssetName assets results name idx') : idx = idx' := by
  obtain ⟨es, hes, hevents⟩ := h.hash
  obtain ⟨d, _, hfrom⟩ := hes.contents
  have hd1 := (hfrom name idx).mpr ((hevents name idx).mpr h1)
  have hd2 := (hfrom name idx').mpr ((hevents name idx').mpr h2)
  rw [hd1] at hd2
  exact Option.some.inj hd2

/-- A name under which an asset was inserted is a key of the hash map. -/
theorem ContainerState.validKey (h : ContainerState H getAssetName c assets results) {name : CStr}
    {idx : Nat} (h1 : InsertedAt getAssetName assets results name idx) :
    StringHashMapA.ValidKey PATH_LEN_MAX name := by
  obtain ⟨es, hes, hevents⟩ := h.hash
  obtain ⟨d, hd, hfrom⟩ := hes.contents
  have hd1 := (hfrom name idx).mpr ((hevents name idx).mpr h1)
  obtain ⟨p, hp, hheld, _⟩ := (hd.graph name idx).mp hd1
  exact hes.terminated.validKey hp hheld

theorem ContainerState.findsInserted (h : ContainerState H getAssetName c assets results) :
    FindsInserted H getAssetName c assets results where
  results_length := h.length
  by_index := by
    intro idx
    rw [getAssetWithIdx, PooledList.get_eq, h.list]
  by_name := by
    intro idx a ha hr
    have hins : InsertedAt getAssetName assets results (getAssetName a).1 idx := ⟨a, ha, rfl, hr⟩
    obtain ⟨es, hes, hevents⟩ := h.hash
    have hfind := (hes.exactAnswers (h.validKey hins)).found idx SS_UINT32_MAX
      ((hevents _ _).mpr hins)
    rw [findAssetWithName_eq hfind, if_pos rfl, PooledList.get_eq, h.list, ha, Option.map_some]
  once := fun _ _ _ h1 h2 => h.once h1 h2
  missing := by
    intro name hno
    by_cases hk : StringHashMapA.ValidKey PATH_LEN_MAX name
    · obtain ⟨es, hes, hevents⟩ := h.hash
      have hfind := (hes.exactAnswers hk).not_found SS_UINT32_MAX
        fun idx hin => hno idx ((hevents _ _).mp hin)
      rw [findAssetWithName_eq hfind, if_neg (by decide)]
    · exact findAssetWithName_invalid hk
  invalid := fun _ hk => findAssetWithName_invalid hk

/-- What a slot of the hash map holds was inserted. -/
theorem ContainerState.inserted_of_holds (h : ContainerState H getAssetName c assets results)
    {p : Nat} (hp : p < c._hashMap.poolCapacity) {name : CStr} (hheld : c._hashMap.Holds p name) :
    ∃ idx, InsertedAt getAssetName assets results name idx := by
  obtain ⟨es, hes, hevents⟩ := h.hash
  obtain ⟨d, hd, hfrom⟩ := hes.contents
  have hd1 := (hd.graph name _).mpr ⟨p, hp, hheld, rfl⟩
  exact ⟨_, (hevents name _).mp ((hfrom name _).mp hd1)⟩

/-- Every run of insertions into a fresh container goes through. The container has all the assets
in order, and finds by name exactly the assets whose insertion succeeded, at most one a name. -/
theorem container_run (H : CStr → UInt64 → UInt64) (getAssetName : A → AssetName)
    (raw : Nat → Nat) (poolCapacity hashCapacity : Nat) (hpool : 1 ≤ poolCapacity)
    (hhash : 1 ≤ hashCapacity) (hashCollisionLimit : Nat) (hashSeed : UInt64) (assets : List A)
    (hsize : assets.length < 2 ^ 31) :
    ∃ results c, insertAll H getAssetName
        (new raw poolCapacity hashCapacity hashCollisionLimit hashSeed) assets
          = some (results, c) ∧
      FindsInserted H getAssetName c assets results := by
  have hrun : ∃ results c, insertAll H getAssetName
        (new raw poolCapacity hashCapacity hashCollisionLimit hashSeed) assets
          = some (results, c) ∧
      0 < c._list.capacity ∧ ContainerState H getAssetName c assets results := by
    induction assets using List.reverseRecOn with
    | nil =>
      exact ⟨[], _, rfl, hpool, containerState_new H getAssetName raw poolCapacity hhash _ _⟩
    | append_singleton assets a ih =>
      rw [List.length_append, List.length_singleton] at hsize
      obtain ⟨results, c, hrun, hcap, hstate⟩ := ih (by omega)
      obtain ⟨list, hpush, hdata, hcap'⟩ := PooledList.pushBackCapacity_eq hcap
        (by rw [hstate.list]; omega) a
      refine ⟨_, _, ?_, hcap', hstate.insert (by omega) hdata⟩
      rw [insertAll_concat, hrun, Option.bind_some, insertNewAsset_eq, hpush]
      rfl
  obtain ⟨results, c, hrun, _, hstate⟩ := hrun
  exact ⟨results, c, hrun, hstate.findsInserted⟩

/-- A pool and a hash map of one place, and three assets. -/
theorem container_run_grows :
    ∃ results c, insertAll (fun _ _ => 0) (fun a : AssetName => a) (new (fun _ => 0) 1 1 1 0)
        [⟨StringHashMapA.keyA, by decide⟩, ⟨StringHashMapA.keyB, by decide⟩,
          ⟨StringHashMapA.keyA, by decide⟩] = some (results, c) ∧
      FindsInserted (fun _ _ => 0) (fun a : AssetName => a) c
        [⟨StringHashMapA.keyA, by decide⟩, ⟨StringHashMapA.keyB, by decide⟩,
          ⟨StringHashMapA.keyA, by decide⟩] results :=
  container_run (fun _ _ => 0) (fun a : AssetName => a) (fun _ => 0) 1 1 (by decide) (by decide) 1 0
    _ (by decide)

end Run

section Agreement

/-- The number of slots of the hash map that hold a key. -/
def occupied {T : Type} {n : Nat} (m : StringHashMapA T n) : Nat :=
  ((Finset.range m.poolCapacity).filter fun p => (m.strPool p).getLen ≠ 0).card

/-- `TryInsert` has nothing to object: the name is a key, no slot holds it, and one of the slots
that it may use is empty. -/
def Insertable (H : CStr → UInt64 → UInt64) (m : StringHashMapA Nat PATH_LEN_MAX) (name : CStr) :
    Prop :=
  StringHashMapA.ValidKey PATH_LEN_MAX name ∧ (∀ p, p < m.poolCapacity → ¬ m.Holds p name) ∧
    m.HasRoom H name

/-- List and hash map agree: by its name an asset of the list finds itself, and there are as many
of them as used slots. -/
def Agree (H : CStr → UInt64 → UInt64) (getAssetName : A → AssetName)
    (c : AssetManagerContainer A) : Prop :=
  (∀ a ∈ c._list.data, c.findAssetWithName H (getAssetName a).1 = some (some a)) ∧
    c._list.getSize = occupied c._hashMap

/-- Of a run of insertions from the container `start`: list and hash map agree in every state, and
a call that does not return `Success` leaves the container as it was. -/
def KeepsAgreement (H : CStr → UInt64 → UInt64) (getAssetName : A → AssetName)
    (start : AssetManagerContainer A) (assets : List A) : Prop :=
  ∀ done, done <+: assets → ∀ results c,
    insertAll H getAssetName start done = some (results, c) →
      Agree H getAssetName c ∧
        ∀ a, done ++ [a] <+: assets → ∀ r, insertNewAsset H getAssetName c a = some r →
          r.result ≠ .success → r.container = c

/-- Of a run of insertions: whenever the list can take the next asset, the hash map can take its
name. -/
def EachInsertable (H : CStr → UInt64 → UInt64) (getAssetName : A → AssetName)
    (start : AssetManagerContainer A) (assets : List A) : Prop :=
  ∀ done a, done ++ [a] <+: assets → ∀ results c,
    insertAll H getAssetName start done = some (results, c) →
      c._list.Takes → Insertable H c._hashMap (getAssetName a).1

variable {H : CStr → UInt64 → UInt64} {getAssetName : A → AssetName}
  {c : AssetManagerContainer A} {assets : List A} {results : List InsertResult}

theorem occupied_store {T : Type} {n : Nat} {m : StringHashMapA T n} {p : Nat} {k : CStr}
    (hp : p < m.poolCapacity) (hempty : (m.strPool p).getLen = 0)
    (hk : StringHashMapA.ValidKey n k) (v : T) :
    occupied (m.store p k v hk.2) = occupied m + 1 := by
  have hfilter : (Finset.range m.poolCapacity).filter
        (fun q => ((m.store p k v hk.2).strPool q).getLen ≠ 0)
      = insert p ((Finset.range m.poolCapacity).filter fun q => (m.strPool q).getLen ≠ 0) := by
    ext q
    rw [Finset.mem_insert, Finset.mem_filter, Finset.mem_filter, Finset.mem_range]
    by_cases hq : q = p
    · subst hq
      simp [StringHashMapA.store, hk.1, hp]
    · simp [StringHashMapA.store, hq]
  have hnot : p ∉ (Finset.range m.poolCapacity).filter fun q => (m.strPool q).getLen ≠ 0 := by
    simp [hempty]
  show ((Finset.range m.poolCapacity).filter _).card = _
  rw [hfilter, Finset.card_insert_of_notMem hnot]
  rfl

/-- In a state of the run `TryInsert` returns `Success` exactly when it has nothing to object. -/
theorem ContainerState.success_iff (h : ContainerState H getAssetName c assets results)
    (name : CStr) (v : Nat) :
    (c._hashMap.tryInsert H name v).1 = .success ↔ Insertable H c._hashMap name := by
  obtain ⟨es, hes, _⟩ := h.hash
  obtain ⟨d, hd, _⟩ := hes.contents
  have hheld : d name = none ↔ ∀ p, p < c._hashMap.poolCapacity → ¬ c._hashMap.Holds p name := by
    constructor
    · intro hnone p hp hheld
      rw [(hd.graph name _).mpr ⟨p, hp, hheld, rfl⟩] at hnone
      cases hnone
    · intro hno
      cases hdn : d name with
      | none => rfl
      | some w =>
        obtain ⟨p, hp, hheld, _⟩ := (hd.graph name w).mp hdn
        exact absurd hheld (hno p hp)
  unfold Insertable
  by_cases hk : StringHashMapA.ValidKey PATH_LEN_MAX name
  · rw [← hheld, and_iff_right hk]
    obtain ⟨hin, hr⟩ | ⟨hout, hroom, hr⟩ | ⟨hout, hroom, hr⟩ :=
      hes.noGap.tryInsert_outcome hd hk v
    · simp [hr, hin]
    · simp [hr, hroom]
    · simp [hr, hroom, hout]
  · rw [StringHashMapA.tryInsert_invalid hk]
    simp [hk]

/-- The states of a run in which every insertion has succeeded. -/
structure GoodState (H : CStr → UInt64 → UInt64) (getAssetName : A → AssetName)
    (c : AssetManagerContainer A) (assets : List A) (results : List InsertResult) : Prop where
  state : ContainerState H getAssetName c assets results
  all_success : ∀ r ∈ results, r = InsertResult.success
  occupied_eq : occupied c._hashMap = assets.length

theorem GoodState.agree (h : GoodState H getAssetName c assets results) :
    Agree H getAssetName c := by
  constructor
  · intro a ha
    rw [h.state.list] at ha
    obtain ⟨idx, hidx⟩ := List.mem_iff_getElem?.mp ha
    refine h.state.findsInserted.by_name idx a hidx ?_
    have hlt : idx < results.length := by
      rw [h.state.length]
      exact (List.getElem?_eq_some_iff.mp hidx).1
    rw [List.getElem?_eq_getElem hlt, h.all_success _ (List.getElem_mem hlt)]
  · rw [PooledList.getSize, h.state.list, h.occupied_eq]

theorem goodState_new (H : CStr → UInt64 → UInt64) (getAssetName : A → AssetName)
    (raw : Nat → Nat) (poolCapacity : Nat) {hashCapacity : Nat} (hhash : 0 < hashCapacity)
    (limit : Nat) (seed : UInt64) :
    GoodState H getAssetName (new raw poolCapacity hashCapacity limit seed) [] [] where
  state := containerState_new H getAssetName raw poolCapacity hhash limit seed
  all_success := fun _ hr => (List.not_mem_nil hr).elim
  occupied_eq := Finset.card_eq_zero.mpr (Finset.filter_eq_empty_iff.mpr fun p _ => by
    simp [new, StringHashMapA.new])

/-- An insertion that succeeds uses one more slot. -/
theorem GoodState.insert (h : GoodState H getAssetName c assets results)
    (hcap : c._list.capacity < 2 ^ 32) {a : A} {r : Inserted A}
    (hr : insertNewAsset H getAssetName c a = some r)
    (hins : Insertable H c._hashMap (getAssetName a).1) :
    GoodState H getAssetName r.container (assets ++ [a]) (results ++ [r.result]) := by
  obtain ⟨_, _, hstate⟩ := h.state.insertNewAsset_some hcap hr
  rw [insertNewAsset_eq, Option.map_eq_some_iff] at hr
  obtain ⟨list, hpush, rfl⟩ := hr
  obtain ⟨es, hes, _⟩ := h.state.hash
  obtain ⟨d, hd, _⟩ := hes.contents
  have hsuccess := (h.state.success_iff (getAssetName a).1
    (toUint32 ((list.getSize : Int) - 1))).mpr hins
  refine ⟨hstate, ?_, ?_⟩
  · intro s hs
    obtain hs | hs := List.mem_append.mp hs
    · exact h.all_success s hs
    · rw [List.mem_singleton.mp hs]
      exact hsuccess
  · obtain ⟨_, _, _, _, hcase⟩ | ⟨_, hcase⟩ | ⟨i, _, hempty, _, hcase⟩ :=
      StringHashMapA.tryInsert_cases (H := H) hd.cap_pos hins.1
        (toUint32 ((list.getSize : Int) - 1))
    · rw [hcase] at hsuccess
      cases hsuccess
    · rw [hcase] at hsuccess
      cases hsuccess
    · rw [List.length_append, List.length_singleton, ← h.occupied_eq]
      show occupied (c._hashMap.tryInsert H (getAssetName a).1
        (toUint32 ((list.getSize : Int) - 1))).2 = _
      rw [hcase, occupied_store (StringHashMapA.window_lt hd.cap_pos _ i) hempty hins.1]

theorem prefix_of_concat {done : List A} {a : A} (h : done ++ [a] <+: assets) : done <+: assets :=
  (List.prefix_append done [a]).trans h

/-- The last call of a run, and the run before it. -/
theorem insertAll_concat_some {start : AssetManagerContainer A} {a : A}
    (h : insertAll H getAssetName start (assets ++ [a]) = some (results, c)) :
    ∃ results' c' r, insertAll H getAssetName start assets = some (results', c') ∧
      insertNewAsset H getAssetName c' a = some r ∧ results = results' ++ [r.result] ∧
      c = r.container := by
  rw [insertAll_concat, Option.bind_eq_some_iff] at h
  obtain ⟨⟨results', c'⟩, hrun, h⟩ := h
  obtain ⟨r, hr, h⟩ := Option.map_eq_some_iff.mp h
  cases h
  exact ⟨results', c', r, hrun, hr, rfl, rfl⟩

section FromNew

variable {raw : Nat → Nat} {poolCapacity hashCapacity limit : Nat} {seed : UInt64}

theorem insertAll_state (hpool : poolCapacity < 2 ^ 32) (hhash : 0 < hashCapacity) :
    ∀ {done : List A} {results c}, insertAll H getAssetName
        (new raw poolCapacity hashCapacity limit seed) done = some (results, c) →
      c._list.capacity < 2 ^ 32 ∧ ContainerState H getAssetName c done results := by
  intro done
  induction done using List.reverseRecOn with
  | nil =>
    intro results c h
    cases h
    exact ⟨hpool, containerState_new H getAssetName raw poolCapacity hhash limit seed⟩
  | append_singleton done a ih =>
    intro results c h
    obtain ⟨results', c', r, hrun, hr, rfl, rfl⟩ := insertAll_concat_some h
    obtain ⟨hcap, hstate⟩ := ih hrun
    exact (hstate.insertNewAsset_some hcap hr).2

theorem insertAll_good (hpool : poolCapacity < 2 ^ 32) (hhash : 0 < hashCapacity)
    (heach : EachInsertable H getAssetName (new raw poolCapacity hashCapacity limit seed) assets) :
    ∀ {done : List A} {results c}, done <+: assets → insertAll H getAssetName
        (new raw poolCapacity hashCapacity limit seed) done = some (results, c) →
      GoodState H getAssetName c done results := by
  intro done
  induction done using List.reverseRecOn with
  | nil =>
    intro results c _ h
    cases h
    exact goodState_new H getAssetName raw poolCapacity hhash limit seed
  | append_singleton done a ih =>
    intro results c hpre h
    obtain ⟨results', c', r, hrun, hr, rfl, rfl⟩ := insertAll_concat_some h
    have hgood := ih (prefix_of_concat hpre) hrun
    obtain ⟨hcap, hstate⟩ := insertAll_state hpool hhash hrun
    have htakes := (hstate.insertNewAsset_some hcap hr).1
    exact hgood.insert hcap hr (heach done a hpre results' c' hrun htakes)

/-- An insertion that goes through changes the list. -/
theorem insertNewAsset_ne {a : A} {r : Inserted A} (hcap : c._list.capacity < 2 ^ 32)
    (hr : insertNewAsset H getAssetName c a = some r) : r.container ≠ c := by
  rw [insertNewAsset_eq, Option.map_eq_some_iff] at hr
  obtain ⟨list, hpush, rfl⟩ := hr
  obtain ⟨_, hdata, _⟩ := PooledList.pushBackCapacity_some hcap hpush
  intro heq
  have hlist : list = c._list := congrArg AssetManagerContainer._list heq
  rw [hlist] at hdata
  have hlen := congrArg List.length hdata
  rw [List.length_append, List.length_singleton] at hlen
  omega

/-- What a run needs for list and hash map to agree. -/
theorem eachInsertable_of_keepsAgreement (hpool : poolCapacity < 2 ^ 32) (hhash : 0 < hashCapacity)
    (h : KeepsAgreement H getAssetName (new raw poolCapacity hashCapacity limit seed) assets) :
    EachInsertable H getAssetName (new raw poolCapacity hashCapacity limit seed) assets := by
  intro done a hpre results c hrun htakes
  obtain ⟨hcap, hstate⟩ := insertAll_state hpool hhash hrun
  obtain ⟨list, hpush⟩ := PooledList.pushBackCapacity_of_takes htakes a
  have hr : insertNewAsset H getAssetName c a = _ := insertNewAsset_eq c a
  rw [hpush, Option.map_some] at hr
  obtain ⟨_, hfailed⟩ := h done (prefix_of_concat hpre) results c hrun
  have hsuccess := hfailed a hpre _ hr
  refine (hstate.success_iff _ (toUint32 ((list.getSize : Int) - 1))).mp ?_
  by_contra hne
  exact insertNewAsset_ne hcap hr (hsuccess hne)

end FromNew

/-- List and hash map agree in all states of a run, and a call that fails changes nothing, exactly
when the hash map has nothing to object to any of the names that the list can take. -/
theorem keeps_agreement_iff (H : CStr → UInt64 → UInt64) (getAssetName : A → AssetName)
    (raw : Nat → Nat) (poolCapacity hashCapacity : Nat) (hpool : poolCapacity < 2 ^ 32)
    (hhash : 0 < hashCapacity) (hashCollisionLimit : Nat) (hashSeed : UInt64) (assets : List A) :
    KeepsAgreement H getAssetName
        (new raw poolCapacity hashCapacity hashCollisionLimit hashSeed) assets ↔
      EachInsertable H getAssetName
        (new raw poolCapacity hashCapacity hashCollisionLimit hashSeed) assets := by
  constructor
  · exact eachInsertable_of_keepsAgreement hpool hhash
  · intro heach done hpre results c hrun
    have hgood := insertAll_good hpool hhash heach hpre hrun
    refine ⟨hgood.agree, fun a hpre' r hr hne => ?_⟩
    obtain ⟨hcap, hstate⟩ := insertAll_state hpool hhash hrun
    have htakes := (hstate.insertNewAsset_some hcap hr).1
    have hins := heach done a hpre' results c hrun htakes
    rw [insertNewAsset_eq, Option.map_eq_some_iff] at hr
    obtain ⟨list, _, rfl⟩ := hr
    exact absurd ((hstate.success_iff _ _).mpr hins) hne

theorem keeps_agreement_iff_two :
    KeepsAgreement (fun _ _ => 0) (fun a : AssetName => a) (new (fun _ => 0) 1 2 2 0)
        [⟨StringHashMapA.keyA, by decide⟩, ⟨StringHashMapA.keyB, by decide⟩] ↔
      EachInsertable (fun _ _ => 0) (fun a : AssetName => a) (new (fun _ => 0) 1 2 2 0)
        [⟨StringHashMapA.keyA, by decide⟩, ⟨StringHashMapA.keyB, by decide⟩] :=
  keeps_agreement_iff (fun _ _ => 0) (fun a : AssetName => a) (fun _ => 0) 1 2 (by decide)
    (by decide) 2 0 _

/-- The same name twice: the second call fails, and its asset stays in the list. -/
theorem keeps_agreement_fails :
    ¬ KeepsAgreement (fun _ _ => 0) (fun a : AssetName => a) (new (fun _ => 0) 4 4 4 0)
        [⟨StringHashMapA.keyA, by decide⟩, ⟨StringHashMapA.keyA, by decide⟩] := by
  intro h
  have heach := eachInsertable_of_keepsAgreement (by decide) (by decide) h
  have hins := heach [⟨StringHashMapA.keyA, by decide⟩] ⟨StringHashMapA.keyA, by decide⟩
    List.prefix_rfl _ _ rfl (Or.inl (by decide))
  exact hins.2.1 0 (by decide) ⟨by decide, rfl⟩

end Agreement

end AssetManagerContainer

end FBXRenderer

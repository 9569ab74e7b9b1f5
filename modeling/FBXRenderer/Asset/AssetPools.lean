import FBXRenderer.Asset.AssetManagerContainer
import FBXRenderer.Importer.TraverseShaders

/-!
# FBXRenderer.Asset.AssetPools

The insert operations of the seven asset managers that have a pool of their own: geometries, models,
model combinations, textures, shaders, materials and skeletons. Each pushes the asset to its pool
and enters the name in its hash map; the one about materials and the one about skeletons double a
full pool first.

A refused name is an `alert`, after which the operation returns: the message of an assertion on the
text itself (never null), of a break point for the debugger, or of the `_wassert` of
`InsertNewShaderAsset`. All of these are gone in a release build, and behind none of them is there a
statement that needs the insertion to have succeeded. A push to a full pool is the assertion of
`PushBack`, behind which the list would be overrun: that is `none`.

* `pushes_below_capacity_iff`: every push of a run finds room exactly when no manager is given more
  assets than its pool can come to hold, which for the five that never grow is the start capacity.
* `scene_pushes_below_capacity_iff`: for a scene that is the number of its mesh nodes.
-/

namespace FBXRenderer

open SS

/-- The two fields that the managers have in common, under the names most of them use. -/
structure AssetManager (A : Type) (STR_LEN_MAX : Nat) where
  _assetPool : PooledList A
  _assetHash : StringHashMapA Nat STR_LEN_MAX

/-- An insertion: the text of a failed assertion or of the message box, and the manager. -/
structure Stored (A : Type) (STR_LEN_MAX : Nat) where
  alert : Option (List UInt8)
  manager : AssetManager A STR_LEN_MAX

/-- The pool that is pushed to, doubled if it was full and the operation looks. -/
def poolToPush {A : Type} (grows : Bool) (pool : PooledList A) : Option (PooledList A) :=
  if grows && pool.isFull then pool.increaseCapacityAndCopy (toUint32 (pool.capacity * 2 : Nat))
  else some pool

namespace AssetManager

variable {A : Type} {STR_LEN_MAX : Nat}

def new (raw : Nat → Nat) (poolCapacity hashCapacity hashCollisionLimit : Nat) (hashSeed : UInt64) :
    AssetManager A STR_LEN_MAX where
  _assetPool := PooledList.new poolCapacity
  _assetHash := StringHashMapA.new raw hashCapacity hashCollisionLimit hashSeed

/-- What the insert operations share. `none` is a push to a full pool. -/
def insert (grows : Bool) (report : CStr → InsertResult → List UInt8)
    (cityHash64WithSeed : CStr → UInt64 → UInt64) (getAssetName : A → AssetName)
    (m : AssetManager A STR_LEN_MAX) (newAsset : A) : Option (Stored A STR_LEN_MAX) := do
  let pool ← poolToPush grows m._assetPool
  let pool ← pool.pushBack newAsset
  let name := (getAssetName newAsset).1
  let r := m._assetHash.tryInsert cityHash64WithSeed name (toUint32 ((pool.getSize : Int) - 1))
  some {
    alert := if r.1 = .success then none else some (report name r.1)
    manager := { _assetPool := pool, _assetHash := r.2 } }

end AssetManager

section Insert

variable {A : Type} (cityHash64WithSeed : CStr → UInt64 → UInt64) (getAssetName : A → AssetName)

def SSGeometryAssetManager.insertNewGeometry :
    AssetManager A ASSET_NAME_LEN_MAX → A → Option (Stored A ASSET_NAME_LEN_MAX) :=
  AssetManager.insert false
    (errorString "new geometry insertion failed on hashmap. (geometry name: ")
    cityHash64WithSeed getAssetName

def SSModelAssetManager.insertNewModel :
    AssetManager A PATH_LEN_MAX → A → Option (Stored A PATH_LEN_MAX) :=
  AssetManager.insert false (fun _ _ => asciiBytes "new asset insert failed")
    cityHash64WithSeed getAssetName

def SSModelCombinationAssetManager.insertNewAsset :
    AssetManager A PATH_LEN_MAX → A → Option (Stored A PATH_LEN_MAX) :=
  AssetManager.insert false (fun _ _ => asciiBytes "new asset insert failed")
    cityHash64WithSeed getAssetName

def SSTextureAssetManager.insertNewAsset :
    AssetManager A ASSET_NAME_LEN_MAX → A → Option (Stored A ASSET_NAME_LEN_MAX) :=
  AssetManager.insert false (fun _ _ => asciiBytes "new asset insert failed")
    cityHash64WithSeed getAssetName

/-- The switch of `InsertNewShaderAsset`. -/
def SSShaderAssetManager.insertErrorText : InsertResult → List UInt8
  | .keyAlreadyExist => asciiBytes "Shader asset's name must be unique"
  | _ => asciiBytes "Error!"

def SSShaderAssetManager.insertNewShaderAsset :
    AssetManager A PATH_LEN_MAX → A → Option (Stored A PATH_LEN_MAX) :=
  AssetManager.insert false (fun _ result => insertErrorText result)
    cityHash64WithSeed getAssetName

def SSMaterialAssetManager.insertNewMaterial :
    AssetManager A PATH_LEN_MAX → A → Option (Stored A PATH_LEN_MAX) :=
  AssetManager.insert true
    (errorString "new material insertion failed on hashmap. (material name: ")
    cityHash64WithSeed getAssetName

/-- Its text is the one about materials. -/
def SSSkeletonAssetManager.insertNewAsset :
    AssetManager A PATH_LEN_MAX → A → Option (Stored A PATH_LEN_MAX) :=
  AssetManager.insert true
    (errorString "new material insertion failed on hashmap. (material name: ")
    cityHash64WithSeed getAssetName

end Insert

inductive ManagerKind where
  | geometry
  | model
  | modelCombination
  | texture
  | shader
  | material
  | skeleton
deriving DecidableEq

namespace ManagerKind

/-- The length limit of the hash map. -/
def strLenMax : ManagerKind → Nat
  | .geometry | .texture => ASSET_NAME_LEN_MAX
  | .model | .modelCombination | .shader | .material | .skeleton => PATH_LEN_MAX

def insertOp {A : Type} (H : CStr → UInt64 → UInt64) (getAssetName : A → AssetName) :
    (k : ManagerKind) → AssetManager A k.strLenMax → A → Option (Stored A k.strLenMax)
  | .geometry => SSGeometryAssetManager.insertNewGeometry H getAssetName
  | .model => SSModelAssetManager.insertNewModel H getAssetName
  | .modelCombination => SSModelCombinationAssetManager.insertNewAsset H getAssetName
  | .texture => SSTextureAssetManager.insertNewAsset H getAssetName
  | .shader => SSShaderAssetManager.insertNewShaderAsset H getAssetName
  | .material => SSMaterialAssetManager.insertNewMaterial H getAssetName
  | .skeleton => SSSkeletonAssetManager.insertNewAsset H getAssetName

/-- The operations that check for a full pool. -/
def grows : ManagerKind → Bool
  | .material | .skeleton => true
  | .geometry | .model | .modelCombination | .texture | .shader => false

/-- How many assets a pool of the given start capacity can come to hold. -/
def poolLimit (k : ManagerKind) (poolCapacity : Nat) : Nat :=
  if k.grows then PooledList.maxCapacity poolCapacity else poolCapacity

/-- The pool capacities `SSRenderer::Init` instantiates the managers with. -/
def initCapacity : ManagerKind → Nat
  | .geometry | .model => meshPoolCapacity
  | .modelCombination | .texture | .shader | .material | .skeleton => 100

end ManagerKind

/-- The managers, with the assets of each of a type of its own. -/
abbrev AssetManagers (A : ManagerKind → Type) := (k : ManagerKind) → AssetManager (A k) k.strLenMax

namespace AssetManagers

variable {A : ManagerKind → Type}

def new (raw : Nat → Nat) (poolCapacity hashCapacity hashCollisionLimit : ManagerKind → Nat)
    (hashSeed : UInt64) : AssetManagers A := fun k =>
  AssetManager.new raw (poolCapacity k) (hashCapacity k) (hashCollisionLimit k) hashSeed

variable (H : CStr → UInt64 → UInt64) (getAssetName : (k : ManagerKind) → A k → AssetName)

def insertOne (ms : AssetManagers A) (op : (k : ManagerKind) × A k) : Option (AssetManagers A) :=
  (op.1.insertOp H (getAssetName op.1) (ms op.1) op.2).map fun r =>
    Function.update ms op.1 r.manager

def insertAll (ms : AssetManagers A) (ops : List ((k : ManagerKind) × A k)) :
    Option (AssetManagers A) :=
  ops.foldlM (insertOne H getAssetName) ms

/-- Every insertion of the run pushes to a pool whose size is below its capacity. -/
def PushesBelowCapacity (start : AssetManagers A) (ops : List ((k : ManagerKind) × A k)) : Prop :=
  ∀ done op, done ++ [op] <+: ops → ∃ ms pool, insertAll H getAssetName start done = some ms ∧
    poolToPush op.1.grows (ms op.1)._assetPool = some pool ∧ pool.getSize < pool.capacity

/-- The assets of a run that go to one manager. -/
def insertCount (ops : List ((k : ManagerKind) × A k)) (k : ManagerKind) : Nat :=
  ops.countP (·.1 = k)

variable {H getAssetName} {start ms : AssetManagers A} {ops : List ((k : ManagerKind) × A k)}
  {op : (k : ManagerKind) × A k} {poolCapacity : ManagerKind → Nat}

/-- The pools after a run of insertions. -/
structure PoolsHold (poolCapacity : ManagerKind → Nat) (ops : List ((k : ManagerKind) × A k))
    (ms : AssetManagers A) : Prop where
  size : ∀ k, (ms k)._assetPool.data.length = insertCount ops k
  fixed : ∀ k, k.grows = false → (ms k)._assetPool.capacity = poolCapacity k
  grown : ∀ k, k.grows = true → PooledList.GrownFrom (poolCapacity k) (ms k)._assetPool.capacity

theorem insertAll_concat (start : AssetManagers A) (ops : List ((k : ManagerKind) × A k))
    (op : (k : ManagerKind) × A k) :
    insertAll H getAssetName start (ops ++ [op]) =
      (insertAll H getAssetName start ops).bind fun ms => insertOne H getAssetName ms op := by
  rw [insertAll, PartialRun.foldlM_concat]
  rfl

@[simp] theorem insertCount_nil (k : ManagerKind) :
    insertCount ([] : List ((k : ManagerKind) × A k)) k = 0 := rfl

theorem insertCount_concat (ops : List ((k : ManagerKind) × A k)) (op : (k : ManagerKind) × A k)
    (k : ManagerKind) :
    insertCount (ops ++ [op]) k = insertCount ops k + if op.1 = k then 1 else 0 := by
  simp [insertCount, List.countP_append, List.countP_cons]

theorem poolToPush_pushBack {A : Type} (grows : Bool) (pool : PooledList A) (x : A) :
    (poolToPush grows pool).bind (·.pushBack x) =
      if grows then pool.pushBackCapacity x else pool.pushBack x := by
  cases grows with
  | false => rfl
  | true => simpa [poolToPush] using PooledList.grow_pushBack pool x

/-- All insert operations are the shared one, with texts of their own. -/
theorem insertOp_eq {A : Type} (H : CStr → UInt64 → UInt64) (getAssetName : A → AssetName)
    (k : ManagerKind) :
    ∃ report, k.insertOp H getAssetName = AssetManager.insert k.grows report H getAssetName := by
  cases k with
  | geometry | material | skeleton => exact ⟨_, rfl⟩
  | model | modelCombination | texture =>
    exact ⟨fun _ _ => asciiBytes "new asset insert failed", rfl⟩
  | shader => exact ⟨fun _ result => SSShaderAssetManager.insertErrorText result, rfl⟩

/-- What an insert operation does to the pool. -/
theorem insertOp_pool {A : Type} (H : CStr → UInt64 → UInt64) (getAssetName : A → AssetName)
    (k : ManagerKind) (m : AssetManager A k.strLenMax) (a : A) :
    (k.insertOp H getAssetName m a).map (·.manager._assetPool) =
      (poolToPush k.grows m._assetPool).bind (·.pushBack a) := by
  obtain ⟨report, hop⟩ := insertOp_eq H getAssetName k
  rw [hop]
  unfold AssetManager.insert
  cases poolToPush k.grows m._assetPool with
  | none => rfl
  | some pool =>
    simp only [Option.bind_eq_bind, Option.bind_some]
    cases pool.pushBack a <;> rfl

/-- A push goes through exactly below the capacity. -/
theorem exists_pushBack_iff {A : Type} {toPush : Option (PooledList A)} (x : A) :
    (∃ pool', toPush.bind (·.pushBack x) = some pool') ↔
      ∃ pool, toPush = some pool ∧ pool.getSize < pool.capacity := by
  constructor
  · rintro ⟨pool', h⟩
    obtain ⟨pool, rfl, hpush⟩ := Option.bind_eq_some_iff.mp h
    exact ⟨pool, rfl, (PooledList.pushBack_some hpush).1⟩
  · rintro ⟨pool, rfl, hlt⟩
    obtain ⟨pool', h, _⟩ := PooledList.pushBack_eq hlt x
    exact ⟨pool', h⟩

/-- An insertion finds room exactly below the limit of its manager. -/
theorem PoolsHold.room_iff (h : PoolsHold poolCapacity ops ms)
    (hcap : ∀ k, poolCapacity k < 2 ^ 32) (op : (k : ManagerKind) × A k) :
    (∃ pool, poolToPush op.1.grows (ms op.1)._assetPool = some pool ∧
        pool.getSize < pool.capacity) ↔
      insertCount ops op.1 < op.1.poolLimit (poolCapacity op.1) := by
  rw [← exists_pushBack_iff op.2, poolToPush_pushBack, ← h.size op.1, ManagerKind.poolLimit]
  cases hgrows : op.1.grows with
  | false =>
    rw [if_neg Bool.false_ne_true, if_neg Bool.false_ne_true, ← h.fixed op.1 hgrows]
    constructor
    · rintro ⟨pool', hpush⟩
      exact (PooledList.pushBack_some hpush).1
    · intro hlt
      obtain ⟨pool', hpush, _⟩ := PooledList.pushBack_eq hlt op.2
      exact ⟨pool', hpush⟩
  | true =>
    have hgrown := h.grown op.1 hgrows
    rw [if_pos rfl, if_pos rfl, ← PooledList.takes_iff (hcap op.1) hgrown]
    constructor
    · rintro ⟨pool', hpush⟩
      exact (PooledList.pushBackCapacity_some hgrown.lt hpush).1
    · intro htakes
      exact PooledList.pushBackCapacity_of_takes htakes op.2

theorem poolsHold_new (raw : Nat → Nat) (hcap : ∀ k, poolCapacity k < 2 ^ 32)
    (hashCapacity limit : ManagerKind → Nat) (seed : UInt64) :
    PoolsHold (A := A) poolCapacity [] (new raw poolCapacity hashCapacity limit seed) where
  size := fun _ => rfl
  fixed := fun _ _ => rfl
  grown := fun k _ => ⟨0, by simp [new, AssetManager.new], hcap k⟩

/-- The pool that an insertion leaves in its manager. -/
theorem PoolsHold.push (h : PoolsHold poolCapacity ops ms) {op : (k : ManagerKind) × A k}
    {pool : PooledList (A op.1)}
    (hpush : (poolToPush op.1.grows (ms op.1)._assetPool).bind (·.pushBack op.2) = some pool) :
    pool.data.length = insertCount ops op.1 + 1 ∧
      (op.1.grows = false → pool.capacity = poolCapacity op.1) ∧
      (op.1.grows = true → PooledList.GrownFrom (poolCapacity op.1) pool.capacity) := by
  rw [poolToPush_pushBack] at hpush
  have hsize := h.size op.1
  cases hgrows : op.1.grows with
  | false =>
    rw [hgrows, if_neg Bool.false_ne_true] at hpush
    obtain ⟨_, hdata, hcap⟩ := PooledList.pushBack_some hpush
    refine ⟨?_, fun _ => hcap.trans (h.fixed op.1 hgrows), Bool.noConfusion⟩
    rw [hdata, List.length_append, List.length_singleton, hsize]
  | true =>
    rw [hgrows, if_pos rfl] at hpush
    have hgrown := h.grown op.1 hgrows
    obtain ⟨_, hdata, _⟩ := PooledList.pushBackCapacity_some hgrown.lt hpush
    refine ⟨?_, Bool.noConfusion, fun _ => PooledList.pushBackCapacity_grown hgrown hpush⟩
    rw [hdata, List.length_append, List.length_singleton, hsize]

/-- A manager is replaced, the others stay. -/
theorem forall_update {Q : (k : ManagerKind) → PooledList (A k) → Prop}
    {m : AssetManager (A op.1) op.1.strLenMax} (hop : Q op.1 m._assetPool)
    (hothers : ∀ k, op.1 ≠ k → Q k (ms k)._assetPool) (k : ManagerKind) :
    Q k (Function.update ms op.1 m k)._assetPool := by
  by_cases hk : op.1 = k
  · subst hk
    rw [Function.update_self]
    exact hop
  · rw [Function.update_of_ne (Ne.symm hk)]
    exact hothers k hk

/-- One insertion. -/
theorem PoolsHold.insertOne (h : PoolsHold poolCapacity ops ms) {ms' : AssetManagers A}
    (hins : insertOne H getAssetName ms op = some ms') :
    PoolsHold poolCapacity (ops ++ [op]) ms' := by
  obtain ⟨r, hr, rfl⟩ := Option.map_eq_some_iff.mp hins
  have hpool := insertOp_pool H (getAssetName op.1) op.1 (ms op.1) op.2
  rw [hr, Option.map_some] at hpool
  obtain ⟨hsize, hfixed, hgrown⟩ := h.push hpool.symm
  constructor
  case size =>
    refine forall_update (Q := fun k pool => pool.data.length = insertCount (ops ++ [op]) k) ?_ ?_
    · rw [insertCount_concat, if_pos rfl, hsize]
    · intro k hk
      rw [insertCount_concat, if_neg hk, h.size k, Nat.add_zero]
  case fixed =>
    exact forall_update (Q := fun k pool => k.grows = false → pool.capacity = poolCapacity k)
      hfixed fun k _ => h.fixed k
  case grown =>
    exact forall_update
      (Q := fun k pool => k.grows = true → PooledList.GrownFrom (poolCapacity k) pool.capacity)
      hgrown fun k _ => h.grown k

/-- An insertion goes through exactly when its push finds room. -/
theorem insertOne_isSome_iff (ms : AssetManagers A) (op : (k : ManagerKind) × A k) :
    (∃ ms', insertOne H getAssetName ms op = some ms') ↔
      ∃ pool, poolToPush op.1.grows (ms op.1)._assetPool = some pool ∧
        pool.getSize < pool.capacity := by
  rw [← exists_pushBack_iff op.2, ← insertOp_pool H (getAssetName op.1)]
  unfold AssetManagers.insertOne
  cases op.1.insertOp H (getAssetName op.1) (ms op.1) op.2 <;> simp

section FromNew

variable {raw : Nat → Nat} {hashCapacity limit : ManagerKind → Nat} {seed : UInt64}

theorem insertAll_poolsHold (hcap : ∀ k, poolCapacity k < 2 ^ 32) :
    ∀ {done : List ((k : ManagerKind) × A k)} {ms}, insertAll H getAssetName
        (new raw poolCapacity hashCapacity limit seed) done = some ms →
      PoolsHold poolCapacity done ms := by
  intro done
  induction done using List.reverseRecOn with
  | nil =>
    intro ms h
    cases h
    exact poolsHold_new raw hcap hashCapacity limit seed
  | append_singleton done op ih =>
    intro ms h
    rw [insertAll_concat, Option.bind_eq_some_iff] at h
    obtain ⟨ms', hrun, hins⟩ := h
    exact (ih hrun).insertOne hins

/-- A run that stays within the limits goes through. -/
theorem insertAll_of_counts (hcap : ∀ k, poolCapacity k < 2 ^ 32)
    {done : List ((k : ManagerKind) × A k)}
    (hcount : ∀ k, insertCount done k ≤ k.poolLimit (poolCapacity k)) :
    ∃ ms, insertAll H getAssetName (new raw poolCapacity hashCapacity limit seed) done
      = some ms := by
  induction done using List.reverseRecOn with
  | nil => exact ⟨_, rfl⟩
  | append_singleton done op ih =>
    have hle : ∀ k, insertCount done k ≤ insertCount (done ++ [op]) k := fun k => by
      rw [insertCount_concat]
      exact Nat.le_add_right _ _
    obtain ⟨ms, hrun⟩ := ih fun k => (hle k).trans (hcount k)
    have hroom : insertCount done op.1 < op.1.poolLimit (poolCapacity op.1) := by
      have hop := hcount op.1
      rw [insertCount_concat, if_pos rfl] at hop
      exact hop
    have hpool := ((insertAll_poolsHold hcap hrun).room_iff hcap op).mpr hroom
    obtain ⟨ms', hins⟩ : ∃ ms', insertOne H getAssetName ms op = some ms' :=
      (insertOne_isSome_iff ms op).mpr hpool
    exact ⟨ms', by rw [insertAll_concat, hrun, Option.bind_some, hins]⟩

/-- In a run whose pushes all find room no manager gets more than its limit. -/
theorem insertCount_le_of_pushes (hcap : ∀ k, poolCapacity k < 2 ^ 32)
    (hpush : PushesBelowCapacity H getAssetName
      (new raw poolCapacity hashCapacity limit seed) ops)
    (k : ManagerKind) {done : List ((k : ManagerKind) × A k)} (hpre : done <+: ops) :
    insertCount done k ≤ k.poolLimit (poolCapacity k) := by
  induction done using List.reverseRecOn with
  | nil => exact Nat.zero_le _
  | append_singleton done op ih =>
    have hle := ih ((List.prefix_append done [op]).trans hpre)
    obtain ⟨ms, pool, hrun, hpool⟩ := hpush done op hpre
    have hroom := ((insertAll_poolsHold hcap hrun).room_iff hcap op).mp ⟨pool, hpool⟩
    rw [insertCount_concat]
    by_cases hk : op.1 = k
    · subst hk
      rw [if_pos rfl]
      exact hroom
    · rw [if_neg hk]
      exact hle

/-- A run that stays within the limits finds room for every push. -/
theorem pushes_of_counts (hcap : ∀ k, poolCapacity k < 2 ^ 32)
    (hcount : ∀ k, insertCount ops k ≤ k.poolLimit (poolCapacity k)) :
    PushesBelowCapacity H getAssetName (new raw poolCapacity hashCapacity limit seed) ops := by
  intro done op hpre
  have hcount' : ∀ k, insertCount (done ++ [op]) k ≤ k.poolLimit (poolCapacity k) :=
    fun k => hpre.sublist.countP_le.trans (hcount k)
  obtain ⟨ms', hrun'⟩ : ∃ ms, insertAll H getAssetName
      (new raw poolCapacity hashCapacity limit seed) (done ++ [op]) = some ms :=
    insertAll_of_counts hcap hcount'
  rw [insertAll_concat, Option.bind_eq_some_iff] at hrun'
  obtain ⟨ms, hrun, hins⟩ := hrun'
  obtain ⟨pool, hpool⟩ := (insertOne_isSome_iff ms op).mp ⟨ms', hins⟩
  exact ⟨ms, pool, hrun, hpool⟩

end FromNew

/-- In a run of insertions of any length, all pushes find the size of the pool below its capacity
exactly when every manager is given at most as many assets as its pool can come to hold. -/
theorem pushes_below_capacity_iff (H : CStr → UInt64 → UInt64)
    (getAssetName : (k : ManagerKind) → A k → AssetName) (raw : Nat → Nat)
    (poolCapacity : ManagerKind → Nat) (hcap : ∀ k, poolCapacity k < 2 ^ 32)
    (hashCapacity hashCollisionLimit : ManagerKind → Nat) (hashSeed : UInt64)
    (ops : List ((k : ManagerKind) × A k)) :
    PushesBelowCapacity H getAssetName
        (new raw poolCapacity hashCapacity hashCollisionLimit hashSeed) ops ↔
      ∀ k, insertCount ops k ≤ k.poolLimit (poolCapacity k) := by
  constructor
  · intro hpush k
    exact insertCount_le_of_pushes hcap hpush k List.prefix_rfl
  · intro hcount
    exact pushes_of_counts hcap hcount

theorem initCapacity_lt (k : ManagerKind) : k.initCapacity < 2 ^ 32 := by
  cases k <;> decide

def nameA : AssetName := ⟨StringHashMapA.keyA, by decide⟩

def nameB : AssetName := ⟨StringHashMapA.keyB, by decide⟩

/-- A scene of two meshes with a texture, two materials and a skeleton. -/
def sceneOps : List ((_ : ManagerKind) × AssetName) :=
  [⟨.texture, nameA⟩, ⟨.material, nameA⟩, ⟨.material, nameB⟩, ⟨.skeleton, nameA⟩,
    ⟨.geometry, nameA⟩, ⟨.model, nameA⟩, ⟨.geometry, nameB⟩, ⟨.model, nameB⟩,
    ⟨.modelCombination, nameA⟩]

theorem pushes_below_capacity_iff_init :
    PushesBelowCapacity (A := fun _ => AssetName) (fun _ _ => 0) (fun _ a => a)
        (new (fun _ => 0) ManagerKind.initCapacity (fun _ => 1000) (fun _ => 10) 0) sceneOps ↔
      ∀ k : ManagerKind, insertCount (A := fun _ => AssetName) sceneOps k ≤
        k.poolLimit k.initCapacity :=
  pushes_below_capacity_iff (fun _ _ => 0) (fun _ a => a) (fun _ => 0) ManagerKind.initCapacity
    initCapacity_lt (fun _ => 1000) (fun _ => 10) 0 sceneOps

/-- The name of `i + 1` letters, up to the longest name. -/
def letters (i : Nat) : AssetName :=
  ⟨⟨List.replicate (min (i + 1) 127) 65, by simp [List.mem_replicate]⟩, by
    simp [CStr.strlen, ASSET_NAME_LEN_MAX]⟩

/-- The pool of the textures is made for 100 of them. The hash map has room for these names. -/
theorem pushes_below_capacity_fails :
    ¬ PushesBelowCapacity (A := fun _ => AssetName)
        (fun name _ => UInt64.ofNat name.strlen) (fun _ a => a)
        (new (fun _ => 0) ManagerKind.initCapacity (fun _ => 1000) (fun _ => 10) 0)
        ((List.range 101).map fun i => ⟨.texture, letters i⟩) := by
  intro h
  have hle := insertCount_le_of_pushes initCapacity_lt h .texture List.prefix_rfl
  rw [insertCount, List.countP_eq_length.mpr (by simp)] at hle
  simp [ManagerKind.poolLimit, ManagerKind.grows, ManagerKind.initCapacity] at hle

section Scene

variable {K : Type}

/-- What the traversal of a scene inserts for its mesh nodes. -/
def sceneInserts (newGeometry : FbxNode K × FbxSceneMesh K → A .geometry)
    (newModel : FbxNode K × FbxSceneMesh K → A .model) (rootNode : FbxNode K) :
    List ((k : ManagerKind) × A k) :=
  (meshNodesChilds rootNode.childs).flatMap fun mesh =>
    [⟨.geometry, newGeometry mesh⟩, ⟨.model, newModel mesh⟩]

theorem insertCount_sceneInserts (newGeometry : FbxNode K × FbxSceneMesh K → A .geometry)
    (newModel : FbxNode K × FbxSceneMesh K → A .model) (rootNode : FbxNode K) (k : ManagerKind) :
    insertCount (sceneInserts newGeometry newModel rootNode) k =
      if k = .geometry ∨ k = .model then (meshNodesChilds rootNode.childs).length else 0 := by
  unfold sceneInserts insertCount
  induction meshNodesChilds rootNode.childs with
  | nil => simp
  | cons mesh meshes ih =>
    rw [List.flatMap_cons, List.countP_append, ih]
    cases k <;> simp [Nat.add_comm]

/-- A scene finds room for its geometries and models exactly when the two pools were made for the
number of its mesh nodes. -/
theorem scene_pushes_below_capacity_iff (H : CStr → UInt64 → UInt64)
    (getAssetName : (k : ManagerKind) → A k → AssetName) (raw : Nat → Nat)
    (poolCapacity : ManagerKind → Nat) (hcap : ∀ k, poolCapacity k < 2 ^ 32)
    (hashCapacity hashCollisionLimit : ManagerKind → Nat) (hashSeed : UInt64)
    (newGeometry : FbxNode K × FbxSceneMesh K → A .geometry)
    (newModel : FbxNode K × FbxSceneMesh K → A .model) (rootNode : FbxNode K) :
    PushesBelowCapacity H getAssetName
        (new raw poolCapacity hashCapacity hashCollisionLimit hashSeed)
        (sceneInserts newGeometry newModel rootNode) ↔
      (meshNodesChilds rootNode.childs).length ≤ poolCapacity .geometry ∧
        (meshNodesChilds rootNode.childs).length ≤ poolCapacity .model := by
  constructor
  · intro hpush
    have hle := fun k => insertCount_le_of_pushes hcap hpush k List.prefix_rfl
    simp only [insertCount_sceneInserts] at hle
    exact ⟨hle .geometry, hle .model⟩
  · rintro ⟨hgeometry, hmodel⟩
    refine pushes_of_counts hcap fun k => ?_
    rw [insertCount_sceneInserts]
    cases k with
    | geometry => exact hgeometry
    | model => exact hmodel
    | modelCombination | texture | shader | material | skeleton => exact Nat.zero_le _

end Scene

end AssetManagers

end FBXRenderer

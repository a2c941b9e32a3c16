import ZnsBench.Store.ObjectStore

/-!
# The map an object store stands for

The purpose of the store is a partial map from keys to byte strings.  This
module states that map on histories of operations, refines it by the bytes
that later puts append behind each object (the *trail*), and proves that the
store of `zstore.cc` represents the trail after every history.

The trail is what the delimited read of `getObject` can see, so it is the
right abstract state for comparing the code with the map.
-/

namespace ZnsBench.Store.TrailSimulation

open ZnsBench.Core.ByteString
open ZnsBench.Store.ObjectStore

/-- The abstract state: the object stored under each key. -/
abbrev ObjectMap := Bytes → Option Bytes

namespace ObjectMap

/-- An operation on a map from keys to data. -/
def execute (map : ObjectMap) : Operation → ObjectMap × Reply
  | .putObject key data =>
      (Function.update map key (some data), .returned)
  | .getObject key =>
      (map,
        match map key with
        | some data => .data data
        | none => .threw objectNotFound)
  | .deleteObject key =>
      match map key with
      | some _ => (Function.update map key none, .returned)
      | none => (map, .threw objectNotFound)

/-- The operations one after the other. -/
def executeAll (map : ObjectMap) (operations : List Operation) :
    ObjectMap :=
  operations.foldl (fun current operation => (execute current operation).1) map

/-- The replies an ideal map gives to a history. -/
def replies : ObjectMap → List Operation → List Reply
  | _, [] => []
  | map, operation :: rest =>
      (execute map operation).2 :: replies (execute map operation).1 rest

end ObjectMap

/-- No object is stored. -/
def ObjectMap.empty : ObjectMap := fun _ => none

/-! ## Trails -/

/--
For each live key the data of its last put, together with everything that
was appended to the file behind that data.
-/
abbrev Trail := Bytes → Option (Bytes × Bytes)

/-- No put has been made. -/
def Trail.empty : Trail := fun _ => none

/-- The effect of one operation on the trail. -/
def Trail.execute (trail : Trail) : Operation → Trail
  | .putObject key data => fun other =>
      if other = key then
        some (data, [])
      else
        (trail other).map fun entry => (entry.1, entry.2 ++ data)
  | .getObject _ => trail
  | .deleteObject key => Function.update trail key none

/-- Forget what stands behind each object. -/
def Trail.toMap (trail : Trail) : ObjectMap :=
  fun key => (trail key).map Prod.fst

@[simp]
theorem Trail.toMap_empty : Trail.empty.toMap = ObjectMap.empty := rfl

@[simp]
theorem Trail.toMap_execute
    (trail : Trail) (operation : Operation) :
    (trail.execute operation).toMap =
      (ObjectMap.execute trail.toMap operation).1 := by
  funext key
  cases operation with
  | putObject written data =>
      by_cases equal : key = written
      · subst written
        simp [toMap, Trail.execute, ObjectMap.execute]
      · simp [toMap, Trail.execute, ObjectMap.execute, equal,
          Option.map_map, Function.comp_def]
  | getObject read => rfl
  | deleteObject deleted =>
      cases present : trail deleted with
      | none =>
          have unchanged : Function.update trail deleted none = trail :=
            Function.update_eq_self_iff.mpr present.symm
          simp [toMap, Trail.execute, ObjectMap.execute, unchanged, present]
      | some entry =>
          by_cases equal : key = deleted
          · subst deleted
            simp [toMap, Trail.execute, ObjectMap.execute, present]
          · simp [toMap, Trail.execute, ObjectMap.execute, present, equal]

/-! ## The store represents the trail -/

/--
The object of an entry lies in the file at the offset and with the size that
its metadata record names, followed by exactly the bytes of the trail.
-/
def Located (file : Bytes) (metadata : ObjectMetadata)
    (entry : Bytes × Bytes) : Prop :=
  metadata.size = entry.1.length ∧
    ∃ before : Bytes,
      before.length = metadata.dataOffset ∧
        file = before ++ (entry.1 ++ entry.2)

theorem Located.append
    {file : Bytes} {metadata : ObjectMetadata} {entry : Bytes × Bytes}
    (located : Located file metadata entry) (data : Bytes) :
    Located (file ++ data) metadata (entry.1, entry.2 ++ data) := by
  rcases located with ⟨size, before, offset, contents⟩
  refine ⟨size, before, offset, ?_⟩
  rw [contents]
  simp only [List.append_assoc]

theorem Located.drop_dataOffset
    {file : Bytes} {metadata : ObjectMetadata} {entry : Bytes × Bytes}
    (located : Located file metadata entry) :
    file.drop metadata.dataOffset = entry.1 ++ entry.2 := by
  rcases located with ⟨_, before, offset, contents⟩
  rw [contents, ← offset, List.drop_left]

/-- The extent of a located object lies inside the file. -/
theorem Located.end_le
    {file : Bytes} {metadata : ObjectMetadata} {entry : Bytes × Bytes}
    (located : Located file metadata entry) :
    metadata.dataOffset + metadata.size ≤ file.length := by
  rcases located with ⟨size, before, offset, contents⟩
  rw [contents, size, ← offset]
  simp only [List.length_append]
  omega

theorem Located.slice_eq
    {file : Bytes} {metadata : ObjectMetadata} {entry : Bytes × Bytes}
    (located : Located file metadata entry) :
    slice file metadata.dataOffset metadata.size = entry.1 := by
  rw [slice, located.drop_dataOffset, located.1, List.take_left]

/-- The index holds exactly the keys of the trail, each one located. -/
def Represents {Lba : Type} (store : Zstore Lba) (trail : Trail) : Prop :=
  ∀ key,
    match trail key with
    | none => store.metadataIndex key = none
    | some entry =>
        ∃ metadata,
          store.metadataIndex key = some metadata ∧
            Located store.dataStore metadata entry

variable {Lba : Type}

namespace Represents

theorem empty :
    Represents (Zstore.empty : Zstore Lba) Trail.empty := by
  intro key
  rfl

theorem index_eq_none
    {store : Zstore Lba} {trail : Trail} {key : Bytes}
    (represents : Represents store trail)
    (absent : trail key = none) :
    store.metadataIndex key = none := by
  have entry := represents key
  rw [absent] at entry
  exact entry

theorem located
    {store : Zstore Lba} {trail : Trail} {key : Bytes}
    {entry : Bytes × Bytes}
    (represents : Represents store trail)
    (present : trail key = some entry) :
    ∃ metadata,
      store.metadataIndex key = some metadata ∧
        Located store.dataStore metadata entry := by
  have found := represents key
  rw [present] at found
  exact found

/-- A key of the index is a live key of the trail. -/
theorem entry_of_index
    {store : Zstore Lba} {trail : Trail} {key : Bytes}
    {metadata : ObjectMetadata}
    (represents : Represents store trail)
    (indexed : store.metadataIndex key = some metadata) :
    ∃ entry,
      trail key = some entry ∧
        Located store.dataStore metadata entry := by
  cases present : trail key with
  | none =>
      rw [represents.index_eq_none present] at indexed
      cases indexed
  | some entry =>
      rcases represents.located present with ⟨found, foundIndexed, located⟩
      rw [indexed] at foundIndexed
      cases foundIndexed
      exact ⟨entry, rfl, located⟩

/-- One operation of the code keeps the representation. -/
theorem execute
    {store : Zstore Lba} {trail : Trail}
    (represents : Represents store trail)
    (platform : Platform Lba) (operation : Operation) :
    Represents (execute platform store operation).1
      (trail.execute operation) := by
  intro key
  cases operation with
  | putObject written data =>
      by_cases equal : key = written
      · subst written
        rcases execute_putObject_metadataIndex_self platform store key data with
          ⟨metadata, indexed, offset, size⟩
        simp only [Trail.execute, if_true]
        refine ⟨metadata, indexed, size, store.dataStore, offset.symm, ?_⟩
        simp
      · simp only [Trail.execute, equal, if_false]
        have unchanged :=
          execute_putObject_metadataIndex_ne
            platform store written key data equal
        cases present : trail key with
        | none =>
            simp only [Option.map_none]
            rw [unchanged]
            exact represents.index_eq_none present
        | some entry =>
            rcases represents.located present with
              ⟨metadata, indexed, located⟩
            simp only [Option.map_some]
            exact ⟨metadata, unchanged.trans indexed, located.append data⟩
  | getObject read =>
      rw [execute_getObject_fst]
      exact represents key
  | deleteObject deleted =>
      rw [execute_deleteObject_metadataIndex, execute_deleteObject_dataStore]
      by_cases equal : key = deleted
      · subst deleted
        simp [Trail.execute]
      · simp only [Trail.execute, Function.update_of_ne equal]
        exact represents key

/-- The representation holds after every history. -/
theorem executeAll
    {store : Zstore Lba} {trail : Trail}
    (represents : Represents store trail)
    (platform : Platform Lba) (operations : List Operation) :
    Represents (executeAll platform store operations)
      (operations.foldl Trail.execute trail) := by
  induction operations generalizing store trail with
  | nil => exact represents
  | cons operation rest induction =>
      exact induction (represents.execute platform operation)

end Represents

@[simp]
theorem Trail.toMap_foldl
    (trail : Trail) (operations : List Operation) :
    (operations.foldl Trail.execute trail).toMap =
      ObjectMap.executeAll trail.toMap operations := by
  induction operations generalizing trail with
  | nil => rfl
  | cons operation rest induction =>
      simp only [List.foldl_cons, ObjectMap.executeAll]
      rw [induction, Trail.toMap_execute]
      rfl

end ZnsBench.Store.TrailSimulation

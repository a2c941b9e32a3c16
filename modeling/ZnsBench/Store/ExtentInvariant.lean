import ZnsBench.Store.TrailSimulation
import Mathlib.Order.Interval.Set.Basic
import Mathlib.Data.Set.Lattice
import Mathlib.Order.CompletePartialOrder

/-!
# Extents of the object store

Every record of the index names an extent of `data_store.ssd`.  The extents
lie inside the file, hold the object that was last put, are pairwise disjoint
and are never written again: the file only grows at its end.  The keys of the
index are the live keys, so there is an extent for every stored object.
-/

namespace ZnsBench.Store.ExtentInvariant

open ZnsBench.Core.ByteString
open ZnsBench.Store.ObjectStore
open ZnsBench.Store.TrailSimulation

variable {Lba : Type}

/-- The byte positions a metadata record names. -/
def extent (metadata : ObjectMetadata) : Set Nat :=
  Set.Ico metadata.dataOffset (metadata.dataOffset + metadata.size)

/-- One of two records ends before the other starts. -/
def Apart (left right : ObjectMetadata) : Prop :=
  left.dataOffset + left.size ≤ right.dataOffset ∨
    right.dataOffset + right.size ≤ left.dataOffset

theorem Apart.disjoint
    {left right : ObjectMetadata} (apart : Apart left right) :
    Disjoint (extent left) (extent right) := by
  rw [Set.disjoint_left]
  intro position inLeft inRight
  simp only [extent, Set.mem_Ico] at inLeft inRight
  rcases apart with before | after <;> omega

/-- The records of distinct keys are apart. -/
def Separated (store : Zstore Lba) : Prop :=
  ∀ key other metadata otherMetadata,
    key ≠ other →
      store.metadataIndex key = some metadata →
        store.metadataIndex other = some otherMetadata →
          Apart metadata otherMetadata

theorem separated_empty : Separated (Zstore.empty : Zstore Lba) := by
  intro key other metadata otherMetadata _ indexed
  cases indexed

/-- A put places its extent behind every extent of the index. -/
theorem separated_putObject
    {store : Zstore Lba} {trail : Trail}
    (represents : Represents store trail)
    (separated : Separated store)
    (platform : Platform Lba) (written data : Bytes) :
    Separated
      (execute platform store (.putObject written data)).1 := by
  rcases execute_putObject_metadataIndex_self platform store written data with
    ⟨fresh, freshIndexed, offset, _⟩
  have behind :
      ∀ other metadata,
        other ≠ written →
          (execute platform store (.putObject written data)).1.metadataIndex
              other = some metadata →
            metadata.dataOffset + metadata.size ≤ fresh.dataOffset := by
    intro other metadata different indexed
    rw [execute_putObject_metadataIndex_ne _ _ _ _ _ different] at indexed
    rcases represents.entry_of_index indexed with ⟨entry, _, located⟩
    rw [offset]
    exact located.end_le
  intro key other metadata otherMetadata different indexed otherIndexed
  by_cases keyWritten : key = written
  · subst key
    rw [freshIndexed] at indexed
    cases indexed
    exact Or.inr
      (behind other otherMetadata different.symm otherIndexed)
  · by_cases otherWritten : other = written
    · subst other
      rw [freshIndexed] at otherIndexed
      cases otherIndexed
      exact Or.inl (behind key metadata different indexed)
    · rw [execute_putObject_metadataIndex_ne _ _ _ _ _ keyWritten]
        at indexed
      rw [execute_putObject_metadataIndex_ne _ _ _ _ _ otherWritten]
        at otherIndexed
      exact separated key other metadata otherMetadata different
        indexed otherIndexed

/-- Every operation keeps the extents of distinct keys apart. -/
theorem separated_execute
    {store : Zstore Lba} {trail : Trail}
    (represents : Represents store trail)
    (separated : Separated store)
    (platform : Platform Lba) (operation : Operation) :
    Separated (execute platform store operation).1 := by
  cases operation with
  | putObject written data =>
      exact separated_putObject represents separated platform written data
  | getObject read =>
      rw [execute_getObject_fst]
      exact separated
  | deleteObject deleted =>
      have kept :
          ∀ key metadata,
            (execute platform store (.deleteObject deleted)).1.metadataIndex
                key = some metadata →
              store.metadataIndex key = some metadata := by
        intro key metadata indexed
        rw [execute_deleteObject_metadataIndex] at indexed
        by_cases equal : key = deleted
        · subst key
          simp at indexed
        · rwa [Function.update_of_ne equal] at indexed
      intro key other metadata otherMetadata different indexed otherIndexed
      exact separated key other metadata otherMetadata different
        (kept key metadata indexed) (kept other otherMetadata otherIndexed)

theorem separated_executeAll
    {store : Zstore Lba} {trail : Trail}
    (represents : Represents store trail)
    (separated : Separated store)
    (platform : Platform Lba) (operations : List Operation) :
    Separated (executeAll platform store operations) := by
  induction operations generalizing store trail with
  | nil => exact separated
  | cons operation rest induction =>
      exact induction (represents.execute platform operation)
        (separated_execute represents separated platform operation)

/-- One operation only appends to the data file. -/
theorem execute_dataStore_grows
    (platform : Platform Lba) (store : Zstore Lba)
    (operation : Operation) :
    store.dataStore <+:
      (execute platform store operation).1.dataStore := by
  cases operation with
  | putObject written data =>
      exact ⟨data, rfl⟩
  | getObject read =>
      exact ⟨[], by rw [List.append_nil, execute_getObject_fst]⟩
  | deleteObject deleted =>
      exact ⟨[], by rw [List.append_nil, execute_deleteObject_dataStore]⟩

theorem executeAll_dataStore_grows
    (platform : Platform Lba) (store : Zstore Lba)
    (operations : List Operation) :
    store.dataStore <+:
      (executeAll platform store operations).dataStore := by
  induction operations generalizing store with
  | nil => exact List.prefix_rfl
  | cons operation rest induction =>
      exact
        (execute_dataStore_grows platform store operation).trans
          (induction _)

/-- Later operations leave the bytes of an extent inside the file alone. -/
theorem slice_executeAll
    (platform : Platform Lba) (store : Zstore Lba)
    (operations : List Operation)
    {offset size : Nat}
    (inside : offset + size ≤ store.dataStore.length) :
    slice (executeAll platform store operations).dataStore offset size =
      slice store.dataStore offset size := by
  rcases executeAll_dataStore_grows platform store operations with
    ⟨suffix, appended⟩
  rw [← appended]
  exact slice_append inside suffix

/-- The index holds exactly the keys that an ideal map holds. -/
theorem metadataIndex_eq_none_iff
    (platform : Platform Lba) (operations : List Operation) (key : Bytes) :
    (executeAll platform Zstore.empty operations).metadataIndex key =
        none ↔
      ObjectMap.executeAll ObjectMap.empty operations key = none := by
  have represents :
      Represents (executeAll platform Zstore.empty operations)
        (operations.foldl Trail.execute Trail.empty) :=
    Represents.empty.executeAll platform operations
  have mapped := congrFun (Trail.toMap_foldl Trail.empty operations) key
  rw [Trail.toMap_empty] at mapped
  rw [← mapped, Trail.toMap, Option.map_eq_none_iff]
  constructor
  · intro absent
    cases present : operations.foldl Trail.execute Trail.empty key with
    | none => rfl
    | some entry =>
        rcases represents.located present with ⟨metadata, indexed, _⟩
        rw [absent] at indexed
        cases indexed
  · exact represents.index_eq_none

/-- Right after a put, whatever came before, the key has its extent. -/
theorem exists_extent_of_put
    (platform : Platform Lba) (before : List Operation)
    (key data : Bytes) :
    ∃ metadata,
      (executeAll platform Zstore.empty
          (before ++ [.putObject key data])).metadataIndex key =
        some metadata := by
  refine Option.ne_none_iff_exists'.mp fun absent => ?_
  rw [metadataIndex_eq_none_iff, ObjectMap.executeAll,
    List.foldl_append] at absent
  simp [ObjectMap.execute] at absent

/--
The extent invariant, in every state that a history of operations reaches:
the extent of an indexed key lies inside the file and holds the data of the
last put, the extents of distinct keys are disjoint, and no later history
changes the bytes of an extent.
-/
theorem extents_hold_last_put
    (platform : Platform Lba) (operations : List Operation) :
    (∀ key metadata,
      (executeAll platform Zstore.empty operations).metadataIndex key =
          some metadata →
        metadata.dataOffset + metadata.size ≤
            (executeAll platform Zstore.empty operations).dataStore.length ∧
          ObjectMap.executeAll ObjectMap.empty operations key =
            some
              (slice
                (executeAll platform Zstore.empty operations).dataStore
                metadata.dataOffset metadata.size)) ∧
      (∀ key other metadata otherMetadata,
        key ≠ other →
          (executeAll platform Zstore.empty operations).metadataIndex key =
              some metadata →
            (executeAll platform Zstore.empty operations).metadataIndex
                other = some otherMetadata →
              Disjoint (extent metadata) (extent otherMetadata)) ∧
      (∀ later key metadata,
        (executeAll platform Zstore.empty operations).metadataIndex key =
            some metadata →
          slice
              (executeAll platform Zstore.empty
                (operations ++ later)).dataStore
              metadata.dataOffset metadata.size =
            slice
              (executeAll platform Zstore.empty operations).dataStore
              metadata.dataOffset metadata.size) := by
  have represents :
      Represents (executeAll platform Zstore.empty operations)
        (operations.foldl Trail.execute Trail.empty) :=
    Represents.empty.executeAll platform operations
  refine ⟨?_, ?_, ?_⟩
  · intro key metadata indexed
    rcases represents.entry_of_index indexed with ⟨entry, present, located⟩
    refine ⟨located.end_le, ?_⟩
    have mapped := congrFun (Trail.toMap_foldl Trail.empty operations) key
    rw [Trail.toMap_empty] at mapped
    rw [located.slice_eq, ← mapped]
    simp [Trail.toMap, present]
  · intro key other metadata otherMetadata different indexed otherIndexed
    exact
      (separated_executeAll Represents.empty separated_empty platform
        operations key other metadata otherMetadata different indexed
        otherIndexed).disjoint
  · intro later key metadata indexed
    rcases represents.entry_of_index indexed with ⟨entry, _, located⟩
    have composed :
        executeAll platform Zstore.empty (operations ++ later) =
          executeAll platform
            (executeAll platform Zstore.empty operations) later :=
      List.foldl_append
    rw [composed]
    exact slice_executeAll platform _ later located.end_le

end ZnsBench.Store.ExtentInvariant

import Mathlib.Data.List.TakeDrop
import ZnsBench.Store.ObjectStore

/-!
# Is a put atomic?

`putObject` enters the object in two maps and a log before and after two
writes that may fail.  It looks at neither stream afterwards, and always
returns.  So a put has its effects as a whole exactly when both writes store
all that they are given; there is no other way for it to be atomic.
-/

namespace ZnsBench.Store.AtomicPut

open ZnsBench.Core.ByteString
open ZnsBench.Store.ObjectStore

variable {Lba : Type}

/-- A put with its two writes: what is left, and what the client sees. -/
def executePut (platform : Platform Lba)
    (dataWrite metadataWrite : WriteOutcome)
    (store : Zstore Lba) (key data : Bytes) : Zstore Lba × Reply :=
  (putObject platform dataWrite metadataWrite store key data, .returned)

/-- With writes that succeed this is the call of a client. -/
@[simp]
theorem executePut_complete
    (platform : Platform Lba) (store : Zstore Lba) (key data : Bytes) :
    executePut platform .complete .complete store key data =
      execute platform store (.putObject key data) :=
  rfl

/-! ## Writes -/

/-- A write of some length stores everything. -/
def StoresAll : WriteOutcome → Nat → Prop
  | .complete, _ => True
  | .short written, length => length ≤ written
  | .notOpened, length => length = 0

instance (outcome : WriteOutcome) (length : Nat) :
    Decidable (StoresAll outcome length) := by
  cases outcome
  · exact inferInstanceAs (Decidable True)
  · exact inferInstanceAs (Decidable (length ≤ _))
  · exact inferInstanceAs (Decidable (length = 0))

/-- The file has grown by the bytes handed over when all are stored. -/
@[simp]
theorem appendFile_eq_append_iff
    (outcome : WriteOutcome) (file bytes : Bytes) :
    (appendFile outcome file bytes).2 = file ++ bytes ↔
      StoresAll outcome bytes.length := by
  cases outcome with
  | complete => exact iff_of_true rfl trivial
  | short written =>
      simp only [appendFile, StoresAll, List.append_cancel_left_eq,
        List.take_eq_self_iff]
  | notOpened =>
      simp only [appendFile, StoresAll, List.self_eq_append_right,
        List.length_eq_zero_iff]

/-- What is stored stands at the offset that the write reports. -/
theorem slice_appendFile
    {outcome : WriteOutcome} {bytes : Bytes}
    (all : StoresAll outcome bytes.length) (file : Bytes) :
    slice (appendFile outcome file bytes).2 (appendFile outcome file bytes).1
        bytes.length =
      bytes := by
  have grown := (appendFile_eq_append_iff outcome file bytes).mpr all
  cases outcome with
  | notOpened =>
      have empty : bytes = [] := List.length_eq_zero_iff.mp all
      rw [empty, slice, List.length_nil, List.take_zero]
  | complete | short =>
      rw [grown]
      simp only [appendFile, slice, List.drop_left, List.take_length]

/-! ## The law -/

/-- The three structures are as they were. -/
structure SameStructures (before after : Zstore Lba) : Prop where
  gatewayMap : after.gatewayMap = before.gatewayMap
  targetLog : after.targetLog = before.targetLog
  metadataIndex : after.metadataIndex = before.metadataIndex

/--
The data and its metadata are in the files, and the structures describe
them, under this key and no other.
-/
structure Stored (platform : Platform Lba) (key data : Bytes)
    (before after : Zstore Lba) : Prop where
  dataStore : after.dataStore = before.dataStore ++ data
  metadata :
    ∃ metadata,
      after.metadataIndex key = some metadata ∧
        metadata.key = key ∧
          metadata.size = data.length ∧
            slice after.dataStore metadata.dataOffset metadata.size = data ∧
              after.metadataStore =
                before.metadataStore ++ platform.rawMetadata metadata
  targets :
    ∃ first second third,
      after.gatewayMap key =
        some [⟨"tgt1", first⟩, ⟨"tgt2", second⟩, ⟨"tgt3", third⟩]
  logged :
    ∃ entry,
      after.targetLog = before.targetLog ++ [entry] ∧ entry.key = key
  others :
    ∀ other ≠ key,
      after.gatewayMap other = before.gatewayMap other ∧
        after.metadataIndex other = before.metadataIndex other

/-- A put leaves everything as it was and reports it, or has stored. -/
def Atomic (platform : Platform Lba)
    (dataWrite metadataWrite : WriteOutcome)
    (store : Zstore Lba) (key data : Bytes) : Prop :=
  let result :=
    executePut platform dataWrite metadataWrite store key data
  (SameStructures store result.1 ∧ result.2 ≠ .returned) ∨
    Stored platform key data store result.1

/-! ## Puts -/

section Put

variable (platform : Platform Lba) (dataWrite metadataWrite : WriteOutcome)
    (store : Zstore Lba) (key data : Bytes)

/-- The record that a put writes and enters. -/
theorem putObject_metadataIndex_self :
    ∃ metadata,
      (putObject platform dataWrite metadataWrite store key
            data).metadataIndex key =
          some metadata ∧
        metadata.key = key ∧
          metadata.size = data.length ∧
            metadata.dataOffset =
                (appendFile dataWrite store.dataStore data).1 ∧
              (putObject platform dataWrite metadataWrite store key
                  data).metadataStore =
                (appendFile metadataWrite store.metadataStore
                  (platform.rawMetadata metadata)).2 :=
  ⟨_, Function.update_self _ _ _, rfl, rfl, rfl, rfl⟩

@[simp]
theorem putObject_dataStore :
    (putObject platform dataWrite metadataWrite store key data).dataStore =
      (appendFile dataWrite store.dataStore data).2 :=
  rfl

/-- Writes that store everything leave a stored object. -/
theorem stored_of_storesAll
    (dataStored : StoresAll dataWrite data.length)
    (metadataStored :
      ∀ metadata,
        StoresAll metadataWrite (platform.rawMetadata metadata).length) :
    Stored platform key data store
      (putObject platform dataWrite metadataWrite store key data) := by
  rcases putObject_metadataIndex_self platform dataWrite metadataWrite store
      key data with
    ⟨metadata, indexed, keyEq, size, offset, recorded⟩
  constructor
  · rw [putObject_dataStore]
    exact (appendFile_eq_append_iff _ _ _).mpr dataStored
  · refine ⟨metadata, indexed, keyEq, size, ?_, ?_⟩
    · rw [putObject_dataStore, offset, size]
      exact slice_appendFile dataStored store.dataStore
    · rw [recorded]
      exact (appendFile_eq_append_iff _ _ _).mpr (metadataStored metadata)
  · exact ⟨_, _, _, Function.update_self _ _ _⟩
  · exact ⟨_, rfl, rfl⟩
  · intro other different
    exact
      ⟨Function.update_of_ne different _ _,
        Function.update_of_ne different _ _⟩

/-- A stored object has been written as a whole. -/
theorem Stored.storesAll
    (stored :
      Stored platform key data store
        (putObject platform dataWrite metadataWrite store key data)) :
    StoresAll dataWrite data.length ∧
      ∃ metadata,
        StoresAll metadataWrite (platform.rawMetadata metadata).length := by
  constructor
  · have grown := stored.dataStore
    rw [putObject_dataStore] at grown
    exact (appendFile_eq_append_iff _ _ _).mp grown
  · rcases stored.metadata with ⟨found, foundIndexed, _, _, _, grown⟩
    rcases putObject_metadataIndex_self platform dataWrite metadataWrite
        store key data with
      ⟨metadata, indexed, _, _, _, recorded⟩
    have same : found = metadata := by
      rw [foundIndexed] at indexed
      exact Option.some.inj indexed
    rw [recorded, same] at grown
    exact ⟨metadata, (appendFile_eq_append_iff _ _ _).mp grown⟩

end Put

/--
A put is atomic if and only if both of its writes store everything; a record
has `sizeofMetadata` bytes.
-/
theorem atomic_iff_storesAll
    (platform : Platform Lba) (dataWrite metadataWrite : WriteOutcome)
    (store : Zstore Lba) (key data : Bytes) (sizeofMetadata : Nat)
    (fixed :
      ∀ metadata,
        (platform.rawMetadata metadata).length = sizeofMetadata) :
    Atomic platform dataWrite metadataWrite store key data ↔
      StoresAll dataWrite data.length ∧
        StoresAll metadataWrite sizeofMetadata := by
  constructor
  · rintro (⟨_, reported⟩ | stored)
    · exact absurd rfl reported
    · rcases Stored.storesAll _ _ _ _ _ _ stored with
        ⟨dataStored, metadata, metadataStored⟩
      rw [fixed metadata] at metadataStored
      exact ⟨dataStored, metadataStored⟩
  · rintro ⟨dataStored, metadataStored⟩
    right
    apply stored_of_storesAll _ _ _ _ _ _ dataStored
    intro metadata
    rw [fixed metadata]
    exact metadataStored

/-- A platform whose records have two bytes. -/
def plainPlatform : Platform Nat where
  getLba := id
  time := fun call => call
  rawMetadata := fun metadata =>
    [metadata.size.toUInt8, metadata.dataOffset.toUInt8]

theorem atomic_when_complete :
    Atomic plainPlatform .complete .complete Zstore.empty (ascii "k")
      (ascii "data") :=
  (atomic_iff_storesAll plainPlatform .complete .complete Zstore.empty
    (ascii "k") (ascii "data") 2 (fun _ => rfl)).mpr ⟨trivial, trivial⟩

/-- The disk is full after two bytes of the data. -/
theorem not_atomic_when_short :
    ¬ Atomic plainPlatform (.short 2) .complete Zstore.empty (ascii "k")
      (ascii "data") := by
  rintro (⟨_, reported⟩ | stored)
  · exact reported rfl
  · have grown := stored.dataStore
    rw [executePut, putObject_dataStore] at grown
    revert grown
    decide

end ZnsBench.Store.AtomicPut

import ZnsBench.Core.ByteString

/-!
# The object store of `zstore.cc`

`Zstore` keeps objects in one append-only file, `data_store.ssd`.  A put
appends the bytes of the object, remembers where they start and enters a
metadata record in `metadata_index`; a get looks the record up, seeks to the
recorded offset and reads with `std::getline` up to a NUL byte.  The gateway
map, the target log and `metadata_store.ssd` are written on every put and
never read back by the three operations modelled here.

The header `include/zstore.h` is not part of the repository.  What the code
uses of it is a parameter: the values `get_lba` returns on its successive
calls, the clock, and the raw bytes of an `ObjectMetadata` value.
-/

namespace ZnsBench.Store.ObjectStore

open ZnsBench.Core.ByteString

/-- The fields of an `ObjectMetadata` that the program sets. -/
structure ObjectMetadata where
  key : Bytes
  size : Nat
  creationDate : Int
  modificationDate : Int
  dataOffset : Nat

/-- A target device and the block address there. -/
structure TargetLba (Lba : Type) where
  first : String
  second : Lba

/-- An entry of the target log. -/
structure LogEntry (Lba : Type) where
  key : Bytes
  seq : Nat
  chunkSeq : Nat
  lba : Lba

/--
The code outside the repository: the result of the `n`-th call of `get_lba`
and of `time`, and the object representation of a metadata record.
-/
structure Platform (Lba : Type) where
  getLba : Nat → Lba
  time : Nat → Int
  rawMetadata : ObjectMetadata → Bytes

/-- The members of a `Zstore` and the contents of its two files. -/
structure Zstore (Lba : Type) where
  gatewayMap : Bytes → Option (List (TargetLba Lba))
  targetLog : List (LogEntry Lba)
  metadataIndex : Bytes → Option ObjectMetadata
  /-- Contents of `data_store.ssd`. -/
  dataStore : Bytes
  /-- Contents of `metadata_store.ssd`. -/
  metadataStore : Bytes
  /-- Calls of `get_lba` made so far. -/
  lbaCalls : Nat
  /-- Calls of `time` made so far. -/
  timeCalls : Nat

variable {Lba : Type}

/-- An empty store over empty files. -/
def Zstore.empty : Zstore Lba where
  gatewayMap := fun _ => none
  targetLog := []
  metadataIndex := fun _ => none
  dataStore := []
  metadataStore := []
  lbaCalls := 0
  timeCalls := 0

/-- How one append through an `std::ofstream` ends. -/
inductive WriteOutcome where
  | complete
  | short (written : Nat)
  | notOpened
  deriving DecidableEq, Repr

/--
Open with `ios::app`, take `tellp`, write, close.  The offset of a stream
that failed to open is `-1` converted to `uint64_t`.
-/
def appendFile (outcome : WriteOutcome) (file data : Bytes) : Nat × Bytes :=
  match outcome with
  | .complete => (file.length, file ++ data)
  | .short written => (file.length, file ++ data.take written)
  | .notOpened => (UInt64.size - 1, file)

/-- `writeData`: the offset of the data and the file with them. -/
def writeData
    (outcome : WriteOutcome) (store : Zstore Lba) (data : Bytes) :
    Nat × Zstore Lba :=
  let (offset, file) := appendFile outcome store.dataStore data
  (offset, { store with dataStore := file })

/-- `writeMetadata`, which writes the raw bytes of the structure. -/
def writeMetadata
    (platform : Platform Lba) (outcome : WriteOutcome)
    (store : Zstore Lba) (metadata : ObjectMetadata) :
    Nat × Zstore Lba :=
  let (offset, file) :=
    appendFile outcome store.metadataStore (platform.rawMetadata metadata)
  (offset, { store with metadataStore := file })

/-- `readData`, which reads up to the next zero byte. -/
def readData (store : Zstore Lba) (offset : Nat) : Bytes :=
  upTo 0 (store.dataStore.drop offset)

/-- `putObject`, with the outcomes of its data and metadata writes. -/
def putObject
    (platform : Platform Lba) (dataWrite metadataWrite : WriteOutcome)
    (store : Zstore Lba) (key data : Bytes) :
    Zstore Lba :=
  let now := platform.time store.timeCalls
  let lba (call : Nat) := platform.getLba (store.lbaCalls + call)
  let mapped : Zstore Lba :=
    { store with
      gatewayMap :=
        Function.update store.gatewayMap key
          (some [⟨"tgt1", lba 0⟩, ⟨"tgt2", lba 1⟩, ⟨"tgt3", lba 2⟩])
      targetLog := store.targetLog ++ [⟨key, 0, 0, lba 3⟩]
      lbaCalls := store.lbaCalls + 4
      timeCalls := store.timeCalls + 1 }
  let (dataOffset, written) := writeData dataWrite mapped data
  let metadata : ObjectMetadata := ⟨key, data.length, now, now, dataOffset⟩
  -- The metadata offset is computed by the source and dropped.
  let (_, recorded) := writeMetadata platform metadataWrite written metadata
  { recorded with
    metadataIndex :=
      Function.update recorded.metadataIndex key (some metadata) }

/-- The text carried by the exception of `getObject` and `deleteObject`. -/
def objectNotFound : String := "Object not found"

/-- `getObject` -/
def getObject (store : Zstore Lba) (key : Bytes) : Except String Bytes :=
  match store.metadataIndex key with
  | none => .error objectNotFound
  | some metadata => .ok (readData store metadata.dataOffset)

/-- `deleteObject`, which only forgets the metadata. -/
def deleteObject (store : Zstore Lba) (key : Bytes) :
    Except String (Zstore Lba) :=
  match store.metadataIndex key with
  | none => .error objectNotFound
  | some _ =>
      .ok
        { store with
          metadataIndex := Function.update store.metadataIndex key none }

/-! ## Histories of operations -/

/-- One call of a client of the store. -/
inductive Operation where
  | putObject (key data : Bytes)
  | getObject (key : Bytes)
  | deleteObject (key : Bytes)
  deriving DecidableEq, Repr

/-- What the client sees of a call. -/
inductive Reply where
  | returned
  | data (bytes : Bytes)
  | threw (message : String)
  deriving DecidableEq, Repr

/-- One call with writes that succeed; a throwing call changes nothing. -/
def execute (platform : Platform Lba) (store : Zstore Lba) :
    Operation → Zstore Lba × Reply
  | .putObject key data =>
      (putObject platform .complete .complete store key data, .returned)
  | .getObject key =>
      match getObject store key with
      | .ok data => (store, .data data)
      | .error message => (store, .threw message)
  | .deleteObject key =>
      match deleteObject store key with
      | .ok next => (next, .returned)
      | .error message => (store, .threw message)

/-- The store after a history. -/
def executeAll (platform : Platform Lba) (store : Zstore Lba)
    (operations : List Operation) : Zstore Lba :=
  operations.foldl
    (fun current operation => (execute platform current operation).1) store

/-- The replies to a history, in order. -/
def replies (platform : Platform Lba) :
    Zstore Lba → List Operation → List Reply
  | _, [] => []
  | store, operation :: rest =>
      (execute platform store operation).2 ::
        replies platform (execute platform store operation).1 rest

/-! ## What one call does to the index and to the data file -/

section Effects

variable
    (platform : Platform Lba) (store : Zstore Lba) (key other data : Bytes)

@[simp]
theorem execute_putObject_dataStore :
    (execute platform store (.putObject key data)).1.dataStore =
      store.dataStore ++ data :=
  rfl

/-- A put records the extent that starts at the old end of the file. -/
theorem execute_putObject_metadataIndex_self :
    ∃ metadata,
      (execute platform store (.putObject key data)).1.metadataIndex key =
          some metadata ∧
        metadata.dataOffset = store.dataStore.length ∧
          metadata.size = data.length := by
  refine ⟨_, Function.update_self _ _ _, rfl, rfl⟩

theorem execute_putObject_metadataIndex_ne
    (different : other ≠ key) :
    (execute platform store (.putObject key data)).1.metadataIndex other =
      store.metadataIndex other :=
  Function.update_of_ne different _ _

@[simp]
theorem execute_getObject_fst :
    (execute platform store (.getObject key)).1 = store := by
  simp only [execute]
  split <;> rfl

@[simp]
theorem execute_deleteObject_dataStore :
    (execute platform store (.deleteObject key)).1.dataStore =
      store.dataStore := by
  simp only [execute, deleteObject]
  cases store.metadataIndex key <;> rfl

@[simp]
theorem execute_deleteObject_metadataIndex :
    (execute platform store (.deleteObject key)).1.metadataIndex =
      Function.update store.metadataIndex key none := by
  simp only [execute, deleteObject]
  cases found : store.metadataIndex key with
  | none => exact (Function.update_eq_self_iff.mpr found.symm).symm
  | some metadata => rfl

end Effects

end ZnsBench.Store.ObjectStore

import ZnsBench.Store.TrailSimulation

/-!
# When the object store behaves as a map

`getObject` ignores the recorded size and reads up to the next NUL byte or
the end of the file.  It therefore returns the object exactly when the object
holds no NUL byte and the bytes behind it are absent or start with one.  The
replies of the store to a history agree with those of a map precisely when
every get of the history meets this condition.
-/

namespace ZnsBench.Store.MapBehaviour

open ZnsBench.Core.ByteString
open ZnsBench.Store.ObjectStore
open ZnsBench.Store.TrailSimulation

variable {Lba : Type}

/-- A NUL-delimited read that starts at the object stops at its end. -/
def StopsAtEnd (entry : Bytes × Bytes) : Prop :=
  0 ∉ entry.1 ∧ (entry.2 = [] ∨ entry.2.head? = some 0)

/--
Every get of the history that finds its key live does so while the last
object put under the key holds no NUL byte and everything put behind it is
empty or starts with a NUL byte.
-/
def GetsStopAtEnd : Trail → List Operation → Prop
  | _, [] => True
  | trail, operation :: rest =>
      (∀ key entry,
        operation = .getObject key →
          trail key = some entry → StopsAtEnd entry) ∧
        GetsStopAtEnd (trail.execute operation) rest

/-- What a get of a live key returns. -/
theorem getObject_of_entry
    {store : Zstore Lba} {trail : Trail} {key : Bytes}
    {entry : Bytes × Bytes}
    (represents : Represents store trail)
    (present : trail key = some entry) :
    getObject store key = .ok (upTo 0 (entry.1 ++ entry.2)) := by
  rcases represents.located present with ⟨metadata, indexed, located⟩
  simp only [getObject, indexed, readData]
  rw [located.drop_dataOffset]

/--
One reply agrees with the reply of the map exactly when the operation is not
a get that reads past its object or stops inside it.
-/
theorem reply_eq_iff
    {store : Zstore Lba} {trail : Trail}
    (represents : Represents store trail)
    (platform : Platform Lba) (operation : Operation) :
    (execute platform store operation).2 =
        (ObjectMap.execute trail.toMap operation).2 ↔
      ∀ key entry,
        operation = .getObject key →
          trail key = some entry → StopsAtEnd entry := by
  cases operation with
  | putObject written data =>
      simp [execute, ObjectMap.execute]
  | getObject read =>
      cases present : trail read with
      | none =>
          have absent := represents.index_eq_none present
          simp only [execute, getObject, absent, ObjectMap.execute,
            Trail.toMap, present, Option.map_none,
            Operation.getObject.injEq, true_iff]
          rintro key entry rfl found
          rw [present] at found
          cases found
      | some entry =>
          have returned := getObject_of_entry represents present
          simp only [execute, returned, ObjectMap.execute, Trail.toMap,
            present, Option.map_some, Reply.data.injEq,
            Operation.getObject.injEq]
          rw [upTo_append_eq_iff]
          constructor
          · rintro stops key found rfl foundPresent
            rw [present] at foundPresent
            cases foundPresent
            exact stops
          · intro stops
            exact stops read entry rfl present
  | deleteObject deleted =>
      cases present : trail deleted with
      | none =>
          have absent := represents.index_eq_none present
          simp [execute, deleteObject, absent, ObjectMap.execute,
            Trail.toMap, present]
      | some entry =>
          rcases represents.located present with ⟨metadata, indexed, _⟩
          simp [execute, deleteObject, indexed, ObjectMap.execute,
            Trail.toMap, present]

theorem replies_eq_iff_of_represents
    {store : Zstore Lba} {trail : Trail}
    (represents : Represents store trail)
    (platform : Platform Lba) (operations : List Operation) :
    replies platform store operations =
        ObjectMap.replies trail.toMap operations ↔
      GetsStopAtEnd trail operations := by
  induction operations generalizing store trail with
  | nil => simp [replies, ObjectMap.replies, GetsStopAtEnd]
  | cons operation rest induction =>
      simp only [replies, ObjectMap.replies, GetsStopAtEnd,
        List.cons.injEq]
      rw [reply_eq_iff represents platform operation,
        ← Trail.toMap_execute,
        induction (represents.execute platform operation)]

/--
The store answers a history from empty as a map does if and only if every
get of a live key meets `StopsAtEnd`.
-/
theorem replies_eq_map_replies_iff
    (platform : Platform Lba) (operations : List Operation) :
    replies platform Zstore.empty operations =
        ObjectMap.replies ObjectMap.empty operations ↔
      GetsStopAtEnd Trail.empty operations :=
  replies_eq_iff_of_represents Represents.empty platform operations

/-- Put `a`, put `b`, get `a`: the reply runs on into the second object. -/
theorem get_reads_into_next_object :
    replies ⟨fun call => call.toUInt64, fun _ => 0, fun _ => []⟩
        Zstore.empty
        [.putObject [97] [1, 2], .putObject [98] [3], .getObject [97]] =
        [.returned, .returned, .data [1, 2, 3]] ∧
      ObjectMap.replies ObjectMap.empty
          [.putObject [97] [1, 2], .putObject [98] [3],
            .getObject [97]] ≠
        [.returned, .returned, .data [1, 2, 3]] := by
  decide

end ZnsBench.Store.MapBehaviour

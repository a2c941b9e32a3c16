import ZnsBench.Core.ByteString
import Mathlib.Data.List.Basic

/-!
# The SPDK interface of the I/O engines

The engines take tasks from a memory pool, allocate a DMA buffer, submit one
command and are called back with its completion.  Which free object the pool
hands out, whether an allocation succeeds, what a submission returns and how
a command completes are decided outside the program; every such decision is
a field of an explicit record here.
-/

namespace ZnsBench.Multipath.SpdkInterface

open ZnsBench.Core.ByteString

universe u

/-- The environment of one call of `submit_single_io`. -/
structure SubmitOutcome where
  /-- Which free object `spdk_mempool_get` hands out. -/
  slot : Nat
  /-- Whether `spdk_dma_zmalloc` returns a buffer. -/
  allocated : Bool
  /-- The return code of the NVMe submission. -/
  rc : Int
  /-- The value `rand_r` draws, when the workload is random. -/
  draw : UInt32
  deriving DecidableEq, Repr

/-- An NVMe command as the engines build it. -/
inductive Command where
  | zoneAppend (zslba : UInt64) (lbaCount : UInt32) (data : Bytes)
  | read (lba : UInt64) (lbaCount : UInt32)
  deriving DecidableEq, Repr

/--
A completion.  `payload` is what a read left in its buffer and `adjacent`
the memory that follows the buffer.
-/
structure Completion where
  isError : Bool
  cdw0 : UInt32
  payload : Bytes
  adjacent : Bytes
  deriving DecidableEq, Repr

/-- The ways the process ends by `exit(1)`. -/
inductive Exit where
  | taskPoolEmpty
  | bufferAllocationFailed
  deriving DecidableEq, Repr

/-- `spdk_mempool_get`: some free object, or none when the pool is empty. -/
def mempoolGet {Task : Type u} (slot : Nat) :
    List Task → Option (Task × List Task)
  | [] => none
  | first :: rest =>
      let index := slot % (rest.length + 1)
      some ((first :: rest).getD index first, (first :: rest).eraseIdx index)

@[simp]
theorem mempoolGet_eq_none_iff
    {Task : Type u} {slot : Nat} {pool : List Task} :
    mempoolGet slot pool = none ↔ pool = [] := by
  cases pool <;> simp [mempoolGet]

/-- A successful get takes exactly one object out of the pool. -/
theorem length_of_mempoolGet
    {Task : Type u} {slot : Nat} {pool rest : List Task} {task : Task}
    (taken : mempoolGet slot pool = some (task, rest)) :
    rest.length + 1 = pool.length := by
  cases pool with
  | nil => simp [mempoolGet] at taken
  | cons first others =>
      simp only [mempoolGet, Option.some.injEq, Prod.mk.injEq] at taken
      rcases taken with ⟨_, rfl⟩
      have inside :
          slot % (others.length + 1) < (first :: others).length :=
        Nat.mod_lt _ (by simp)
      rw [List.length_eraseIdx_of_lt inside]
      simp

end ZnsBench.Multipath.SpdkInterface

import Mathlib.Data.UInt

/-!
# Registration of namespaces

The engines share one configuration record and one registration routine.
`registerNs` accepts a namespace when the I/O size fits it and is a multiple
of the extended sector size, and derives the two quantities the engines use:
the number of blocks of one I/O and the number of I/Os in the namespace.

The geometry of a namespace is what the SPDK getters report.  SPDK documents
a positive sector size and an extended sector size that adds the interleaved
metadata, if any, to it.
-/

namespace ZnsBench.Multipath.NamespaceRegistration

/-- The part of `g_arbitration` the I/O engines read. -/
structure ArbContext where
  queueDepth : Int32
  ioSizeBytes : UInt32
  isRandom : Bool
  numNamespaces : Int32
  numWorkers : Int32
  deriving DecidableEq, Repr

/-- The values of the `spdk_nvme_ns_get_*` calls for one namespace. -/
structure NvmeNs where
  size : UInt64
  sectorSize : UInt32
  extendedSectorSize : UInt32
  sectorSize_pos : 0 < sectorSize.toNat
  sectorSize_le : sectorSize.toNat ≤ extendedSectorSize.toNat

/-- A namespace with sectors of 512 bytes. -/
def plainNs (size : UInt64) : NvmeNs :=
  ⟨size, 512, 512, by decide, by decide⟩

/-- A namespace with 8 bytes of metadata in every sector of 512 bytes. -/
def metadataNs (size : UInt64) : NvmeNs :=
  ⟨size, 512, 520, by decide, by decide⟩

/-- `struct ns_entry`, with the fields that `register_ns` computes. -/
structure NsEntry where
  ioSizeBlocks : UInt32
  sizeInIos : UInt64
  deriving DecidableEq, Repr

/-- The entry of an accepted namespace; `none` stands for the warning path. -/
def registerNs (arbitration : ArbContext) (ns : NvmeNs) : Option NsEntry :=
  if ns.size < arbitration.ioSizeBytes.toUInt64 ∨
      ns.extendedSectorSize > arbitration.ioSizeBytes ∨
      arbitration.ioSizeBytes % ns.extendedSectorSize ≠ 0 then
    none
  else
    some
      { sizeInIos := ns.size / arbitration.ioSizeBytes.toUInt64
        ioSizeBlocks := arbitration.ioSizeBytes / ns.sectorSize }

/-! ## Accepted namespaces -/

section Accepted

variable
    {arbitration : ArbContext} {ns : NvmeNs} {entry : NsEntry}

/-- What the acceptance test establishes, and what is derived from it. -/
theorem registerNs_eq_some
    (registered : registerNs arbitration ns = some entry) :
    arbitration.ioSizeBytes.toNat ≤ ns.size.toNat ∧
      ns.extendedSectorSize.toNat ≤ arbitration.ioSizeBytes.toNat ∧
        arbitration.ioSizeBytes.toNat % ns.extendedSectorSize.toNat = 0 ∧
          entry.sizeInIos.toNat =
            ns.size.toNat / arbitration.ioSizeBytes.toNat ∧
            entry.ioSizeBlocks.toNat =
              arbitration.ioSizeBytes.toNat / ns.sectorSize.toNat := by
  unfold registerNs at registered
  split at registered
  · cases registered
  · rename_i accepted
    cases registered
    rw [not_or, not_or] at accepted
    rcases accepted with ⟨notSmaller, notLarger, divides⟩
    rw [UInt64.lt_iff_toNat_lt, UInt32.toNat_toUInt64, not_lt] at notSmaller
    rw [gt_iff_lt, UInt32.lt_iff_toNat_lt, not_lt] at notLarger
    rw [not_not, ← UInt32.toNat_inj, UInt32.toNat_mod] at divides
    refine ⟨notSmaller, notLarger, divides, ?_, ?_⟩
    · rw [UInt64.toNat_div, UInt32.toNat_toUInt64]
    · rw [UInt32.toNat_div]

theorem ioSizeBytes_pos
    (registered : registerNs arbitration ns = some entry) :
    0 < arbitration.ioSizeBytes.toNat := by
  rcases registerNs_eq_some registered with ⟨_, fits, _⟩
  exact
    lt_of_lt_of_le (lt_of_lt_of_le ns.sectorSize_pos ns.sectorSize_le) fits

/-- One I/O on an accepted namespace covers at least one block. -/
theorem ioSizeBlocks_pos
    (registered : registerNs arbitration ns = some entry) :
    0 < entry.ioSizeBlocks.toNat := by
  rcases registerNs_eq_some registered with ⟨_, fits, _, _, blocks⟩
  rw [blocks]
  exact Nat.div_pos (ns.sectorSize_le.trans fits) ns.sectorSize_pos

/-- An accepted namespace has room for one I/O. -/
theorem sizeInIos_pos
    (registered : registerNs arbitration ns = some entry) :
    0 < entry.sizeInIos.toNat := by
  rcases registerNs_eq_some registered with ⟨fits, _, _, ios, _⟩
  rw [ios]
  exact Nat.div_pos fits (ioSizeBytes_pos registered)

/--
The I/Os counted in `size_in_ios` lie in the namespace, although the two
quotients round by different sizes.
-/
theorem mul_sectorSize_le_size
    (registered : registerNs arbitration ns = some entry) :
    entry.sizeInIos.toNat * entry.ioSizeBlocks.toNat *
        ns.sectorSize.toNat ≤
      ns.size.toNat := by
  rcases registerNs_eq_some registered with ⟨_, _, _, ios, blocks⟩
  calc
    entry.sizeInIos.toNat * entry.ioSizeBlocks.toNat *
          ns.sectorSize.toNat =
        entry.sizeInIos.toNat *
          (arbitration.ioSizeBytes.toNat / ns.sectorSize.toNat *
            ns.sectorSize.toNat) := by
      rw [blocks, Nat.mul_assoc]
    _ ≤ entry.sizeInIos.toNat * arbitration.ioSizeBytes.toNat :=
      Nat.mul_le_mul_left _ (Nat.div_mul_le_self _ _)
    _ ≤ ns.size.toNat := by
      rw [ios]
      exact Nat.div_mul_le_self _ _

theorem sizeInIos_mul_ioSizeBlocks_le
    {blockCount : Nat}
    (registered : registerNs arbitration ns = some entry)
    (size : ns.size.toNat = blockCount * ns.sectorSize.toNat) :
    entry.sizeInIos.toNat * entry.ioSizeBlocks.toNat ≤ blockCount := by
  have inBytes := mul_sectorSize_le_size registered
  rw [size] at inBytes
  exact Nat.le_of_mul_le_mul_right inBytes ns.sectorSize_pos

theorem sizeInIos_mul_ioSizeBlocks_lt
    (registered : registerNs arbitration ns = some entry) :
    entry.sizeInIos.toNat * entry.ioSizeBlocks.toNat < 2 ^ 64 := by
  have inBytes := mul_sectorSize_le_size registered
  have bounded := ns.size.toNat_lt
  have fewer :
      entry.sizeInIos.toNat * entry.ioSizeBlocks.toNat ≤ ns.size.toNat :=
    le_trans (Nat.le_mul_of_pos_right _ ns.sectorSize_pos) inBytes
  omega

/-- The block count that the reported size stands for is a 64-bit number. -/
theorem blockCount_lt
    {blockCount : Nat}
    (size : ns.size.toNat = blockCount * ns.sectorSize.toNat) :
    blockCount < 2 ^ 64 := by
  have bounded := ns.size.toNat_lt
  have fewer : blockCount ≤ ns.size.toNat := by
    rw [size]
    exact Nat.le_mul_of_pos_right blockCount ns.sectorSize_pos
  omega

end Accepted

/--
`main` sizes the task pool for the larger of the numbers of namespaces and
workers, in 32-bit arithmetic.
-/
def taskCount (arbitration : ArbContext) : UInt32 :=
  (if arbitration.numNamespaces > arbitration.numWorkers then
      arbitration.numNamespaces.toUInt32
    else
      arbitration.numWorkers.toUInt32) *
    arbitration.queueDepth.toUInt32

/-- A non-negative `int` converted to `uint32_t` keeps its value. -/
theorem toNat_toUInt32_of_nonneg
    {value : Int32} (nonneg : 0 ≤ value.toInt) :
    (value.toUInt32.toNat : Int) = value.toInt := by
  have ordered : 0 ≤ value := by
    rw [Int32.le_iff_toInt_le]
    simpa using nonneg
  rw [Int32.toNat_toUInt32_of_le ordered, Int32.toNatClampNeg]
  omega

/-- Without wrapping, the pool is sized by the product the source means. -/
theorem toNat_taskCount
    {arbitration : ArbContext}
    (namespaces : 1 ≤ arbitration.numNamespaces.toInt)
    (depth : 1 ≤ arbitration.queueDepth.toInt)
    (noWrap :
      max arbitration.numNamespaces.toInt arbitration.numWorkers.toInt *
          arbitration.queueDepth.toInt < 2 ^ 32) :
    ((taskCount arbitration).toNat : Int) =
      max arbitration.numNamespaces.toInt arbitration.numWorkers.toInt *
        arbitration.queueDepth.toInt := by
  have larger :
      ((if arbitration.numNamespaces > arbitration.numWorkers then
            arbitration.numNamespaces.toUInt32
          else
            arbitration.numWorkers.toUInt32).toNat : Int) =
        max arbitration.numNamespaces.toInt
          arbitration.numWorkers.toInt := by
    split
    · rename_i more
      rw [gt_iff_lt, Int32.lt_iff_toInt_lt] at more
      rw [toNat_toUInt32_of_nonneg (by omega), max_eq_left more.le]
    · rename_i fewer
      rw [gt_iff_lt, Int32.lt_iff_toInt_lt, not_lt] at fewer
      rw [toNat_toUInt32_of_nonneg (by omega), max_eq_right fewer]
  have factor :
      (arbitration.queueDepth.toUInt32.toNat : Int) =
        arbitration.queueDepth.toInt :=
    toNat_toUInt32_of_nonneg (by omega)
  unfold taskCount
  rw [UInt32.toNat_mul, Int.natCast_mod, Int.natCast_mul, larger, factor]
  apply Int.emod_eq_of_lt
  · apply Int.mul_nonneg
    · exact le_trans (by omega) (le_max_left _ _)
    · omega
  · exact_mod_cast noWrap

/-- The iterations of `while (queue_depth-- > 0)`. -/
def ArbContext.submitIterations (arbitration : ArbContext) : Nat :=
  arbitration.queueDepth.toInt.toNat

/-- The `int` depth as the usual conversions compare it with a `uint64_t`. -/
def ArbContext.depthLimit (arbitration : ArbContext) : UInt64 :=
  UInt64.ofInt arbitration.queueDepth.toInt

theorem ArbContext.toNat_depthLimit
    {arbitration : ArbContext}
    (positive : 1 ≤ arbitration.queueDepth.toInt) :
    arbitration.depthLimit.toNat = arbitration.submitIterations := by
  have bounded := arbitration.queueDepth.toInt_lt
  have small : arbitration.queueDepth.toInt % 2 ^ 64 =
      arbitration.queueDepth.toInt := by
    rw [Int.emod_eq_of_lt] <;> omega
  unfold depthLimit submitIterations
  rw [UInt64.ofInt, small, UInt64.toNat_ofNat']
  apply Nat.mod_eq_of_lt
  omega

end ZnsBench.Multipath.NamespaceRegistration

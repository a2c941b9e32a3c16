import ZnsBench.Multipath.VerifierHistory
import ZnsBench.Multipath.CommandStream
import ZnsBench.Arbitration.IoAddresses

/-!
# Transfers and their buffers

Every engine allocates `io_size_bytes` for an I/O and asks for
`io_size_blocks` blocks.  `register_ns` tests the I/O size against the
extended sector size, which counts the interleaved metadata, and derives the
number of blocks from the plain sector size.  Once the metadata of the blocks
that fit the buffer add up to one sector, the quotient is one block too large
and the command moves more than the buffer holds.
-/

namespace ZnsBench.Arbitration.TransferSize

open ZnsBench.Core.ByteString
open ZnsBench.Core.GuardedRun
open ZnsBench.Multipath
open ZnsBench.Multipath.NamespaceRegistration
open ZnsBench.Multipath.SpdkInterface

/-- The data of a command fits its buffer, metadata included. -/
def Fits (ns : NvmeNs) (lbaCount : UInt32) (bufferSize : Nat) : Prop :=
  lbaCount.toNat * ns.extendedSectorSize.toNat ≤ bufferSize

/-- The blocks that fit an I/O carry less than one sector of metadata. -/
def MetadataBelowSector (arbitration : ArbContext) (ns : NvmeNs) : Prop :=
  arbitration.ioSizeBytes.toNat / ns.extendedSectorSize.toNat *
      (ns.extendedSectorSize.toNat - ns.sectorSize.toNat) <
    ns.sectorSize.toNat

theorem fits_iff
    {arbitration : ArbContext} {ns : NvmeNs} {entry : NsEntry}
    (registered : registerNs arbitration ns = some entry) :
    Fits ns entry.ioSizeBlocks arbitration.ioSizeBytes.toNat ↔
      MetadataBelowSector arbitration ns := by
  rcases registerNs_eq_some registered with ⟨_, _, divides, _, blocks⟩
  have sector := ns.sectorSize_pos
  have extended : 0 < ns.extendedSectorSize.toNat :=
    lt_of_lt_of_le sector ns.sectorSize_le
  rcases Nat.exists_eq_add_of_le ns.sectorSize_le with
    ⟨metadata, interleaved⟩
  rcases Nat.dvd_of_mod_eq_zero divides with ⟨fitting, size⟩
  unfold Fits MetadataBelowSector
  calc
    entry.ioSizeBlocks.toNat * ns.extendedSectorSize.toNat ≤
          arbitration.ioSizeBytes.toNat ↔
        entry.ioSizeBlocks.toNat ≤ fitting := by
      rw [size, Nat.mul_comm ns.extendedSectorSize.toNat fitting]
      exact Nat.mul_le_mul_right_iff extended
    _ ↔ fitting * ns.extendedSectorSize.toNat <
          (fitting + 1) * ns.sectorSize.toNat := by
      rw [← Nat.lt_succ_iff, blocks, size, Nat.mul_comm,
        Nat.div_lt_iff_lt_mul sector]
    _ ↔ fitting * metadata < ns.sectorSize.toNat := by
      rw [interleaved, Nat.mul_add, Nat.add_mul, Nat.one_mul,
        Nat.add_lt_add_iff_left]
    _ ↔ arbitration.ioSizeBytes.toNat / ns.extendedSectorSize.toNat *
            (ns.extendedSectorSize.toNat - ns.sectorSize.toNat) <
          ns.sectorSize.toNat := by
      rw [size, Nat.mul_div_cancel_left _ extended, interleaved,
        Nat.add_sub_cancel_left]

/-! ## The verifier -/

section Verifier

open ZnsBench.Multipath.VerificationEngine
open ZnsBench.Multipath.VerifierHistory

/-- The DMA buffer of a task of the verifier. -/
def dmaBuffer (task : ArbTask) : Option Bytes :=
  if task.verificationMode then task.readBuf else task.buf

/-- The number of blocks that a command transfers. -/
def lbaCount : Command → UInt32
  | .zoneAppend _ count _ => count
  | .read _ count => count

/-- A command over `io_size_blocks` with a buffer of `io_size_bytes`. -/
def Allocated (setup : Setup) (issue : Issue) : Prop :=
  lbaCount issue.command = setup.entry.ioSizeBlocks ∧
    ∃ buffer,
      dmaBuffer issue.task = some buffer ∧
        buffer.length = setup.arbitration.ioSizeBytes.toNat

theorem allocated_append
    (setup : Setup) (stale : ArbTask) (count : UInt64) (rc : Int) :
    Allocated setup
      ⟨appendTask setup stale count,
        .zoneAppend zslba setup.entry.ioSizeBlocks
          (block setup (dataPattern count)),
        rc⟩ :=
  ⟨rfl, _, rfl, length_snprintfText _ _⟩

theorem allocated_verifyRead
    (setup : Setup) (stale : ArbTask) (verifyLba : UInt64)
    (expectedData : Bytes) (rc : Int) :
    Allocated setup
      ⟨readTask setup stale verifyLba expectedData,
        .read verifyLba setup.entry.ioSizeBlocks, rc⟩ :=
  ⟨rfl, _, rfl, List.length_replicate⟩

theorem allocated_of_submits
    {setup : Setup} {state next : Verifier} {issue : Issue}
    (submits : Submits state next issue)
    (allocated : Allocated setup issue)
    (before : ∀ issue ∈ state.issued, Allocated setup issue) :
    ∀ issue ∈ next.issued, Allocated setup issue := by
  intro other issued
  rw [submits.issued] at issued
  rcases List.mem_append.mp issued with earlier | latest
  · exact before other earlier
  · rw [List.mem_singleton.mp latest]
    exact allocated

theorem allocated_of_reachable
    {setup : Setup} {taskPool : List ArbTask} {state : Verifier}
    (reachable : Reachable setup taskPool Unrestricted state) :
    ∀ issue ∈ state.issued, Allocated setup issue := by
  induction reachable with
  | refl =>
      intro issue issued
      cases issued
  | tail _ _ taken induction =>
      rcases step_cases taken with
        ⟨outcome, rfl, _, submitted⟩ |
          ⟨index, completion, outcome, task, rfl, _, _, refilled⟩ |
            ⟨rfl, _, rfl⟩
      · rcases submits_append submitted with ⟨stale, submits⟩
        exact
          allocated_of_submits submits (allocated_append _ _ _ _) induction
      · rcases refill_cases refilled with
          ⟨_, idle⟩ | ⟨_, _, _, _, _, _, submitted⟩ | ⟨_, _, submitted⟩
        · cases idle
          exact induction
        · rcases submits_verifyRead submitted with ⟨stale, submits⟩
          exact
            allocated_of_submits submits
              (allocated_verifyRead _ _ _ _ _) induction
        · rcases submits_append submitted with ⟨stale, submits⟩
          exact
            allocated_of_submits submits (allocated_append _ _ _ _)
              induction
      · exact induction

end Verifier

/-! ## All engines -/

/-- The closed-loop engines with this registration. -/
def copies : List ClosedLoopEngine.Variant :=
  [ClosedLoopEngine.mpOneDriveAppend, ClosedLoopEngine.mpOneDriveRead,
    ClosedLoopEngine.threeTargetReads, ClosedLoopEngine.threeTargetWrites,
    ClosedLoopEngine.twoTargetsRead]

/-- The arbitration benchmarks with this registration. -/
def benchmarks : List ContextLoop.Program :=
  [ContextLoop.arbitration, ContextLoop.arbitrationWrite,
    ContextLoop.arbitrationAppend, ContextLoop.arbitrationRead,
    ContextLoop.arbitrationRdma, ContextLoop.arbitrationRdmaAppend,
    ContextLoop.arbitrationRdmaRead]

theorem lbaCount_eq_of_mem_commandsOf
    {variant : ClosedLoopEngine.Variant} {setup : ClosedLoopEngine.Setup}
    {taskPool : List ClosedLoopEngine.ArbTask}
    {state : ClosedLoopEngine.Bench} {context : Nat} {command : Command}
    (copy : variant ∈ copies)
    (reachable :
      ClosedLoopEngine.Reachable variant setup taskPool Unrestricted state)
    (issued : command ∈ CommandStream.commandsOf state context) :
    lbaCount command = (setup.entry context).ioSizeBlocks := by
  have stream := CommandStream.stream_of_reachable reachable context
  rcases List.mem_iff_getElem?.mp issued with ⟨number, found⟩
  rcases stream.command number command found with ⟨offset, buffer, rfl⟩
  simp only [copies, List.mem_cons, List.not_mem_nil, or_false] at copy
  rcases copy with rfl | rfl | rfl | rfl | rfl
  · rfl
  · rfl
  · rfl
  · rfl
  · rfl

theorem lbaCount_eq_of_mem_issued
    {program : ContextLoop.Program} {setup : ContextLoop.Setup}
    {state : ContextLoop.Loop} {issue : ContextLoop.Issue}
    (benchmark : program ∈ benchmarks)
    (stream : IoAddresses.Stream program setup state)
    (issued : issue ∈ state.issued) :
    issue.command.lbaCount = setup.entry.ioSizeBlocks ∧
      issue.task.buf.length = setup.arbitration.ioSizeBytes.toNat := by
  rcases List.mem_iff_getElem?.mp issued with ⟨number, found⟩
  rcases stream.issue number issue found with ⟨_, command, buffer⟩
  refine ⟨?_, buffer⟩
  rw [command]
  simp only [benchmarks, List.mem_cons, List.not_mem_nil,
    or_false] at benchmark
  rcases benchmark with rfl | rfl | rfl | rfl | rfl | rfl | rfl
  · rfl
  · rfl
  · rfl
  · rfl
  · rfl
  · rfl
  · rfl

/--
For every accepted namespace and every command that one of the engines issues
in any run, the data fits the buffer if and only if the blocks that fit it
carry less than one sector of metadata.
-/
theorem transfer_fits_iff
    {arbitration : ArbContext} {ns : NvmeNs} {entry : NsEntry}
    (registered : registerNs arbitration ns = some entry) :
    (∀ taskPool state,
      VerificationEngine.Reachable ⟨arbitration, entry⟩ taskPool
          Unrestricted state →
        ∀ issue ∈ state.issued,
          ∃ buffer,
            dmaBuffer issue.task = some buffer ∧
              (Fits ns (lbaCount issue.command) buffer.length ↔
                MetadataBelowSector arbitration ns)) ∧
      (∀ variant ∈ copies,
        ∀ setup taskPool state context,
          setup.arbitration = arbitration →
            setup.entry context = entry →
              ClosedLoopEngine.Reachable variant setup taskPool
                  Unrestricted state →
                ∀ command ∈ CommandStream.commandsOf state context,
                  Fits ns (lbaCount command)
                      setup.arbitration.ioSizeBytes.toNat ↔
                    MetadataBelowSector arbitration ns) ∧
      ∀ program ∈ benchmarks,
        ∀ report state,
          ContextLoop.Reachable program ⟨arbitration, entry, report⟩
              state →
            ∀ issue ∈ state.issued,
              Fits ns issue.command.lbaCount issue.task.buf.length ↔
                MetadataBelowSector arbitration ns := by
  have fits := fits_iff registered
  refine ⟨?_, ?_, ?_⟩
  · intro taskPool state reachable issue issued
    rcases allocated_of_reachable reachable issue issued with
      ⟨count, buffer, allocated, size⟩
    refine ⟨buffer, allocated, ?_⟩
    rw [count, size]
    exact fits
  · intro variant copy setup taskPool state context same registeredEntry
      reachable command issued
    subst same
    rw [lbaCount_eq_of_mem_commandsOf copy reachable issued,
      registeredEntry]
    exact fits
  · intro program benchmark report state reachable issue issued
    have stream :=
      IoAddresses.stream_of_reachable (sizeInIos_pos registered) reachable
    rcases lbaCount_eq_of_mem_issued benchmark stream issued with
      ⟨count, size⟩
    rw [count, size]
    exact fits

/-- A read of two blocks, with 16 bytes of metadata, fits its buffer. -/
theorem two_blocks_fit :
    ∃ state issue,
      ContextLoop.Reachable ContextLoop.arbitration
          IoAddresses.pairOfBlocks state ∧
        state.issued = [issue] ∧
          Fits IoAddresses.fiveBlocks issue.command.lbaCount
            issue.task.buf.length := by
  have replayed :
      ∃ state,
        ContextLoop.Reachable ContextLoop.arbitration
            IoAddresses.pairOfBlocks state ∧
          state.issued.length = 1 :=
    Run.exists_of_replay _ [.submit ⟨true, true, 0, 0, 0⟩]
      (by decide +kernel)
  rcases replayed with ⟨state, reached, one⟩
  rcases List.length_eq_one_iff.mp one with ⟨issue, issued⟩
  have registered :
      registerNs IoAddresses.pairOfBlocks.arbitration
          IoAddresses.fiveBlocks =
        some IoAddresses.pairOfBlocks.entry := by
    decide
  have below :
      MetadataBelowSector IoAddresses.pairOfBlocks.arbitration
        IoAddresses.fiveBlocks := by
    unfold MetadataBelowSector
    decide
  have fits :=
    (transfer_fits_iff registered).2.2 ContextLoop.arbitration
      (by simp [benchmarks]) [] state reached issue (by simp [issued])
  exact ⟨state, issue, reached, issued, fits.mpr below⟩

/-- Blocks of 512 bytes, each with 8 bytes of metadata. -/
def withMetadata : NvmeNs := metadataNs 524288

/-- I/Os of 64 blocks with their metadata, as long as 65 without. -/
def sixtyFourBlocks : VerificationEngine.Setup :=
  ⟨⟨1, 33280, false, 1, 1⟩, ⟨65, 15⟩⟩

/-- The verifier asks for 65 blocks, with their metadata 33800 bytes. -/
theorem append_overruns_buffer :
    registerNs sixtyFourBlocks.arbitration withMetadata =
        some sixtyFourBlocks.entry ∧
      ∃ state issue buffer,
        VerificationEngine.Reachable sixtyFourBlocks
            [VerificationEngine.idleTask] Unrestricted state ∧
          state.issued = [issue] ∧
            dmaBuffer issue.task = some buffer ∧
              ¬ Fits withMetadata (lbaCount issue.command)
                buffer.length := by
  have replayed :
      ∃ state,
        VerificationEngine.Reachable sixtyFourBlocks
            [VerificationEngine.idleTask] Unrestricted state ∧
          state.issued.length = 1 :=
    Run.exists_of_replay _ [.submit ⟨0, true, 0, 0⟩] (by decide +kernel)
  rcases replayed with ⟨state, reached, one⟩
  rcases List.length_eq_one_iff.mp one with ⟨issue, issued⟩
  rcases allocated_of_reachable reached issue (by simp [issued]) with
    ⟨count, buffer, allocated, size⟩
  refine ⟨by decide, state, issue, buffer, reached, issued, allocated, ?_⟩
  rw [count, size]
  unfold Fits
  decide

end ZnsBench.Arbitration.TransferSize

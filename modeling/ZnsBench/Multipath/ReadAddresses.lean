import ZnsBench.Multipath.CommandStream

/-!
# The addresses of the multipath readers

`mp_one_drive_read.cc` and `three_target_reads.cc` compute the wrapped offset
of `arbitration.cc` and do not use it: a read starts at the block whose number
is the context's counter.  The counter advances by one block where an I/O
takes `io_size_blocks`, and it never returns to the start of the namespace.

`addressLaw_iff` says exactly which runs still cover the namespace in order
and stay inside it.
-/

namespace ZnsBench.Multipath.ReadAddresses

open ZnsBench.Core.GuardedRun
open ZnsBench.Multipath.NamespaceRegistration
open ZnsBench.Multipath.SpdkInterface
open ZnsBench.Multipath.ClosedLoopEngine
open ZnsBench.Multipath.CommandStream

/-- What the reads of one context are meant to do. -/
structure AddressLaw (arbitration : ArbContext) (entry : NsEntry)
    (blockCount : Nat) (commands : List Command) : Prop where
  /-- A sequential workload wraps around the namespace. -/
  cover :
    arbitration.isRandom = false →
      ∀ number command,
        commands[number]? = some command →
          ∃ lba,
            command = .read lba entry.ioSizeBlocks ∧
              lba.toNat =
                number % entry.sizeInIos.toNat * entry.ioSizeBlocks.toNat
  apart :
    arbitration.isRandom = false →
      ∀ number first firstCount second secondCount,
        commands[number]? = some (.read first firstCount) →
          commands[number + 1]? = some (.read second secondCount) →
            first.toNat + firstCount.toNat ≤ second.toNat ∨
              second.toNat + secondCount.toNat ≤ first.toNat
  inside :
    ∀ command ∈ commands,
      ∃ lba lbaCount,
        command = .read lba lbaCount ∧
          lba.toNat + lbaCount.toNat ≤ blockCount

/--
The number of reads after which the addresses have not left the law yet: one
read, or one pass over the namespace in I/Os of one block.
-/
def WithinFirstPass (arbitration : ArbContext) (entry : NsEntry)
    (blockCount reads : Nat) : Prop :=
  if arbitration.isRandom then
    reads = 0 ∨ reads - 1 + entry.ioSizeBlocks.toNat ≤ blockCount
  else
    reads ≤ 1 ∨
      entry.ioSizeBlocks.toNat = 1 ∧ reads ≤ entry.sizeInIos.toNat

/-- The commands of a reader after a number of reads. -/
def blockReads (entry : NsEntry) (reads : Nat) : List Command :=
  (List.range reads).map fun number =>
    .read (UInt64.ofNat number) entry.ioSizeBlocks

@[simp]
theorem getElem?_blockReads
    {entry : NsEntry} {reads number : Nat} {command : Command} :
    (blockReads entry reads)[number]? = some command ↔
      number < reads ∧
        command = .read (UInt64.ofNat number) entry.ioSizeBlocks := by
  rw [blockReads, List.getElem?_map]
  by_cases before : number < reads
  · rw [List.getElem?_range before, Option.map_some, Option.some.injEq]
    constructor
    · rintro rfl
      exact ⟨before, rfl⟩
    · rintro ⟨_, rfl⟩
      rfl
  · rw [List.getElem?_eq_none (by simpa using before)]
    constructor
    · intro impossible
      cases impossible
    · rintro ⟨earlier, _⟩
      exact absurd earlier before

/-- Both readers read block after block, whatever the workload. -/
theorem commandsOf_eq_blockReads
    {variant : Variant} {setup : Setup} {taskPool : List ArbTask}
    {allowed : Bench → Event → Prop} {state : Bench}
    (reader : variant = mpOneDriveRead ∨ variant = threeTargetReads)
    (reachable : Reachable variant setup taskPool allowed state)
    (context : Nat) :
    commandsOf state context =
      blockReads (setup.entry context)
        (commandsOf state context).length := by
  have stream := stream_of_reachable reachable context
  have built :
      ∀ number offset buffer,
        variant.command (setup.entry context) (UInt64.ofNat number)
            offset buffer =
          .read (UInt64.ofNat number)
            (setup.entry context).ioSizeBlocks := by
    intro number offset buffer
    rcases reader with rfl | rfl
    · simp [mpOneDriveRead]
    · simp [threeTargetReads]
  apply List.ext_getElem?
  intro number
  rcases Nat.lt_or_ge number (commandsOf state context).length with
    before | beyond
  · have found := List.getElem?_eq_getElem before
    rcases stream.command number _ found with ⟨offset, buffer, command⟩
    rw [found, eq_comm, getElem?_blockReads]
    exact ⟨before, command.trans (built number offset buffer)⟩
  · rw [List.getElem?_eq_none beyond, List.getElem?_eq_none]
    simpa [blockReads] using beyond

section Law

variable
    {arbitration : ArbContext} {ns : NvmeNs} {entry : NsEntry}
    {blockCount reads : Nat}

/-- A block of the namespace has a number that fits the counter. -/
theorem toNat_ofNat_of_lt_blockCount
    (size : ns.size.toNat = blockCount * ns.sectorSize.toNat)
    {number : Nat} (inside : number ≤ blockCount) :
    (UInt64.ofNat number).toNat = number := by
  have bounded := blockCount_lt size
  rw [UInt64.toNat_ofNat']
  exact Nat.mod_eq_of_lt (by omega)

/-- The reads stay inside as long as the last one does. -/
theorem inside_iff
    (registered : registerNs arbitration ns = some entry)
    (size : ns.size.toNat = blockCount * ns.sectorSize.toNat) :
    (∀ command ∈ blockReads entry reads,
      ∃ lba lbaCount,
        command = .read lba lbaCount ∧
          lba.toNat + lbaCount.toNat ≤ blockCount) ↔
      reads = 0 ∨ reads - 1 + entry.ioSizeBlocks.toNat ≤ blockCount := by
  have positive := ioSizeBlocks_pos registered
  have room := sizeInIos_mul_ioSizeBlocks_le registered size
  have fits : entry.ioSizeBlocks.toNat ≤ blockCount :=
    le_trans
      (Nat.le_mul_of_pos_left _ (sizeInIos_pos registered)) room
  constructor
  · intro inside
    by_contra! outlived
    -- The first read that passes the end is among those issued.
    have first :
        (blockReads entry reads)[blockCount + 1 -
            entry.ioSizeBlocks.toNat]? =
          some
            (.read
              (UInt64.ofNat (blockCount + 1 - entry.ioSizeBlocks.toNat))
              entry.ioSizeBlocks) :=
      getElem?_blockReads.mpr ⟨by omega, rfl⟩
    rcases inside _ (List.mem_of_getElem? first) with
      ⟨lba, lbaCount, command, bounded⟩
    cases command
    rw [toNat_ofNat_of_lt_blockCount size (by omega)] at bounded
    omega
  · intro short command issued
    rcases List.mem_iff_getElem?.mp issued with ⟨number, found⟩
    rcases getElem?_blockReads.mp found with ⟨before, rfl⟩
    refine ⟨_, _, rfl, ?_⟩
    rw [toNat_ofNat_of_lt_blockCount size (by omega)]
    omega

/-- One-block reads follow the wrapped stream up to its first wrap only. -/
theorem cover_iff
    (registered : registerNs arbitration ns = some entry) :
    (∀ number command,
      (blockReads entry reads)[number]? = some command →
        ∃ lba,
          command = .read lba entry.ioSizeBlocks ∧
            lba.toNat =
              number % entry.sizeInIos.toNat *
                entry.ioSizeBlocks.toNat) ↔
      reads ≤ 1 ∨
        entry.ioSizeBlocks.toNat = 1 ∧
          reads ≤ entry.sizeInIos.toNat := by
  have positive := sizeInIos_pos registered
  have bounded := entry.sizeInIos.toNat_lt
  constructor
  · intro cover
    by_contra! outlived
    rcases outlived with ⟨several, others⟩
    have second := cover 1 _ (getElem?_blockReads.mpr ⟨several, rfl⟩)
    rcases second with ⟨lba, command, address⟩
    cases command
    have oneBlock : entry.ioSizeBlocks.toNat = 1 :=
      Nat.eq_one_of_mul_eq_one_left address.symm
    have passed := others oneBlock
    have wrapped :=
      cover entry.sizeInIos.toNat _
        (getElem?_blockReads.mpr ⟨passed, rfl⟩)
    rcases wrapped with ⟨lba, command, address⟩
    cases command
    rw [Nat.mod_self, Nat.zero_mul, UInt64.toNat_ofNat',
      Nat.mod_eq_of_lt bounded] at address
    omega
  · intro short number command found
    rcases getElem?_blockReads.mp found with ⟨before, rfl⟩
    refine ⟨_, rfl, ?_⟩
    rcases short with single | ⟨oneBlock, onePass⟩
    · have zero : number = 0 := by omega
      subst number
      simp
    · rw [oneBlock, Nat.mul_one, UInt64.toNat_ofNat',
        Nat.mod_eq_of_lt (by omega), Nat.mod_eq_of_lt (by omega)]

theorem apart_of_short
    (short :
      reads ≤ 1 ∨
        entry.ioSizeBlocks.toNat = 1 ∧ reads ≤ entry.sizeInIos.toNat)
    {number : Nat} {first second : UInt64}
    {firstCount secondCount : UInt32}
    (earlier :
      (blockReads entry reads)[number]? = some (.read first firstCount))
    (later :
      (blockReads entry reads)[number + 1]? =
        some (.read second secondCount)) :
    first.toNat + firstCount.toNat ≤ second.toNat := by
  have bounded := entry.sizeInIos.toNat_lt
  rcases getElem?_blockReads.mp earlier with ⟨_, firstRead⟩
  rcases getElem?_blockReads.mp later with ⟨before, secondRead⟩
  cases firstRead
  cases secondRead
  rcases short with single | ⟨oneBlock, onePass⟩
  · omega
  · rw [oneBlock, UInt64.toNat_ofNat', UInt64.toNat_ofNat',
      Nat.mod_eq_of_lt (by omega), Nat.mod_eq_of_lt (by omega)]

theorem addressLaw_blockReads_iff
    (registered : registerNs arbitration ns = some entry)
    (size : ns.size.toNat = blockCount * ns.sectorSize.toNat) :
    AddressLaw arbitration entry blockCount (blockReads entry reads) ↔
      WithinFirstPass arbitration entry blockCount reads := by
  unfold WithinFirstPass
  split
  · rename_i random
    rw [← inside_iff registered size]
    constructor
    · intro law
      exact law.inside
    · intro inside
      refine ⟨?_, ?_, inside⟩
      · intro sequential
        exact absurd random (by simp [sequential])
      · intro sequential
        exact absurd random (by simp [sequential])
  · rename_i sequential
    rw [Bool.not_eq_true] at sequential
    constructor
    · intro law
      exact (cover_iff registered).mp (law.cover sequential)
    · intro short
      refine ⟨fun _ => (cover_iff registered).mpr short, ?_, ?_⟩
      · intro _ number first firstCount second secondCount earlier later
        exact Or.inl (apart_of_short short earlier later)
      · rw [inside_iff registered size]
        have room := sizeInIos_mul_ioSizeBlocks_le registered size
        have fits : entry.ioSizeBlocks.toNat ≤ blockCount :=
          le_trans
            (Nat.le_mul_of_pos_left _ (sizeInIos_pos registered)) room
        rcases short with single | ⟨oneBlock, onePass⟩
        · omega
        · rw [oneBlock, Nat.mul_one] at room
          omega

end Law

/--
In every run of either reader, the reads of a context follow the law exactly
while they are within the first pass.
-/
theorem addressLaw_iff
    {variant : Variant} {setup : Setup} {taskPool : List ArbTask}
    {state : Bench} {context blockCount : Nat} {ns : NvmeNs}
    (reader : variant = mpOneDriveRead ∨ variant = threeTargetReads)
    (reachable : Reachable variant setup taskPool Unrestricted state)
    (registered :
      registerNs setup.arbitration ns = some (setup.entry context))
    (size : ns.size.toNat = blockCount * ns.sectorSize.toNat) :
    AddressLaw setup.arbitration (setup.entry context) blockCount
        (commandsOf state context) ↔
      WithinFirstPass setup.arbitration (setup.entry context) blockCount
        (commandsOf state context).length := by
  rw [← addressLaw_blockReads_iff registered size,
    ← commandsOf_eq_blockReads reader reachable context]

/-- A namespace of 16 blocks of 512 bytes. -/
def sixteenBlocks : NvmeNs := plainNs 8192

/-- One context that reads it two blocks at a time, two reads deep. -/
def pairReader : Setup := ⟨⟨2, 1024, false, 1, 1⟩, 1, fun _ => ⟨2, 8⟩⟩

/-- The first read is where it should be. -/
theorem addressLaw_first_read :
    ∃ state,
      Reachable mpOneDriveRead pairReader [⟨0, []⟩, ⟨0, []⟩] Unrestricted
          state ∧
        (commandsOf state 0).length = 1 ∧
          AddressLaw pairReader.arbitration (pairReader.entry 0) 16
            (commandsOf state 0) := by
  have replayed :
      ∃ state,
        Reachable mpOneDriveRead pairReader [⟨0, []⟩, ⟨0, []⟩]
            Unrestricted state ∧
          (commandsOf state 0).length = 1 :=
    Run.exists_of_replay _ [.submit 0 ⟨0, true, 0, 0⟩] (by decide +kernel)
  rcases replayed with ⟨state, reached, one⟩
  have registered :
      registerNs pairReader.arbitration sixteenBlocks =
        some (pairReader.entry 0) := by
    decide
  have within :
      WithinFirstPass pairReader.arbitration (pairReader.entry 0) 16
        (commandsOf state 0).length := by
    rw [one]
    exact Or.inl le_rfl
  exact
    ⟨state, reached, one,
      (addressLaw_iff (Or.inl rfl) reached registered (by decide)).mpr
        within⟩

/-- The second read starts inside the first one. -/
theorem second_read_overlaps :
    ∃ state,
      Reachable mpOneDriveRead pairReader [⟨0, []⟩, ⟨0, []⟩] Unrestricted
          state ∧
        registerNs pairReader.arbitration sixteenBlocks =
          some (pairReader.entry 0) ∧
          commandsOf state 0 = [.read 0 2, .read 1 2] ∧
            ¬ AddressLaw pairReader.arbitration (pairReader.entry 0) 16
              (commandsOf state 0) := by
  have replayed :
      ∃ state,
        Reachable mpOneDriveRead pairReader [⟨0, []⟩, ⟨0, []⟩]
            Unrestricted state ∧
          commandsOf state 0 = [.read 0 2, .read 1 2] :=
    Run.exists_of_replay _
      [.submit 0 ⟨0, true, 0, 0⟩, .submit 0 ⟨0, true, 0, 0⟩]
      (by decide +kernel)
  rcases replayed with ⟨state, reached, reads⟩
  refine ⟨state, reached, by decide, reads, ?_⟩
  intro law
  rw [reads] at law
  have overlap := law.apart rfl 0 0 2 1 2 rfl rfl
  revert overlap
  decide

end ZnsBench.Multipath.ReadAddresses

import ZnsBench.Core.RoundRobin
import ZnsBench.Arbitration.ContextLoop

/-!
# The addresses of the arbitration benchmarks

`offset_in_ios` counts the calls of `submit_single_io` modulo the number of
I/Os in the namespace, whether SPDK accepts them or not, and a random offset
is a remainder by the same number.  Hence no I/O of `arbitration.cc` leaves
its namespace, however long the benchmark runs.
-/

namespace ZnsBench.Arbitration.IoAddresses

open ZnsBench.Core.GuardedRun
open ZnsBench.Core.RoundRobin
open ZnsBench.Multipath.NamespaceRegistration
open ZnsBench.Arbitration.ContextLoop

/-! ## Offsets -/

/-- The offset of the call with a given number. -/
def offsetOf (program : Program) (setup : Setup) (number : Nat)
    (outcome : Outcome) : Nat :=
  if isRandom program setup then
    outcome.draw.toNat % setup.entry.sizeInIos.toNat
  else
    number % setup.entry.sizeInIos.toNat

theorem offsetOf_lt
    {setup : Setup} (room : 0 < setup.entry.sizeInIos.toNat)
    (program : Program) (number : Nat) (outcome : Outcome) :
    offsetOf program setup number outcome < setup.entry.sizeInIos.toNat := by
  unfold offsetOf
  split
  · exact Nat.mod_lt _ room
  · exact Nat.mod_lt _ room

/-- `offset_in_ios` after a number of calls. -/
def position (program : Program) (setup : Setup) (calls : Nat) : Nat :=
  if isRandom program setup then
    0
  else
    calls % setup.entry.sizeInIos.toNat

theorem position_lt
    {setup : Setup} (room : 0 < setup.entry.sizeInIos.toNat)
    (program : Program) (calls : Nat) :
    position program setup calls < setup.entry.sizeInIos.toNat := by
  unfold position
  split
  · exact room
  · exact Nat.mod_lt _ room

/-- One call takes its offset and advances the counter, with one wrap. -/
theorem chooseOffset_position
    {program : Program} {setup : Setup} {offsetInIos : UInt64}
    {calls : Nat} (room : 0 < setup.entry.sizeInIos.toNat)
    (counted : offsetInIos.toNat = position program setup calls)
    (outcome : Outcome) :
    (chooseOffset program setup outcome.draw offsetInIos).1.toNat =
        offsetOf program setup calls outcome ∧
      (chooseOffset program setup outcome.draw offsetInIos).2.toNat =
        position program setup (calls + 1) := by
  unfold chooseOffset offsetOf position at *
  split
  · rename_i random
    rw [if_pos random] at counted
    exact ⟨by rw [UInt64.toNat_mod, UInt32.toNat_toUInt64], counted⟩
  · rename_i sequential
    rw [if_neg sequential] at counted
    have bounded := setup.entry.sizeInIos.toNat_lt
    have below : offsetInIos.toNat < setup.entry.sizeInIos.toNat := by
      rw [counted]
      exact Nat.mod_lt _ room
    have advanced :
        (offsetInIos + 1).toNat = offsetInIos.toNat + 1 := by
      rw [UInt64.toNat_add]
      exact Nat.mod_eq_of_lt (by simp only [UInt64.reduceToNat]; omega)
    rw [succ_mod room, ← counted]
    split
    · rename_i last
      have wrapped :
          offsetInIos.toNat + 1 = setup.entry.sizeInIos.toNat := by
        rw [← advanced, last]
      refine ⟨rfl, ?_⟩
      rw [if_neg (Nat.not_lt_of_ge (Nat.le_of_eq wrapped.symm))]
      rfl
    · rename_i inside
      have different :
          offsetInIos.toNat + 1 ≠ setup.entry.sizeInIos.toNat := by
        rw [← advanced]
        exact fun equal => inside (UInt64.toNat_inj.mp equal)
      refine ⟨rfl, ?_⟩
      rw [if_pos (by omega), advanced]

/-! ## Runs -/

/-- What is known of the commands of a context. -/
structure Stream (program : Program) (setup : Setup) (state : Loop) :
    Prop where
  counted :
    state.ctx.offsetInIos.toNat =
      position program setup state.issued.length
  wp : state.ctx.wp = program.writePointer setup.report
  issue :
    ∀ number issue,
      state.issued[number]? = some issue →
        issue.offset.toNat =
            offsetOf program setup number issue.outcome ∧
          issue.command =
            program.command setup.entry
              (program.writePointer setup.report) issue.offset ∧
          issue.task.buf.length = setup.arbitration.ioSizeBytes.toNat

theorem Stream.startIo
    {program : Program} {setup : Setup} {state : Loop}
    (room : 0 < setup.entry.sizeInIos.toNat)
    (stream : Stream program setup state) (outcome : Outcome) :
    Stream program setup (startIo program setup outcome state) := by
  have chosen := chooseOffset_position room stream.counted outcome
  refine ⟨?_, stream.wp, ?_⟩
  · rw [ContextLoop.startIo]
    dsimp only
    rw [chosen.2, List.length_append]
    rfl
  · intro number issue found
    simp only [ContextLoop.startIo] at found
    rcases getElem?_concat_eq_some found with earlier | ⟨rfl, rfl⟩
    · exact stream.issue number issue earlier
    · rw [nextIssue]
      refine ⟨chosen.1, ?_, List.length_replicate⟩
      rw [stream.wp]

theorem stream_of_reachable
    {program : Program} {setup : Setup} {state : Loop}
    (room : 0 < setup.entry.sizeInIos.toNat)
    (reachable : Reachable program setup state) :
    Stream program setup state := by
  refine
    Reachable.preserves (Stream program setup) reachable ?_ ?_ ?_ ?_
  · refine ⟨?_, rfl, ?_⟩
    · simp [initial, initNsWorkerCtx, position]
    · intro number issue found
      cases found
  · intro before outcome stream
    exact stream.startIo room outcome
  · intro before index task now _ stream
    exact ⟨stream.counted, stream.wp, stream.issue⟩
  · intro before left draining stream
    exact ⟨stream.counted, stream.wp, stream.issue⟩

/-! ## Registered namespaces -/

section Registered

variable
    {arbitration : ArbContext} {ns : NvmeNs} {entry : NsEntry}
    {blockCount : Nat}

/-- An I/O at an offset of the namespace lies inside it. -/
theorem mul_add_le_blockCount
    (registered : registerNs arbitration ns = some entry)
    (size : ns.size.toNat = blockCount * ns.sectorSize.toNat)
    {offset : Nat} (below : offset < entry.sizeInIos.toNat) :
    offset * entry.ioSizeBlocks.toNat + entry.ioSizeBlocks.toNat ≤
      blockCount := by
  calc
    offset * entry.ioSizeBlocks.toNat + entry.ioSizeBlocks.toNat =
        (offset + 1) * entry.ioSizeBlocks.toNat := by
      rw [Nat.add_mul, Nat.one_mul]
    _ ≤ entry.sizeInIos.toNat * entry.ioSizeBlocks.toNat :=
      Nat.mul_le_mul_right _ below
    _ ≤ blockCount := sizeInIos_mul_ioSizeBlocks_le registered size

end Registered

/--
Every I/O of `arbitration.cc` on an accepted namespace lies inside it: the
divisor is not zero, the offsets are the wrapped call numbers or random ones
below the number of I/Os, and neither product nor range overflows.
-/
theorem reads_lie_inside
    {setup : Setup} {ns : NvmeNs} {blockCount : Nat} {state : Loop}
    (registered : registerNs setup.arbitration ns = some setup.entry)
    (size : ns.size.toNat = blockCount * ns.sectorSize.toNat)
    (reachable : Reachable arbitration setup state) :
    1 ≤ setup.entry.sizeInIos.toNat ∧
      1 ≤ setup.entry.ioSizeBlocks.toNat ∧
      state.ctx.offsetInIos.toNat < setup.entry.sizeInIos.toNat ∧
      ∀ number issue,
        state.issued[number]? = some issue →
          (setup.arbitration.isRandom = false →
            issue.offset.toNat = number % setup.entry.sizeInIos.toNat) ∧
          issue.offset.toNat < setup.entry.sizeInIos.toNat ∧
          issue.command.operation = .read ∧
          issue.command.lbaCount = setup.entry.ioSizeBlocks ∧
          issue.offset.toNat * setup.entry.ioSizeBlocks.toNat < 2 ^ 64 ∧
          issue.command.lba.toNat =
            issue.offset.toNat * setup.entry.ioSizeBlocks.toNat ∧
          issue.command.lba.toNat + setup.entry.ioSizeBlocks.toNat ≤
            blockCount := by
  have room := sizeInIos_pos registered
  have stream := stream_of_reachable room reachable
  refine ⟨room, ioSizeBlocks_pos registered, ?_, ?_⟩
  · rw [stream.counted]
    exact position_lt room arbitration _
  · intro number issue found
    rcases stream.issue number issue found with ⟨offset, command, _⟩
    have below : issue.offset.toNat < setup.entry.sizeInIos.toNat := by
      rw [offset]
      exact offsetOf_lt room arbitration number issue.outcome
    have inside := mul_add_le_blockCount registered size below
    have noOverflow :
        issue.offset.toNat * setup.entry.ioSizeBlocks.toNat < 2 ^ 64 := by
      have bounded := blockCount_lt size
      omega
    have lba :
        issue.command.lba.toNat =
          issue.offset.toNat * setup.entry.ioSizeBlocks.toNat := by
      rw [command]
      simp only [arbitration]
      rw [UInt64.toNat_mul, UInt32.toNat_toUInt64,
        Nat.mod_eq_of_lt noOverflow]
    refine ⟨?_, below, by rw [command]; rfl, by rw [command]; rfl,
      noOverflow, lba, ?_⟩
    · intro sequential
      rw [offset, offsetOf, if_neg (by simp [isRandom, sequential])]
    · rw [lba]
      exact inside

/-- Five blocks of 512 bytes, each with 8 bytes of metadata. -/
def fiveBlocks : NvmeNs := metadataNs 2560

/-- Reads of two blocks, of which the namespace holds two. -/
def pairOfBlocks : Setup := ⟨⟨2, 1040, false, 1, 1⟩, ⟨2, 2⟩, []⟩

/-- The third read starts over, although the second one was rejected. -/
theorem third_read_starts_over :
    ∃ state issue,
      Reachable arbitration pairOfBlocks state ∧
        state.issued[2]? = some issue ∧
          issue.offset.toNat = 0 ∧ issue.command.lba.toNat + 2 ≤ 5 := by
  have replayed :
      ∃ state,
        Reachable arbitration pairOfBlocks state ∧
          state.issued.length = 3 :=
    Run.exists_of_replay _
      [.submit ⟨true, true, 0, 0, 0⟩, .submit ⟨true, true, -12, 0, 0⟩,
        .complete 0 0 ⟨true, true, 0, 0, 0⟩]
      (by decide +kernel)
  rcases replayed with ⟨state, reached, three⟩
  have third : 2 < state.issued.length := by omega
  have found := List.getElem?_eq_getElem third
  have registered :
      registerNs pairOfBlocks.arbitration fiveBlocks =
        some pairOfBlocks.entry := by
    decide
  have size :
      fiveBlocks.size.toNat = 5 * fiveBlocks.sectorSize.toNat := by
    decide
  have law :=
    (reads_lie_inside registered size reached).2.2.2 2 _ found
  exact ⟨state, _, reached, found, law.1 rfl, law.2.2.2.2.2.2⟩

end ZnsBench.Arbitration.IoAddresses

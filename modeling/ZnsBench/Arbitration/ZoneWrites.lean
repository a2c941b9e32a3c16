import ZnsBench.Arbitration.IoAddresses

/-!
# The writes of `arbitration_write.cc`

The program reads the write pointer of one zone and adds to it the offsets
made for I/O on a whole namespace.  A zone takes writes in order only, so the
offset of the `k`-th write has to be `k`: the workload must not be random,
or must draw just that, and the counter must not have wrapped.  Nothing stops
the writes at the end of the zone.
-/

namespace ZnsBench.Arbitration.ZoneWrites

open ZnsBench.Core.GuardedRun
open ZnsBench.Multipath.NamespaceRegistration
open ZnsBench.Arbitration.ContextLoop
open ZnsBench.Arbitration.IoAddresses

/-- The write that a zone demands after a number of earlier ones. -/
def OnTarget (entry : NsEntry) (zone : ZoneDesc) (number : Nat)
    (command : IoCommand) : Prop :=
  command.operation = .write ∧
    command.lbaCount = entry.ioSizeBlocks ∧
    command.lba.toNat =
      zone.wp.toNat + number * entry.ioSizeBlocks.toNat ∧
    command.lba.toNat + entry.ioSizeBlocks.toNat ≤ zone.endBlock

/-- What a sequential-write-required zone demands of all writes to it. -/
def ZoneLaw (entry : NsEntry) (zone : ZoneDesc) (issued : List Issue) :
    Prop :=
  ∀ number issue,
    issued[number]? = some issue →
      OnTarget entry zone number issue.command

/--
The calls for which the program is right: the call number is still an offset
of the namespace, or has been drawn, and the zone has room for its write.
-/
def CallInOrder (setup : Setup) (zone : ZoneDesc) (number : Nat)
    (outcome : Outcome) : Prop :=
  (if setup.arbitration.isRandom then
      outcome.draw.toNat % setup.entry.sizeInIos.toNat = number
    else
      number < setup.entry.sizeInIos.toNat) ∧
    zone.wp.toNat + (number + 1) * setup.entry.ioSizeBlocks.toNat ≤
      zone.endBlock

/-- All calls of a run go through a zone in order. -/
def InOrder (setup : Setup) (zone : ZoneDesc) (issued : List Issue) :
    Prop :=
  ∀ number issue,
    issued[number]? = some issue →
      CallInOrder setup zone number issue.outcome

/-- The offset of a call is its number in the two cases only. -/
theorem offsetOf_eq_iff
    {setup : Setup} (room : 0 < setup.entry.sizeInIos.toNat)
    (number : Nat) (outcome : Outcome) :
    offsetOf arbitrationWrite setup number outcome = number ↔
      if setup.arbitration.isRandom then
        outcome.draw.toNat % setup.entry.sizeInIos.toNat = number
      else
        number < setup.entry.sizeInIos.toNat := by
  unfold offsetOf isRandom
  simp only [arbitrationWrite, Bool.true_and]
  split
  · rfl
  · exact ⟨fun equal => equal ▸ Nat.mod_lt number room, Nat.mod_eq_of_lt⟩

/-- The address of a write, in 64-bit arithmetic. -/
theorem toNat_lba (wp offset : UInt64) (entry : NsEntry) :
    (arbitrationWrite.command entry wp offset).lba.toNat =
      (wp.toNat + offset.toNat * entry.ioSizeBlocks.toNat) % 2 ^ 64 := by
  simp only [arbitrationWrite]
  rw [UInt64.toNat_add, UInt64.toNat_mul, UInt32.toNat_toUInt64,
    Nat.add_mod_mod]

/-- A write is on target if and only if its offset is its number. -/
theorem onTarget_iff
    {entry : NsEntry} {zone : ZoneDesc} {number : Nat} {offset : UInt64}
    (blocks : 0 < entry.ioSizeBlocks.toNat)
    (inside : offset.toNat * entry.ioSizeBlocks.toNat < 2 ^ 64) :
    OnTarget entry zone number
        (arbitrationWrite.command entry zone.wp offset) ↔
      offset.toNat = number ∧
        zone.wp.toNat + (number + 1) * entry.ioSizeBlocks.toNat ≤
          zone.endBlock := by
  have below : zone.endBlock < 2 ^ 64 := zone.inside
  have bounded := zone.wp.toNat_lt
  unfold OnTarget
  rw [toNat_lba, Nat.add_mul, Nat.one_mul]
  constructor
  · rintro ⟨_, _, address, fits⟩
    -- A wrapped address would have come from a product of 2 ^ 64 or more.
    have products :
        offset.toNat * entry.ioSizeBlocks.toNat =
          number * entry.ioSizeBlocks.toNat := by
      omega
    exact ⟨Nat.eq_of_mul_eq_mul_right blocks products, by omega⟩
  · rintro ⟨rfl, fits⟩
    rw [Nat.mod_eq_of_lt (by omega)]
    exact ⟨rfl, rfl, rfl, by omega⟩

/--
In every run on an accepted namespace the writes are the ones the zone wants
if and only if every call is in order.
-/
theorem zoneLaw_iff
    {setup : Setup} {ns : NvmeNs} {zone : ZoneDesc} {state : Loop}
    (registered : registerNs setup.arbitration ns = some setup.entry)
    (reported : setup.report[currentZone]? = some zone)
    (reachable : Reachable arbitrationWrite setup state) :
    ZoneLaw setup.entry zone state.issued ↔
      InOrder setup zone state.issued := by
  have room := sizeInIos_pos registered
  have blocks := ioSizeBlocks_pos registered
  have stream := stream_of_reachable room reachable
  have pointer : arbitrationWrite.writePointer setup.report = zone.wp := by
    simp [arbitrationWrite, reported]
  have each :
      ∀ number issue,
        state.issued[number]? = some issue →
          (OnTarget setup.entry zone number issue.command ↔
            CallInOrder setup zone number issue.outcome) := by
    intro number issue found
    rcases stream.issue number issue found with ⟨offset, command, _⟩
    have inside :
        issue.offset.toNat * setup.entry.ioSizeBlocks.toNat < 2 ^ 64 := by
      refine
        lt_of_le_of_lt (Nat.mul_le_mul_right _ ?_)
          (sizeInIos_mul_ioSizeBlocks_lt registered)
      rw [offset]
      exact (offsetOf_lt room arbitrationWrite number issue.outcome).le
    rw [command, pointer, onTarget_iff blocks inside, offset,
      offsetOf_eq_iff room]
    rfl
  constructor
  · intro law number issue found
    exact (each number issue found).mp (law number issue found)
  · intro order number issue found
    exact (each number issue found).mpr (order number issue found)

/-- A zone of 16 blocks whose last block is still to be written. -/
def nearlyFull : ZoneDesc := ⟨96, 16, 111, by decide⟩

/-- Eight zones of 16 blocks of 512 bytes. -/
def eightZones : NvmeNs := plainNs 65536

/-- Writes of one block, two in flight. -/
def zoneWriter (random : Bool) : Setup where
  arbitration := ⟨2, 512, random, 1, 1⟩
  entry := ⟨1, 128⟩
  report :=
    [⟨0, 16, 16, by decide⟩, ⟨16, 16, 32, by decide⟩,
      ⟨32, 16, 48, by decide⟩, ⟨48, 16, 64, by decide⟩,
      ⟨64, 16, 80, by decide⟩, ⟨80, 16, 96, by decide⟩,
      nearlyFull, ⟨112, 16, 112, by decide⟩]

/-- The first write of a sequential workload fills the zone. -/
theorem first_write_fills_zone :
    ∃ state,
      Reachable arbitrationWrite (zoneWriter false) state ∧
        state.issued.length = 1 ∧
          ZoneLaw (zoneWriter false).entry nearlyFull state.issued := by
  have replayed :
      ∃ state,
        Reachable arbitrationWrite (zoneWriter false) state ∧
          state.issued.length = 1 :=
    Run.exists_of_replay _ [.submit ⟨true, true, 0, 0, 0⟩]
      (by decide +kernel)
  rcases replayed with ⟨state, reached, one⟩
  have registered :
      registerNs (zoneWriter false).arbitration eightZones =
        some (zoneWriter false).entry := by
    decide
  have order : InOrder (zoneWriter false) nearlyFull state.issued := by
    intro number issue found
    have only := (List.getElem?_eq_some_iff.mp found).1
    have zero : number = 0 := by omega
    subst number
    exact ⟨by simp [zoneWriter], by decide⟩
  exact
    ⟨state, reached, one,
      (zoneLaw_iff registered rfl reached).mpr order⟩

/--
A random workload writes elsewhere at once, and a sequential one passes the
end of the zone with its second write.
-/
theorem writes_leave_zone :
    nearlyFull.wp.toNat < nearlyFull.endBlock ∧
    (∃ state,
      Reachable arbitrationWrite (zoneWriter true) state ∧
        ¬ ZoneLaw (zoneWriter true).entry nearlyFull state.issued) ∧
      ∃ state,
        Reachable arbitrationWrite (zoneWriter false) state ∧
          ¬ ZoneLaw (zoneWriter false).entry nearlyFull
            state.issued := by
  refine ⟨by decide, ?_, ?_⟩
  · have replayed :
        ∃ state,
          Reachable arbitrationWrite (zoneWriter true) state ∧
            state.issued.map Issue.command = [⟨.write, 116, 1⟩] :=
      Run.exists_of_replay _ [.submit ⟨true, true, 0, 5, 0⟩]
        (by decide +kernel)
    rcases replayed with ⟨state, reached, commands⟩
    refine ⟨state, reached, ?_⟩
    intro law
    rcases List.map_eq_singleton_iff.mp commands with
      ⟨issue, issued, command⟩
    have target := law 0 issue (by rw [issued]; rfl)
    rw [command] at target
    exact absurd target.2.2.1 (by decide)
  · have replayed :
        ∃ state,
          Reachable arbitrationWrite (zoneWriter false) state ∧
            (state.issued.map Issue.command)[1]? =
              some ⟨.write, 112, 1⟩ :=
      Run.exists_of_replay _
        [.submit ⟨true, true, 0, 0, 0⟩, .submit ⟨true, true, 0, 0, 0⟩]
        (by decide +kernel)
    rcases replayed with ⟨state, reached, second⟩
    refine ⟨state, reached, ?_⟩
    intro law
    rw [List.getElem?_map] at second
    rcases Option.map_eq_some_iff.mp second with ⟨issue, found, command⟩
    have target := law 1 issue found
    rw [command] at target
    exact absurd target.2.2.2 (by decide)

end ZnsBench.Arbitration.ZoneWrites

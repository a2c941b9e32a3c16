import ZnsBench.ZoneTest.ReadWriteTest
import Mathlib.Logic.Function.Basic

/-!
# The test on a zoned device

The read/write test together with a device that holds its blocks.  The device
executes the commands in flight in any order and hands their answers back in
any order.  A reset rewinds the zone, an append writes the block at the write
pointer and advances it, a read returns what was last written, unless the
device has damaged the block.

What is in the zones before the test is arbitrary.  A zone that is full turns
down appends; the test is run on zones with room for 256 blocks.
-/

namespace ZnsBench.ZoneTest.ZonedDevice

open ZnsBench.Core.GuardedRun
open ZnsBench.ZoneTest.ReadWriteTest

/-! ## Device -/

/-- The device under test and the damage it does to its blocks. -/
structure Setup where
  bdev : Bdev
  /-- Blocks that a zone takes. -/
  capacity : Nat
  damage : UInt64 → List UInt8 → List UInt8

/-- The answer to an executed command. -/
structure Answer where
  command : Command
  success : Bool
  data : List UInt8
  deriving DecidableEq, Repr

/-- A zoned device that answers the commands of the test. -/
structure Device where
  /-- Blocks between the first block of a zone and its write pointer. -/
  written : UInt64 → Nat
  media : UInt64 → List UInt8
  /-- Answers that have not been handed back. -/
  ready : List Answer
  /-- The blocks that appends have written, in order. -/
  landed : List UInt64

/-- An answered command that the test still waits for. -/
def Device.answered (device : Device) (command : Command) : Nat :=
  device.ready.countP fun answer => answer.command = command

/-- A command is answered. -/
def answer (command : Command) (success : Bool) (data : List UInt8)
    (device : Device) : Device :=
  { device with ready := device.ready ++ [⟨command, success, data⟩] }

/-- An answer leaves the device. -/
def Device.handBack (given : Answer) (device : Device) : Device :=
  { device with ready := device.ready.erase given }

/-- The block at the write pointer of a zone. -/
def Device.writePointer (device : Device) (slba : UInt64) : UInt64 :=
  slba + UInt64.ofNat (device.written slba)

/-- The device takes the data of an append from the test's buffer. -/
def execute (setup : Setup) (writeBuff : List UInt8) (device : Device) :
    Command → Device
  | .reset slba =>
      answer (.reset slba) true []
        { device with
          written := Function.update device.written slba 0 }
  | .append slba =>
      if device.written slba < setup.capacity then
        answer (.append slba) true []
          { device with
            written :=
              Function.update device.written slba
                (device.written slba + 1)
            media :=
              Function.update device.media (device.writePointer slba)
                (writeBuff.take setup.bdev.blockSize.toNat)
            landed := device.landed ++ [device.writePointer slba] }
      else
        answer (.append slba) false [] device
  | .read lba =>
      answer (.read lba) true (setup.damage lba (device.media lba)) device

/-! ## The test on the device -/

/-- The test on a device. -/
structure Rig where
  test : RwTest
  device : Device

/-- What can happen next. -/
inductive Event where
  | start
  /-- The device executes a command in flight. -/
  | execute (command : Command)
  /-- The bdev layer hands an answer to the test. -/
  | deliver (answer : Answer)
  deriving DecidableEq, Repr

/-- The callback for an answer; every submission it makes is accepted. -/
def Answer.event (answer : Answer) : ReadWriteTest.Event :=
  match answer.command with
  | .reset slba => .resetDone slba answer.success []
  | .append slba => .appendDone slba answer.success 0
  | .read lba => .readDone lba answer.success answer.data 0

/-- The transitions of the test and of its device. -/
def step (setup : Setup) (rig : Rig) : Event → Option Rig
  | .start =>
      (ReadWriteTest.step setup.bdev rig.test (.start .ready [])).map
        fun test => { rig with test := test }
  | .execute command =>
      if rig.device.answered command <
          rig.test.inFlight.count command then
        some
          { rig with
            device :=
              execute setup rig.test.writeBuff rig.device command }
      else
        none
  | .deliver answer =>
      if answer ∈ rig.device.ready then
        (ReadWriteTest.step setup.bdev rig.test answer.event).map
          fun test =>
            { test := test
              device := rig.device.handBack answer }
      else
        none

/-- What one step can do. -/
theorem step_cases
    {setup : Setup} {rig next : Rig} {event : Event}
    (taken : step setup rig event = some next) :
    (∃ test,
      event = .start ∧
        ReadWriteTest.step setup.bdev rig.test (.start .ready []) =
            some test ∧
          next = { rig with test := test }) ∨
      (∃ command,
        event = .execute command ∧
          rig.device.answered command < rig.test.inFlight.count command ∧
            next =
              { rig with
                device :=
                  execute setup rig.test.writeBuff rig.device command }) ∨
        (∃ given test,
          event = .deliver given ∧
            given ∈ rig.device.ready ∧
              ReadWriteTest.step setup.bdev rig.test given.event =
                  some test ∧
                next = ⟨test, rig.device.handBack given⟩) := by
  cases event with
  | start =>
      rcases Option.map_eq_some_iff.mp taken with ⟨test, stepped, rfl⟩
      exact Or.inl ⟨test, rfl, stepped, rfl⟩
  | execute command =>
      simp only [step] at taken
      split at taken
      · rename_i waiting
        cases taken
        exact Or.inr (Or.inl ⟨command, rfl, waiting, rfl⟩)
      · cases taken
  | deliver given =>
      simp only [step] at taken
      split at taken
      · rename_i member
        rcases Option.map_eq_some_iff.mp taken with ⟨test, stepped, rfl⟩
        exact Or.inr (Or.inr ⟨given, test, rfl, member, stepped, rfl⟩)
      · cases taken

/-- The test before its start, on a device with any content. -/
def initial (setup : Setup) (written : UInt64 → Nat)
    (media : UInt64 → List UInt8) : Rig where
  test := ReadWriteTest.initial setup.bdev
  device := ⟨written, media, [], []⟩

/-- Runs with the number of their events. -/
def Reachable (setup : Setup) (written : UInt64 → Nat)
    (media : UInt64 → List UInt8) (rig : Rig) (events : Nat) : Prop :=
  Run (recorded (step setup) fun _ _ before => before + 1)
    (fun pair event => Unrestricted pair.1 event)
    (initial setup written media, 0) (rig, events)

/-! ## Assumptions -/

/--
Write unit one, ten zones of at least 256 blocks that fit into the address
space, and reads that return whole blocks.
-/
structure Suitable (setup : Setup) : Prop where
  writeUnit : setup.bdev.writeUnitSize = 1
  zoneSize : 256 ≤ setup.bdev.zoneSize.toNat
  noWrap : 10 * setup.bdev.zoneSize.toNat < 2 ^ 64
  capacity : 256 ≤ setup.capacity
  wholeBlocks :
    ∀ lba block,
      block.length = setup.bdev.blockSize.toNat →
        (setup.damage lba block).length = setup.bdev.blockSize.toNat

namespace Suitable

variable {setup : Setup} (suitable : Suitable setup)

include suitable

theorem tenZones : TenZones setup.bdev :=
  ⟨lt_of_lt_of_le (by decide) suitable.zoneSize, suitable.noWrap⟩

@[simp]
theorem buffSize_eq :
    setup.bdev.buffSize = setup.bdev.blockSize.toNat := by
  rw [Bdev.buffSize, suitable.writeUnit, UInt32.mul_one]

end Suitable

/-! ## The blocks of the test -/

/-- A block of a zone. -/
def blockAt (bdev : Bdev) (zone index : Nat) : UInt64 :=
  zoneStart bdev zone + UInt64.ofNat index

/-- The block for a value of the counter of the reads. -/
def blockLba (bdev : Bdev) (count : Nat) : UInt64 :=
  blockAt bdev (count / 256) (count % 256)

theorem ofInt_natCast {number : Nat} (small : number < 2 ^ 64) :
    UInt64.ofInt (number : Int) = UInt64.ofNat number := by
  have same : (number : Int) % 2 ^ 64 = (number : Int) :=
    Int.emod_eq_of_lt (by omega) (by omega)
  rw [UInt64.ofInt, same]
  rfl

/-- The address that the test computes is that of the block. -/
theorem readLba_ofNat (bdev : Bdev) {count : Nat} (inside : count < 1024) :
    readLba bdev (Int32.ofNat count) = blockLba bdev count := by
  have number : (Int32.ofNat count).toInt = (count : Int) :=
    Int32.toInt_ofNat_of_lt (by omega)
  have factor : (0x100 : Int32).toInt = 256 := by decide
  have zone :
      (Int32.ofNat count / 0x100).toInt = ((count / 256 : Nat) : Int) := by
    rw [Int32.toInt_div, number, factor,
      Int.tdiv_eq_ediv_of_nonneg (by omega), Int.bmod_eq_of_le] <;>
      omega
  have index :
      (Int32.ofNat count % 0x100).toInt = ((count % 256 : Nat) : Int) := by
    rw [Int32.toInt_mod, number, factor,
      Int.tmod_eq_emod_of_nonneg (by omega)]
    rfl
  rw [readLba, zone, index, ofInt_natCast (by omega),
    ofInt_natCast (by omega)]
  rfl

/-- What the test writes into every block. -/
def block (bdev : Bdev) : List UInt8 :=
  List.replicate bdev.blockSize.toNat 0x12

namespace Suitable

variable {setup : Setup} (suitable : Suitable setup)

include suitable

theorem toNat_blockAt
    {zone index : Nat} (inside : zone < 10) (low : index < 256) :
    (blockAt setup.bdev zone index).toNat =
      zone * setup.bdev.zoneSize.toNat + index := by
  have start := suitable.tenZones.toNat_zoneStart inside.le
  have size := suitable.zoneSize
  have noWrap := suitable.noWrap
  have bound :
      (zone + 1) * setup.bdev.zoneSize.toNat ≤
        10 * setup.bdev.zoneSize.toNat :=
    Nat.mul_le_mul_right _ inside
  rw [Nat.succ_mul] at bound
  rw [blockAt, UInt64.toNat_add, start, UInt64.toNat_ofNat',
    Nat.mod_eq_of_lt (by omega : index < 2 ^ 64), Nat.mod_eq_of_lt]
  omega

/-- Different blocks of the test have different addresses. -/
theorem blockAt_inj
    {zone index other position : Nat}
    (inside : zone < 10) (low : index < 256)
    (within : other < 10) (small : position < 256)
    (equal :
      blockAt setup.bdev zone index = blockAt setup.bdev other position) :
    zone = other ∧ index = position := by
  have size := suitable.zoneSize
  have numbers := congrArg UInt64.toNat equal
  rw [suitable.toNat_blockAt inside low,
    suitable.toNat_blockAt within small] at numbers
  have zones : zone = other := by
    have quotients := congrArg (· / setup.bdev.zoneSize.toNat) numbers
    rwa [Nat.mul_comm, Nat.mul_comm other, Nat.mul_add_div (by omega),
      Nat.mul_add_div (by omega), Nat.div_eq_of_lt (by omega),
      Nat.div_eq_of_lt (by omega), Nat.add_zero, Nat.add_zero]
      at quotients
  subst other
  exact ⟨rfl, by omega⟩

theorem blockLba_inj
    {count other : Nat} (inside : count < 1024) (within : other < 1024)
    (equal : blockLba setup.bdev count = blockLba setup.bdev other) :
    count = other := by
  have parts :=
    suitable.blockAt_inj (by omega) (Nat.mod_lt _ (by decide)) (by omega)
      (Nat.mod_lt _ (by decide)) equal
  omega

end Suitable

/-! ## What the test read and how it ended -/

/-- The block that a call reads, if it is an accepted read. -/
def readOf : Call → Option UInt64
  | .submit (.read lba) rc => if rc = 0 then some lba else none
  | _ => none

/-- The blocks of the accepted reads, in order. -/
def readLbas (calls : List Call) : List UInt64 := calls.filterMap readOf

/-- The code that a call stops the test with. -/
def stopOf : Call → Option Int
  | .appStop rc => some rc
  | _ => none

/-- The arguments of `spdk_app_stop`, in order. -/
def stops (calls : List Call) : List Int := calls.filterMap stopOf

@[simp]
theorem readLbas_append (calls more : List Call) :
    readLbas (calls ++ more) = readLbas calls ++ readLbas more :=
  List.filterMap_append

@[simp]
theorem stops_append (calls more : List Call) :
    stops (calls ++ more) = stops calls ++ stops more :=
  List.filterMap_append

/-- A call that is neither an accepted read nor a stop. -/
structure Silent (calls : List Call) : Prop where
  reads : readLbas calls = []
  stops : stops calls = []

theorem silent_of_forall
    {calls : List Call}
    (each : ∀ call ∈ calls, readOf call = none ∧ stopOf call = none) :
    Silent calls where
  reads := List.filterMap_eq_nil_iff.mpr fun call member =>
    (each call member).1
  stops := List.filterMap_eq_nil_iff.mpr fun call member =>
    (each call member).2

theorem Silent.append
    {calls more : List Call} (silent : Silent calls) (others : Silent more) :
    Silent (calls ++ more) where
  reads := by rw [readLbas_append, silent.reads, others.reads]; rfl
  stops := by rw [stops_append, silent.stops, others.stops]; rfl

/-! ## Answers that wait -/

/-- Every answer belongs to a command in flight, and no two to the same. -/
def Bounded (rig : Rig) : Prop :=
  ∀ command,
    rig.device.answered command ≤ rig.test.inFlight.count command

theorem answered_pos
    {device : Device} {given : Answer} (member : given ∈ device.ready) :
    0 < device.answered given.command :=
  List.countP_pos_iff.mpr ⟨given, member, by simp⟩

theorem Bounded.mem_inFlight
    {rig : Rig} (bounded : Bounded rig) {given : Answer}
    (member : given ∈ rig.device.ready) :
    given.command ∈ rig.test.inFlight := by
  have positive := answered_pos member
  have less := bounded given.command
  exact List.count_pos_iff.mp (by omega)

theorem Bounded.ready_eq_nil
    {rig : Rig} (bounded : Bounded rig)
    (landed : rig.test.inFlight = []) :
    rig.device.ready = [] := by
  rw [List.eq_nil_iff_forall_not_mem]
  intro given member
  have flying := bounded.mem_inFlight member
  rw [landed] at flying
  cases flying

/-- There are no more answers than commands in flight. -/
theorem Bounded.length_le {rig : Rig} (bounded : Bounded rig) :
    rig.device.ready.length ≤ rig.test.inFlight.length := by
  have contained :
      (rig.device.ready.map Answer.command).Subperm rig.test.inFlight := by
    rw [List.subperm_iff_count]
    intro command
    rw [List.count_eq_countP, List.countP_map]
    exact bounded command
  simpa using contained.length_le

@[simp]
theorem answered_answer
    (device : Device) (given command : Command) (success : Bool)
    (data : List UInt8) :
    (answer given success data device).answered command =
      device.answered command + if given = command then 1 else 0 := by
  simp [answer, Device.answered, List.countP_append,
    List.countP_singleton]

theorem answered_handBack
    {device : Device} {given : Answer} (member : given ∈ device.ready)
    (command : Command) :
    (device.handBack given).answered command +
        (if given.command = command then 1 else 0) =
      device.answered command := by
  have split :=
    (List.perm_cons_erase member).countP_eq
      fun answer => answer.command = command
  rw [List.countP_cons] at split
  rw [Device.answered, Device.answered, split]
  simp [Device.handBack]

theorem count_erase
    {flight : List Command} {given : Command} (member : given ∈ flight)
    (command : Command) :
    (flight.erase given).count command +
        (if given = command then 1 else 0) =
      flight.count command := by
  have split := (List.perm_cons_erase member).count_eq command
  rw [List.count_cons] at split
  rw [split]
  simp

theorem length_ready_handBack
    {device : Device} {given : Answer} (member : given ∈ device.ready) :
    (device.handBack given).ready.length + 1 = device.ready.length :=
  List.length_erase_add_one member

/-- Handing an answer back takes the command out of flight as well. -/
theorem Bounded.deliver
    {rig : Rig} (bounded : Bounded rig) {given : Answer}
    (member : given ∈ rig.device.ready) (command : Command) :
    (rig.device.handBack given).answered command ≤
      (rig.test.inFlight.erase given.command).count command := by
  have answers := answered_handBack member command
  have commands := count_erase (bounded.mem_inFlight member) command
  have less := bounded command
  omega

end ZnsBench.ZoneTest.ZonedDevice

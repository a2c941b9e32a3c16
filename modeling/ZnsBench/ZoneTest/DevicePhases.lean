import ZnsBench.ZoneTest.ZonedDevice

/-!
# The phases of the test on a zoned device

On a suitable device the test passes through its three phases once.  The laws
of each phase say how far every zone has come: what is in flight, what the
device has executed of it, and what is on the media.  The number of events so
far is determined by the same quantities.

The appends of a zone land in its first 256 blocks, in whatever order the
device executes them.
-/

namespace ZnsBench.ZoneTest.DevicePhases

open ZnsBench.Core.CommandCounter
open ZnsBench.ZoneTest.ReadWriteTest hiding Event initial step Reachable
open ZnsBench.ZoneTest.ZonedDevice

/-! ## The phases -/

/-- The device returns something else than the test has written. -/
def Damaged (setup : Setup) (count : Nat) : Prop :=
  setup.damage (blockLba setup.bdev count) (block setup.bdev) ≠
    block setup.bdev

/-- What holds while resets or appends are in flight. -/
structure Flying (rig : Rig) : Prop where
  started : rig.test.calls ≠ []
  silent : Silent rig.test.calls
  bounded : Bounded rig
  succeeded : ∀ given ∈ rig.device.ready, given.success = true
  positive : 0 < rig.test.inFlight.length
  few : rig.test.inFlight.length ≤ 1024
  count : rig.test.count = Int32.ofNat rig.test.inFlight.length

/-- A zone is rewound once its reset has been executed. -/
structure ResetPhase (setup : Setup) (rig : Rig) (events : Nat) :
    Prop where
  flying : Flying rig
  flight :
    ∀ command ∈ rig.test.inFlight,
      ∃ zone < 10, command = .reset (zoneStart setup.bdev zone)
  rewound :
    ∀ zone < 10,
      rig.device.answered (.reset (zoneStart setup.bdev zone)) <
          rig.test.inFlight.count (.reset (zoneStart setup.bdev zone)) ∨
        rig.device.written (zoneStart setup.bdev zone) = 0
  landed : rig.device.landed = []
  events :
    events + 2 * rig.test.inFlight.length =
      21 + rig.device.ready.length

/-- A zone holds as many blocks as appends were executed on it. -/
structure WritePhase (setup : Setup) (rig : Rig) (events : Nat) :
    Prop where
  flying : Flying rig
  flight :
    ∀ command ∈ rig.test.inFlight,
      ∃ zone < 4, command = .append (zoneStart setup.bdev zone)
  writeBuff : rig.test.writeBuff = block setup.bdev
  progress :
    ∀ zone < 4,
      rig.device.written (zoneStart setup.bdev zone) +
          rig.test.inFlight.count (.append (zoneStart setup.bdev zone)) =
        256 +
          rig.device.answered (.append (zoneStart setup.bdev zone))
  media :
    ∀ zone < 4,
      ∀ index < rig.device.written (zoneStart setup.bdev zone),
        rig.device.media (blockAt setup.bdev zone index) =
          block setup.bdev
  landed :
    ∀ lba,
      lba ∈ rig.device.landed ↔
        ∃ zone < 4,
          ∃ index < rig.device.written (zoneStart setup.bdev zone),
            lba = blockAt setup.bdev zone index
  events :
    events + 2 * rig.test.inFlight.length =
      2069 + rig.device.ready.length

/-- Every block of the test has been written, and no other. -/
structure Written (setup : Setup) (device : Device) : Prop where
  media :
    ∀ count < 1024,
      device.media (blockLba setup.bdev count) = block setup.bdev
  landed :
    ∀ lba,
      lba ∈ device.landed ↔ ∃ count < 1024, lba = blockLba setup.bdev count

/-- The answer to the read of an undamaged or damaged block. -/
def readAnswer (setup : Setup) (count : Nat) : Answer where
  command := .read (blockLba setup.bdev count)
  success := true
  data := setup.damage (blockLba setup.bdev count) (block setup.bdev)

/-- The block for `count` is being read; those before were in order. -/
structure ReadPhase (setup : Setup) (count : Nat) (rig : Rig)
    (events : Nat) : Prop where
  started : rig.test.calls ≠ []
  inside : count < 1024
  counter : rig.test.count = Int32.ofNat count
  flight : rig.test.inFlight = [.read (blockLba setup.bdev count)]
  ready :
    rig.device.ready = [] ∨ rig.device.ready = [readAnswer setup count]
  writeBuff : rig.test.writeBuff = block setup.bdev
  readBuff : rig.test.readBuff.length = setup.bdev.blockSize.toNat
  written : Written setup rig.device
  reads :
    readLbas rig.test.calls =
      (List.range (count + 1)).map (blockLba setup.bdev)
  stops : stops rig.test.calls = []
  undamaged : ∀ earlier < count, ¬ Damaged setup earlier
  events : events = 2069 + 2 * count + rig.device.ready.length

/-- The read of the block for `last` has ended the test. -/
structure Ended (setup : Setup) (last : Nat) (rig : Rig) (events : Nat) :
    Prop where
  started : rig.test.calls ≠ []
  inside : last < 1024
  flight : rig.test.inFlight = []
  ready : rig.device.ready = []
  written : Written setup rig.device
  reads :
    readLbas rig.test.calls =
      (List.range (last + 1)).map (blockLba setup.bdev)
  undamaged : ∀ earlier < last, ¬ Damaged setup earlier
  verdict :
    (Damaged setup last ∧ stops rig.test.calls = [-1]) ∨
      (¬ Damaged setup last ∧ last = 1023 ∧ stops rig.test.calls = [0])
  events : events ≤ 4117

/-- The test and the device are in one of the phases of a run. -/
inductive InPhase (setup : Setup) (rig : Rig) (events : Nat) : Prop where
  | unstarted
      (test : rig.test = ReadWriteTest.initial setup.bdev)
      (ready : rig.device.ready = []) (landed : rig.device.landed = [])
      (none : events = 0)
  | resetting (phase : ResetPhase setup rig events)
  | writing (phase : WritePhase setup rig events)
  | reading (count : Nat) (phase : ReadPhase setup count rig events)
  | ended (last : Nat) (phase : Ended setup last rig events)

/-! ## Steps while commands are in flight -/

/-- A command that waits for its answer is in flight. -/
theorem mem_inFlight_of_waiting
    {rig : Rig} {command : Command}
    (waiting :
      rig.device.answered command < rig.test.inFlight.count command) :
    command ∈ rig.test.inFlight :=
  List.count_pos_iff.mp (by omega)

theorem Flying.execute
    {rig : Rig} (flying : Flying rig) {command : Command}
    (waiting :
      rig.device.answered command < rig.test.inFlight.count command)
    {device : Device} {data : List UInt8}
    (ready :
      device.ready = rig.device.ready ++ [⟨command, true, data⟩]) :
    Flying { rig with device := device } := by
  refine
    ⟨flying.started, flying.silent, ?_, ?_, flying.positive, flying.few,
      flying.count⟩
  · intro other
    have less := flying.bounded other
    change device.answered other ≤ rig.test.inFlight.count other
    have more :
        device.answered other =
          rig.device.answered other +
            if command = other then 1 else 0 := by
      simp [Device.answered, ready, List.countP_append,
        List.countP_singleton]
    rw [more]
    split
    · rename_i same
      subst other
      omega
    · omega
  · intro given member
    change given ∈ device.ready at member
    rw [ready] at member
    rcases List.mem_append.mp member with old | new
    · exact flying.succeeded given old
    · rw [List.mem_singleton.mp new]

/-- The test after an answer, which the counter no longer counts. -/
def counted (rig : Rig) (command : Command) : RwTest :=
  { settle command true rig.test with
    count := Int32.ofNat (rig.test.inFlight.erase command).length }

theorem inFlight_counted (rig : Rig) (command : Command) :
    (counted rig command).inFlight = rig.test.inFlight.erase command :=
  rfl

theorem length_counted
    {rig : Rig} {command : Command}
    (member : command ∈ rig.test.inFlight) :
    (counted rig command).inFlight.length + 1 =
      rig.test.inFlight.length :=
  List.length_erase_add_one member

/-- The counter before an answer is one more than what is left in flight. -/
theorem Flying.counter
    {rig : Rig} (flying : Flying rig) {command : Command}
    (member : command ∈ rig.test.inFlight) :
    (settle command true rig.test).count =
      Int32.ofNat ((counted rig command).inFlight.length + 1) := by
  rw [length_counted member]
  exact flying.count

theorem Flying.small
    {rig : Rig} (flying : Flying rig) (command : Command) :
    (counted rig command).inFlight.length < 2 ^ 31 := by
  have fewer : (counted rig command).inFlight.length ≤ _ :=
    List.length_erase_le
  have few := flying.few
  omega

/-- An answer that is not the last one of its phase. -/
theorem Flying.deliver
    {rig : Rig} (flying : Flying rig) {given : Answer}
    (member : given ∈ rig.device.ready)
    (more : (counted rig given.command).inFlight.length ≠ 0) :
    Flying
      ⟨counted rig given.command, rig.device.handBack given⟩ := by
  have shorter :=
    length_counted (flying.bounded.mem_inFlight member)
  have few := flying.few
  refine ⟨flying.started, flying.silent, ?_, ?_, ?_, ?_, rfl⟩
  · intro other
    exact flying.bounded.deliver member other
  · intro other present
    exact flying.succeeded other (List.mem_of_mem_erase present)
  · exact Nat.pos_of_ne_zero more
  · dsimp only
    omega

/-- After the last answer of a phase nothing waits in the device. -/
theorem Flying.last
    {rig : Rig} (flying : Flying rig) {given : Answer}
    (member : given ∈ rig.device.ready)
    (last : (counted rig given.command).inFlight.length = 0) :
    (counted rig given.command).inFlight = [] ∧
      (rig.device.handBack given).ready = [] ∧
        rig.test.inFlight.length = 1 ∧ rig.device.ready.length = 1 := by
  have shorter :=
    length_counted (flying.bounded.mem_inFlight member)
  have fewer := length_ready_handBack member
  have landed := List.length_eq_zero_iff.mp last
  have bounded :
      Bounded
        ⟨counted rig given.command,
          rig.device.handBack given⟩ :=
    flying.bounded.deliver member
  have empty := bounded.ready_eq_nil landed
  refine ⟨landed, empty, by omega, ?_⟩
  change (rig.device.handBack given).ready = [] at empty
  rw [empty, List.length_nil] at fewer
  omega

/-! ## Reset phase -/

variable {setup : Setup}

theorem resetPhase_start
    (suitable : Suitable setup) {rig : Rig}
    (test : rig.test = ReadWriteTest.initial setup.bdev)
    (ready : rig.device.ready = []) (landed : rig.device.landed = []) :
    ResetPhase setup
      { rig with test := resetZone setup.bdev [] rig.test } 1 := by
  rw [suitable.tenZones.resetZone_accepted, test]
  have none : ∀ command, rig.device.answered command = 0 := by
    intro command
    rw [Device.answered, ready]
    rfl
  refine ⟨⟨?_, ?_, ?_, ?_, ?_, ?_, rfl⟩, ?_, ?_, landed, ?_⟩
  · simp
  · apply silent_of_forall
    intro call member
    rcases List.mem_cons.mp member with rfl | submitted
    · exact ⟨rfl, rfl⟩
    · rcases List.mem_map.mp submitted with ⟨slba, _, rfl⟩
      exact ⟨rfl, rfl⟩
  · intro command
    change rig.device.answered command ≤ _
    rw [none]
    exact Nat.zero_le _
  · intro given member
    change given ∈ rig.device.ready at member
    rw [ready] at member
    cases member
  · simp [ReadWriteTest.initial]
  · simp [ReadWriteTest.initial]
  · intro command member
    rcases List.mem_map.mp member with ⟨slba, target, rfl⟩
    rcases List.mem_map.mp target with ⟨zone, inside, rfl⟩
    exact ⟨zone, List.mem_range.mp inside, rfl⟩
  · intro zone inside
    left
    change rig.device.answered _ < _
    rw [none]
    apply List.count_pos_iff.mpr
    exact
      List.mem_map_of_mem
        (List.mem_map_of_mem (List.mem_range.mpr inside))
  · dsimp only
    rw [ready]
    rfl

theorem ResetPhase.execute
    {rig : Rig} {events : Nat} (phase : ResetPhase setup rig events)
    {command : Command}
    (waiting :
      rig.device.answered command < rig.test.inFlight.count command) :
    ResetPhase setup
      { rig with
        device := execute setup rig.test.writeBuff rig.device command }
      (events + 1) := by
  rcases phase.flight command (mem_inFlight_of_waiting waiting) with
    ⟨zone, inside, rfl⟩
  have count := phase.events
  refine
    ⟨phase.flying.execute waiting rfl, phase.flight, ?_, phase.landed, ?_⟩
  · intro other within
    by_cases same :
        zoneStart setup.bdev other = zoneStart setup.bdev zone
    · right
      simp [ZonedDevice.execute, answer, same]
    · rcases phase.rewound other within with waits | zero
      · left
        have different :
            ¬ zoneStart setup.bdev zone = zoneStart setup.bdev other :=
          fun equal => same equal.symm
        simpa [ZonedDevice.execute, answer, Device.answered,
          List.countP_append, different] using waits
      · right
        simpa [ZonedDevice.execute, answer, same] using zero
  · simp only [ZonedDevice.execute, answer, List.length_append,
      List.length_singleton]
    omega

/-- The callback that a reset in flight leads to. -/
theorem step_resetDone
    {rig : Rig} (flying : Flying rig) {given : Answer}
    (member : given ∈ rig.device.ready) {slba : UInt64}
    (command : given.command = .reset slba) {test : RwTest}
    (stepped :
      ReadWriteTest.step setup.bdev rig.test given.event = some test) :
    test =
      if (counted rig given.command).inFlight.length = 0 then
        writeZone setup.bdev [] (counted rig given.command)
      else
        counted rig given.command := by
  have present := flying.bounded.mem_inFlight member
  rw [Answer.event, command, flying.succeeded given member] at stepped
  rw [command] at present ⊢
  simp only [ReadWriteTest.step, if_pos present] at stepped
  rw [resetZoneComplete_eq (flying.small _) (flying.counter present)]
    at stepped
  exact (Option.some.inj stepped).symm

/-- An answered reset whose phase goes on. -/
theorem ResetPhase.deliver
    {rig : Rig} {events : Nat} (phase : ResetPhase setup rig events)
    {given : Answer} (member : given ∈ rig.device.ready)
    (more : (counted rig given.command).inFlight.length ≠ 0) :
    ResetPhase setup
      ⟨counted rig given.command, rig.device.handBack given⟩
      (events + 1) := by
  have present := phase.flying.bounded.mem_inFlight member
  have shorter := length_counted present
  have fewer := length_ready_handBack member
  have count := phase.events
  refine ⟨phase.flying.deliver member more, ?_, ?_, phase.landed, ?_⟩
  · intro command inside
    exact phase.flight command (List.mem_of_mem_erase inside)
  · intro zone inside
    rcases phase.rewound zone inside with waits | zero
    · left
      have answers :=
        answered_handBack member
          (.reset (zoneStart setup.bdev zone))
      have commands :=
        count_erase present (.reset (zoneStart setup.bdev zone))
      dsimp only
      rw [inFlight_counted]
      omega
    · exact Or.inr zero
  · dsimp only
    omega

/-- Nothing of a rewound zone is missing when no reset is in flight. -/
theorem ResetPhase.written_eq_zero
    {rig : Rig} {events : Nat} (phase : ResetPhase setup rig events)
    {given : Answer} (member : given ∈ rig.device.ready)
    (last : (counted rig given.command).inFlight.length = 0)
    {zone : Nat} (inside : zone < 10) :
    rig.device.written (zoneStart setup.bdev zone) = 0 := by
  rcases phase.rewound zone inside with waits | zero
  · rcases phase.flying.last member last with ⟨landed, empty, _, _⟩
    have answers :=
      answered_handBack member (.reset (zoneStart setup.bdev zone))
    have commands :=
      count_erase (phase.flying.bounded.mem_inFlight member)
        (.reset (zoneStart setup.bdev zone))
    rw [inFlight_counted] at landed
    rw [landed, List.count_nil] at commands
    omega
  · exact zero

/-! ## Write phase -/

theorem count_appendTargets
    (suitable : Suitable setup) {zone : Nat} (inside : zone < 4) :
    ((appendTargets setup.bdev).map Command.append).count
        (.append (zoneStart setup.bdev zone)) =
      256 := by
  have injective : Function.Injective Command.append := by
    intro slba other equal
    cases equal
    rfl
  have shares :
      ∀ other ∈ List.range 4,
        (List.replicate 0x100 (zoneStart setup.bdev other)).count
            (zoneStart setup.bdev zone) =
          if other = zone then 256 else 0 := by
    intro other member
    rw [List.mem_range] at member
    rw [List.count_replicate]
    by_cases same : other = zone
    · rw [if_pos same, if_pos (by rw [same]; exact beq_self_eq_true _)]
    · have different :
          ¬ zoneStart setup.bdev other = zoneStart setup.bdev zone :=
        fun equal =>
          same
            (suitable.tenZones.zoneStart_inj (by omega) (by omega) equal)
      rw [if_neg same, if_neg (by simpa using different)]
  rw [List.count_map_of_injective _ _ injective, appendTargets,
    List.count_flatMap, Function.comp_def, List.map_congr_left shares]
  have zones : zone = 0 ∨ zone = 1 ∨ zone = 2 ∨ zone = 3 := by omega
  rcases zones with rfl | rfl | rfl | rfl <;> rfl

/-- `write_zone` is entered on rewound zones. -/
theorem writePhase_enter
    (suitable : Suitable setup) {rig : Rig} {events : Nat}
    (phase : ResetPhase setup rig events)
    {given : Answer} (member : given ∈ rig.device.ready)
    (last : (counted rig given.command).inFlight.length = 0) :
    WritePhase setup
      ⟨writeZone setup.bdev [] (counted rig given.command),
        rig.device.handBack given⟩
      (events + 1) := by
  rcases phase.flying.last member last with ⟨landed, empty, one, single⟩
  have none :
      ∀ command, (rig.device.handBack given).answered command = 0 := by
    intro command
    rw [Device.answered, empty]
    rfl
  have rewound :
      ∀ zone < 4,
        (rig.device.handBack given).written
            (zoneStart setup.bdev zone) = 0 := by
    intro zone inside
    exact phase.written_eq_zero member last (by omega)
  have count := phase.events
  rw [suitable.tenZones.writeZone_accepted]
  refine
    ⟨⟨?_, ?_, ?_, ?_, ?_, ?_, ?_⟩, ?_, ?_, ?_, ?_, ?_, ?_⟩
  · simp
  · refine phase.flying.silent.append (silent_of_forall ?_)
    intro call called
    rcases List.mem_cons.mp called with rfl | submitted
    · exact ⟨rfl, rfl⟩
    · rcases List.mem_map.mp submitted with ⟨slba, _, rfl⟩
      exact ⟨rfl, rfl⟩
  · intro command
    change (rig.device.handBack given).answered command ≤ _
    rw [none]
    exact Nat.zero_le _
  · intro other present
    change other ∈ (rig.device.handBack given).ready at present
    rw [empty] at present
    cases present
  · dsimp only
    rw [landed, List.nil_append, List.length_map, length_appendTargets]
    decide
  · dsimp only
    rw [landed, List.nil_append, List.length_map, length_appendTargets]
  · dsimp only
    rw [landed, List.nil_append, List.length_map, length_appendTargets]
    rfl
  · intro command present
    dsimp only at present
    rw [landed, List.nil_append] at present
    rcases List.mem_map.mp present with ⟨slba, target, rfl⟩
    rcases List.mem_flatMap.mp target with ⟨zone, inside, repeated⟩
    rw [List.mem_range] at inside
    exact ⟨zone, inside, by rw [List.eq_of_mem_replicate repeated]⟩
  · rw [block, ← suitable.buffSize_eq]
  · intro zone inside
    dsimp only
    rw [landed, List.nil_append, rewound zone inside, none,
      count_appendTargets suitable inside]
  · intro zone inside index below
    dsimp only at below
    rw [rewound zone inside] at below
    cases below
  · intro lba
    constructor
    · intro inside
      change lba ∈ rig.device.landed at inside
      rw [phase.landed] at inside
      cases inside
    · rintro ⟨zone, inside, index, below, rfl⟩
      dsimp only at below
      rw [rewound zone inside] at below
      cases below
  · dsimp only
    rw [landed, List.nil_append, List.length_map, length_appendTargets,
      empty, List.length_nil]
    omega

/-- The device after an append of the test, to the next block of a zone. -/
def appended (setup : Setup) (zone : Nat) (device : Device) : Device :=
  answer (.append (zoneStart setup.bdev zone)) true []
    { device with
      written :=
        Function.update device.written (zoneStart setup.bdev zone)
          (device.written (zoneStart setup.bdev zone) + 1)
      media :=
        Function.update device.media
          (blockAt setup.bdev zone
            (device.written (zoneStart setup.bdev zone)))
          (block setup.bdev)
      landed :=
        device.landed ++
          [blockAt setup.bdev zone
            (device.written (zoneStart setup.bdev zone))] }

theorem execute_append
    {device : Device} {zone : Nat} {buffer : List UInt8}
    (room :
      device.written (zoneStart setup.bdev zone) < setup.capacity)
    (whole :
      buffer.take setup.bdev.blockSize.toNat = block setup.bdev) :
    ZonedDevice.execute setup buffer device
        (.append (zoneStart setup.bdev zone)) =
      appended setup zone device := by
  have pointer :
      device.writePointer (zoneStart setup.bdev zone) =
        blockAt setup.bdev zone
          (device.written (zoneStart setup.bdev zone)) := rfl
  rw [ZonedDevice.execute, if_pos room, whole, pointer]
  rfl

/-- How far the zones have come after an append. -/
theorem written_appended
    (suitable : Suitable setup) (device : Device) {zone other : Nat}
    (inside : zone < 4) (within : other < 4) :
    (appended setup zone device).written (zoneStart setup.bdev other) =
      device.written (zoneStart setup.bdev other) +
        if other = zone then 1 else 0 := by
  simp only [appended, answer]
  by_cases same : other = zone
  · subst other
    rw [Function.update_self, if_pos rfl]
  · have elsewhere :
        zoneStart setup.bdev other ≠ zoneStart setup.bdev zone := by
      intro equal
      exact
        same
          (suitable.tenZones.zoneStart_inj (by omega) (by omega) equal)
    rw [Function.update_of_ne elsewhere, if_neg same, Nat.add_zero]

theorem answered_appended
    (suitable : Suitable setup) (device : Device) {zone other : Nat}
    (inside : zone < 4) (within : other < 4) :
    (appended setup zone device).answered
        (.append (zoneStart setup.bdev other)) =
      device.answered (.append (zoneStart setup.bdev other)) +
        if other = zone then 1 else 0 := by
  rw [appended, answered_answer]
  by_cases same : other = zone
  · subst other
    rw [if_pos rfl, if_pos rfl]
    rfl
  · have different :
        ¬ Command.append (zoneStart setup.bdev zone) =
          .append (zoneStart setup.bdev other) := by
      intro equal
      have starts := Command.append.inj equal
      exact
        same
          (suitable.tenZones.zoneStart_inj (by omega) (by omega)
            starts.symm)
    rw [if_neg same, if_neg different]
    rfl

/-- What is before the write pointer after an append was so, or is new. -/
theorem lt_written_appended
    (suitable : Suitable setup) (device : Device) {zone other : Nat}
    (inside : zone < 4) (within : other < 4) {index : Nat}
    (below :
      index <
        (appended setup zone device).written
          (zoneStart setup.bdev other)) :
    index < device.written (zoneStart setup.bdev other) ∨
      other = zone ∧
        index = device.written (zoneStart setup.bdev zone) := by
  rw [written_appended suitable device inside within] at below
  split at below
  · rename_i same
    subst other
    rcases Nat.lt_succ_iff_lt_or_eq.mp below with less | equal
    · exact Or.inl less
    · exact Or.inr ⟨rfl, equal⟩
  · exact Or.inl below

/-- The append of a zone lands on its next block. -/
theorem WritePhase.execute
    (suitable : Suitable setup) {rig : Rig} {events : Nat}
    (phase : WritePhase setup rig events) {command : Command}
    (waiting :
      rig.device.answered command < rig.test.inFlight.count command) :
    WritePhase setup
      { rig with
        device :=
          ZonedDevice.execute setup rig.test.writeBuff rig.device command }
      (events + 1) := by
  rcases phase.flight command (mem_inFlight_of_waiting waiting) with
    ⟨zone, inside, rfl⟩
  have own := phase.progress zone inside
  have count := phase.events
  have low : rig.device.written (zoneStart setup.bdev zone) < 256 := by
    omega
  have whole :
      rig.test.writeBuff.take setup.bdev.blockSize.toNat =
        block setup.bdev := by
    rw [phase.writeBuff]
    exact List.take_of_length_le (by simp [block])
  rw [execute_append (lt_of_lt_of_le low suitable.capacity) whole]
  refine
    ⟨phase.flying.execute waiting rfl, phase.flight, phase.writeBuff, ?_,
      ?_, ?_, ?_⟩
  · intro other within
    have progress := phase.progress other within
    dsimp only
    rw [written_appended suitable _ inside within,
      answered_appended suitable _ inside within]
    omega
  · intro other within index below
    simp only [appended, answer]
    by_cases pointed :
        blockAt setup.bdev other index =
          blockAt setup.bdev zone
            (rig.device.written (zoneStart setup.bdev zone))
    · rw [pointed, Function.update_self]
    · rw [Function.update_of_ne pointed]
      rcases
          lt_written_appended suitable rig.device inside within below with
        less | ⟨rfl, rfl⟩
      · exact phase.media other within index less
      · exact absurd rfl pointed
  · intro lba
    simp only [appended, answer, List.mem_append, List.mem_singleton]
    rw [phase.landed lba]
    constructor
    · rintro (⟨other, within, index, below, rfl⟩ | rfl)
      · refine ⟨other, within, index, ?_, rfl⟩
        have further := written_appended suitable rig.device inside within
        simp only [appended, answer] at further
        omega
      · refine ⟨zone, inside, _, ?_, rfl⟩
        rw [Function.update_self]
        exact Nat.lt_succ_self _
    · rintro ⟨other, within, index, below, rfl⟩
      rcases
          lt_written_appended suitable rig.device inside within below with
        less | ⟨rfl, rfl⟩
      · exact Or.inl ⟨other, within, index, less, rfl⟩
      · exact Or.inr rfl
  · simp only [appended, answer, List.length_append,
      List.length_singleton]
    omega

/-- The callback that an append in flight leads to. -/
theorem step_appendDone
    {rig : Rig} (flying : Flying rig) {given : Answer}
    (member : given ∈ rig.device.ready) {slba : UInt64}
    (command : given.command = .append slba) {test : RwTest}
    (stepped :
      ReadWriteTest.step setup.bdev rig.test given.event = some test) :
    test =
      if (counted rig given.command).inFlight.length = 0 then
        readZone setup.bdev 0 (counted rig given.command)
      else
        counted rig given.command := by
  have present := flying.bounded.mem_inFlight member
  rw [Answer.event, command, flying.succeeded given member] at stepped
  rw [command] at present ⊢
  simp only [ReadWriteTest.step, if_pos present] at stepped
  rw [writeZoneComplete_eq (flying.small _) (flying.counter present)]
    at stepped
  exact (Option.some.inj stepped).symm

/-- An answered append whose phase goes on. -/
theorem WritePhase.deliver
    {rig : Rig} {events : Nat} (phase : WritePhase setup rig events)
    {given : Answer} (member : given ∈ rig.device.ready)
    (more : (counted rig given.command).inFlight.length ≠ 0) :
    WritePhase setup
      ⟨counted rig given.command, rig.device.handBack given⟩
      (events + 1) := by
  have present := phase.flying.bounded.mem_inFlight member
  have shorter := length_counted present
  have fewer := length_ready_handBack member
  have count := phase.events
  refine
    ⟨phase.flying.deliver member more, ?_, phase.writeBuff, ?_,
      phase.media, phase.landed, ?_⟩
  · intro command inside
    exact phase.flight command (List.mem_of_mem_erase inside)
  · intro zone inside
    have progress := phase.progress zone inside
    have answers :=
      answered_handBack member (.append (zoneStart setup.bdev zone))
    have commands :=
      count_erase present (.append (zoneStart setup.bdev zone))
    dsimp only
    rw [inFlight_counted]
    change
      rig.device.written (zoneStart setup.bdev zone) + _ = _
    omega
  · dsimp only
    omega

/-- When no append is in flight, every block of the test is written. -/
theorem WritePhase.all_written
    {rig : Rig} {events : Nat} (phase : WritePhase setup rig events)
    {given : Answer} (member : given ∈ rig.device.ready)
    (last : (counted rig given.command).inFlight.length = 0) :
    Written setup (rig.device.handBack given) := by
  rcases phase.flying.last member last with ⟨landed, empty, _, _⟩
  have full :
      ∀ zone < 4,
        rig.device.written (zoneStart setup.bdev zone) = 256 := by
    intro zone inside
    have progress := phase.progress zone inside
    have answers :=
      answered_handBack member (.append (zoneStart setup.bdev zone))
    have commands :=
      count_erase (phase.flying.bounded.mem_inFlight member)
        (.append (zoneStart setup.bdev zone))
    rw [Device.answered, empty, List.countP_nil] at answers
    rw [inFlight_counted] at landed
    rw [landed, List.count_nil] at commands
    omega
  constructor
  · intro count inside
    apply phase.media (count / 256) (by omega)
    rw [full _ (by omega)]
    exact Nat.mod_lt _ (by decide)
  · intro lba
    change lba ∈ rig.device.landed ↔ _
    rw [phase.landed lba]
    constructor
    · rintro ⟨zone, inside, index, below, rfl⟩
      rw [full zone inside] at below
      refine ⟨zone * 256 + index, by omega, ?_⟩
      rw [blockLba, show (zone * 256 + index) / 256 = zone by omega,
        show (zone * 256 + index) % 256 = index by omega]
    · rintro ⟨count, inside, rfl⟩
      refine ⟨count / 256, by omega, count % 256, ?_, rfl⟩
      rw [full _ (by omega)]
      exact Nat.mod_lt _ (by decide)

/-! ## Read phase -/

@[simp]
theorem blockLba_zero (bdev : Bdev) : blockLba bdev 0 = 0 := by
  simp [blockLba, blockAt, zoneStart]

/-- `read_zone` is entered when all blocks are written. -/
theorem readPhase_enter
    (suitable : Suitable setup) {rig : Rig} {events : Nat}
    (phase : WritePhase setup rig events)
    {given : Answer} (member : given ∈ rig.device.ready)
    (last : (counted rig given.command).inFlight.length = 0) :
    ReadPhase setup 0
      ⟨readZone setup.bdev 0 (counted rig given.command),
        rig.device.handBack given⟩
      (events + 1) := by
  rcases phase.flying.last member last with ⟨landed, empty, one, single⟩
  have count := phase.events
  have accepted :
      readZone setup.bdev 0 (counted rig given.command) =
        { counted rig given.command with
          count := 0
          readBuff := List.replicate setup.bdev.buffSize 0x34
          inFlight := [.read 0]
          calls :=
            rig.test.calls ++ [.readZone, .submit (.read 0) 0] } := by
    simp [readZone, submit, enomem, landed]
    rfl
  rw [accepted]
  refine
    ⟨?_, by decide, rfl, ?_, Or.inl empty, phase.writeBuff, ?_,
      phase.all_written member last, ?_, ?_, ?_, ?_⟩
  · simp
  · rw [blockLba_zero]
  · dsimp only
    rw [List.length_replicate, suitable.buffSize_eq]
  · dsimp only
    rw [readLbas_append, phase.flying.silent.reads, List.range_one,
      List.map_singleton, blockLba_zero]
    rfl
  · dsimp only
    rw [stops_append, phase.flying.silent.stops]
    rfl
  · intro earlier before
    cases before
  · dsimp only
    rw [empty, List.length_nil]
    omega

/-- The device answers the read with what it makes of the block. -/
theorem ReadPhase.execute
    {count : Nat} {rig : Rig} {events : Nat}
    (phase : ReadPhase setup count rig events) {command : Command}
    (waiting :
      rig.device.answered command < rig.test.inFlight.count command) :
    ReadPhase setup count
      { rig with
        device :=
          ZonedDevice.execute setup rig.test.writeBuff rig.device command }
      (events + 1) := by
  have member := mem_inFlight_of_waiting waiting
  rw [phase.flight] at member waiting
  rw [List.mem_singleton] at member
  subst command
  have empty : rig.device.ready = [] := by
    rcases phase.ready with nil | single
    · exact nil
    · rw [Device.answered, single] at waiting
      simp [readAnswer] at waiting
  have number := phase.events
  have answers :
      ZonedDevice.execute setup rig.test.writeBuff rig.device
          (.read (blockLba setup.bdev count)) =
        { rig.device with ready := [readAnswer setup count] } := by
    rw [ZonedDevice.execute, phase.written.media count phase.inside,
      answer, empty]
    rfl
  rw [answers]
  refine
    { phase with
      ready := Or.inr rfl
      written := ⟨phase.written.media, phase.written.landed⟩
      events := ?_ }
  rw [empty, List.length_nil] at number
  rw [number]
  rfl

theorem fill_eq {data buffer : List UInt8}
    (same : data.length = buffer.length) :
    fill data buffer = data := by
  rw [fill, same, List.drop_length, List.append_nil, ← same,
    List.take_length]

/-- The test after the answer to a read. -/
theorem step_readDone
    (suitable : Suitable setup) {count : Nat} {rig : Rig} {events : Nat}
    (phase : ReadPhase setup count rig events) {test : RwTest}
    (stepped :
      ReadWriteTest.step setup.bdev rig.test
          (readAnswer setup count).event =
        some test) :
    (readAnswer setup count).data ≠ block setup.bdev ∧
        test.inFlight = [] ∧
          test.calls =
            rig.test.calls ++
              [.putIoChannel, .bdevClose, .appStop (-1)] ∨
      (readAnswer setup count).data = block setup.bdev ∧
        count = 1023 ∧
          test.inFlight = [] ∧
            test.calls =
              rig.test.calls ++
                [.putIoChannel, .bdevClose, .appStop 0] ∨
        (readAnswer setup count).data = block setup.bdev ∧
          count < 1023 ∧
            test.inFlight = [.read (blockLba setup.bdev (count + 1))] ∧
              test.calls =
                  rig.test.calls ++
                    [.submit (.read (blockLba setup.bdev (count + 1))) 0] ∧
                test.count = Int32.ofNat (count + 1) ∧
                  test.writeBuff = rig.test.writeBuff ∧
                    test.readBuff.length =
                      setup.bdev.blockSize.toNat := by
  have inside := phase.inside
  have filled :
      fill (readAnswer setup count).data rig.test.readBuff =
        (readAnswer setup count).data := by
    apply fill_eq
    rw [phase.readBuff]
    exact suitable.wholeBlocks _ _ (by simp [block])
  have next : rig.test.count + 1 = Int32.ofNat (count + 1) := by
    rw [phase.counter, Int32.ofNat_add]
    rfl
  have last : Int32.ofNat (count + 1) = 4 * 0x100 ↔ count = 1023 := by
    rw [show (4 * 0x100 : Int32) = Int32.ofNat 1024 by decide,
      ofNat_eq_ofNat_iff (by omega) (by omega)]
    omega
  have event :
      (readAnswer setup count).event =
        .readDone (blockLba setup.bdev count) true
          (readAnswer setup count).data 0 := rfl
  rw [event, ReadWriteTest.step, if_pos (by rw [phase.flight]; simp)]
    at stepped
  rw [← Option.some.inj stepped, filled]
  simp only [readZoneComplete, if_true, settle, phase.flight,
    phase.writeBuff, List.erase_cons_head, next, last]
  split
  · rename_i differs
    left
    exact ⟨fun equal => differs equal.symm, rfl, rfl⟩
  · rename_i equal
    rw [ne_eq, not_not] at equal
    split
    · rename_i final
      right
      left
      exact ⟨equal.symm, final, rfl, rfl⟩
    · rename_i further
      right
      right
      rw [readLba_ofNat setup.bdev (by omega), if_neg (by simp)]
      refine ⟨equal.symm, by omega, rfl, rfl, rfl, rfl, ?_⟩
      simp [submit, suitable.buffSize_eq]

/-- The answer to a read ends the test or leads to the next block. -/
theorem ReadPhase.deliver
    (suitable : Suitable setup) {count : Nat} {rig : Rig} {events : Nat}
    (phase : ReadPhase setup count rig events) {given : Answer}
    (member : given ∈ rig.device.ready) {test : RwTest}
    (stepped :
      ReadWriteTest.step setup.bdev rig.test given.event = some test) :
    InPhase setup ⟨test, rig.device.handBack given⟩ (events + 1) := by
  have single : rig.device.ready = [readAnswer setup count] := by
    rcases phase.ready with nil | single
    · rw [nil] at member
      cases member
    · exact single
  rw [single, List.mem_singleton] at member
  subst given
  have empty :
      (rig.device.handBack (readAnswer setup count)).ready = [] := by
    simp [Device.handBack, single]
  have written :
      Written setup (rig.device.handBack (readAnswer setup count)) :=
    ⟨phase.written.media, phase.written.landed⟩
  have inside := phase.inside
  have number := phase.events
  rw [single, List.length_singleton] at number
  rcases step_readDone suitable phase stepped with
    ⟨damaged, landed, calls⟩ | ⟨same, rfl, landed, calls⟩ |
      ⟨same, further, flight, calls, counter, writeBuff, readBuff⟩
  · refine .ended count ⟨?_, inside, landed, empty, written, ?_,
      phase.undamaged, Or.inl ⟨damaged, ?_⟩, by omega⟩
    · rw [calls]
      simp
    · rw [calls, readLbas_append, phase.reads]
      exact List.append_nil _
    · rw [calls, stops_append, phase.stops]
      rfl
  · refine .ended 1023 ⟨?_, inside, landed, empty, written, ?_,
      phase.undamaged, Or.inr ⟨fun damaged => damaged same, rfl, ?_⟩,
      by omega⟩
    · rw [calls]
      simp
    · rw [calls, readLbas_append, phase.reads]
      exact List.append_nil _
    · rw [calls, stops_append, phase.stops]
      rfl
  · refine .reading (count + 1) ⟨?_, by omega, counter, flight,
      Or.inl empty, writeBuff.trans phase.writeBuff, readBuff, written,
      ?_, ?_, ?_, ?_⟩
    · rw [calls]
      simp
    · rw [calls, readLbas_append, phase.reads,
        List.range_succ (n := count + 1), List.map_append]
      rfl
    · rw [calls, stops_append, phase.stops]
      rfl
    · intro earlier before
      rcases Nat.lt_succ_iff_lt_or_eq.mp before with less | rfl
      · exact phase.undamaged earlier less
      · exact fun damaged => damaged same
    · rw [empty, List.length_nil, number]
      omega

theorem ReadPhase.bounded
    {count : Nat} {rig : Rig} {events : Nat}
    (phase : ReadPhase setup count rig events) :
    Bounded rig := by
  intro command
  rw [phase.flight, Device.answered]
  rcases phase.ready with nil | single
  · rw [nil]
    exact Nat.zero_le _
  · rw [single]
    simp [readAnswer, List.countP_singleton, List.count_singleton]

end ZnsBench.ZoneTest.DevicePhases

import ZnsBench.ZoneTest.DevicePhases

/-!
# The test reads what it wrote

Every run on a suitable device is in one of the phases, and the number of its
events is bounded.  A run that has not stopped can go on, so that every run
gets to its end: the reads have visited the blocks in the order of the
counter, up to the first one that the device has damaged.
-/

namespace ZnsBench.ZoneTest.ReadsBack

open ZnsBench.Core.GuardedRun
open ZnsBench.ZoneTest.ReadWriteTest hiding Event initial step Reachable
open ZnsBench.ZoneTest.ZonedDevice
open ZnsBench.ZoneTest.DevicePhases

variable {setup : Setup}

/-! ## Whole runs -/

/-- After its start the test is not started again. -/
theorem not_start
    {test next : RwTest} (started : test.calls ≠ []) :
    ReadWriteTest.step setup.bdev test (.start .ready []) ≠ some next := by
  rw [ReadWriteTest.step, if_neg started]
  exact (Option.some_ne_none next).symm

theorem inPhase_execute
    (suitable : Suitable setup) {rig : Rig} {events : Nat}
    (inPhase : InPhase setup rig events) {command : Command}
    (waiting :
      rig.device.answered command < rig.test.inFlight.count command) :
    InPhase setup
      { rig with
        device := execute setup rig.test.writeBuff rig.device command }
      (events + 1) := by
  cases inPhase with
  | unstarted test ready landed none =>
      have member := mem_inFlight_of_waiting waiting
      rw [test] at member
      cases member
  | resetting phase => exact .resetting (phase.execute waiting)
  | writing phase => exact .writing (phase.execute suitable waiting)
  | reading count phase => exact .reading count (phase.execute waiting)
  | ended last phase =>
      have member := mem_inFlight_of_waiting waiting
      rw [phase.flight] at member
      cases member

theorem inPhase_deliver
    (suitable : Suitable setup) {rig : Rig} {events : Nat}
    (inPhase : InPhase setup rig events) {given : Answer}
    (member : given ∈ rig.device.ready) {test : RwTest}
    (stepped :
      ReadWriteTest.step setup.bdev rig.test given.event = some test) :
    InPhase setup ⟨test, rig.device.handBack given⟩ (events + 1) := by
  cases inPhase with
  | unstarted test ready landed none =>
      rw [ready] at member
      cases member
  | resetting phase =>
      rcases
          phase.flight given.command
            (phase.flying.bounded.mem_inFlight member) with
        ⟨zone, inside, command⟩
      rw [step_resetDone phase.flying member command stepped]
      split
      · rename_i last
        exact .writing (writePhase_enter suitable phase member last)
      · rename_i more
        exact .resetting (phase.deliver member more)
  | writing phase =>
      rcases
          phase.flight given.command
            (phase.flying.bounded.mem_inFlight member) with
        ⟨zone, inside, command⟩
      rw [step_appendDone phase.flying member command stepped]
      split
      · rename_i last
        exact .reading 0 (readPhase_enter suitable phase member last)
      · rename_i more
        exact .writing (phase.deliver member more)
  | reading count phase => exact phase.deliver suitable member stepped
  | ended last phase =>
      rw [phase.ready] at member
      cases member

/-- Every step stays in its phase or enters the next. -/
theorem inPhase_step
    (suitable : Suitable setup) {rig next : Rig} {events : Nat}
    {event : Event} (inPhase : InPhase setup rig events)
    (taken : step setup rig event = some next) :
    InPhase setup next (events + 1) := by
  rcases step_cases taken with
    ⟨test, rfl, stepped, rfl⟩ | ⟨command, rfl, waiting, rfl⟩ |
      ⟨given, test, rfl, member, stepped, rfl⟩
  · cases inPhase with
    | unstarted unstarted ready landed none =>
        have begun :
            test = resetZone setup.bdev [] rig.test := by
          rw [ReadWriteTest.step, if_pos (by rw [unstarted]; rfl)]
            at stepped
          exact (Option.some.inj stepped).symm
        rw [begun, none]
        exact .resetting (resetPhase_start suitable unstarted ready landed)
    | resetting phase =>
        exact absurd stepped (not_start phase.flying.started)
    | writing phase =>
        exact absurd stepped (not_start phase.flying.started)
    | reading count phase =>
        exact absurd stepped (not_start phase.started)
    | ended last phase => exact absurd stepped (not_start phase.started)
  · exact inPhase_execute suitable inPhase waiting
  · exact inPhase_deliver suitable inPhase member stepped

theorem inPhase_of_reachable
    (suitable : Suitable setup) {written : UInt64 → Nat}
    {media : UInt64 → List UInt8} {rig : Rig} {events : Nat}
    (reachable : Reachable setup written media rig events) :
    InPhase setup rig events :=
  Run.preserves_recorded (InPhase setup) reachable
    (.unstarted rfl rfl rfl rfl)
    (fun _ _ _ _ inPhase _ taken => inPhase_step suitable inPhase taken)

/-! ## The run goes on until the test stops -/

/-- A waiting answer can be handed back. -/
theorem exists_deliver
    {rig : Rig} (bounded : Bounded rig) {given : Answer}
    (member : given ∈ rig.device.ready) :
    ∃ next, step setup rig (.deliver given) = some next := by
  have present := bounded.mem_inFlight member
  rw [step, if_pos member]
  cases command : given.command with
  | reset slba =>
      rw [command] at present
      simp [Answer.event, command, ReadWriteTest.step, present]
  | append slba =>
      rw [command] at present
      simp [Answer.event, command, ReadWriteTest.step, present]
  | read lba =>
      rw [command] at present
      simp [Answer.event, command, ReadWriteTest.step, present]

/-- As long as something is in flight, the device or the test can act. -/
theorem exists_step_of_flight
    {rig : Rig} (bounded : Bounded rig)
    (flight : rig.test.inFlight ≠ []) :
    ∃ event next, step setup rig event = some next := by
  cases ready : rig.device.ready with
  | nil =>
      rcases List.exists_mem_of_ne_nil _ flight with ⟨command, member⟩
      have waiting :
          rig.device.answered command <
            rig.test.inFlight.count command := by
        rw [Device.answered, ready, List.countP_nil]
        exact List.count_pos_iff.mpr member
      exact ⟨.execute command, _, by rw [step, if_pos waiting]⟩
  | cons given others =>
      have member : given ∈ rig.device.ready := by
        rw [ready]
        exact List.mem_cons_self
      exact ⟨.deliver given, exists_deliver bounded member⟩

/-- A run that has not stopped can be continued. -/
theorem exists_step_of_running
    {rig : Rig} {events : Nat} (inPhase : InPhase setup rig events)
    (running : stops rig.test.calls = []) :
    ∃ event next, step setup rig event = some next := by
  cases inPhase with
  | unstarted test ready landed none =>
      refine ⟨.start, ?_⟩
      rw [step, ReadWriteTest.step, if_pos (by rw [test]; rfl)]
      exact ⟨_, rfl⟩
  | resetting phase =>
      exact
        exists_step_of_flight phase.flying.bounded
          (List.length_pos_iff.mp phase.flying.positive)
  | writing phase =>
      exact
        exists_step_of_flight phase.flying.bounded
          (List.length_pos_iff.mp phase.flying.positive)
  | reading count phase =>
      refine exists_step_of_flight phase.bounded ?_
      rw [phase.flight]
      exact List.cons_ne_nil _ _
  | ended last phase =>
      rcases phase.verdict with ⟨_, stopped⟩ | ⟨_, _, stopped⟩
      · rw [running] at stopped
        cases stopped
      · rw [running] at stopped
        cases stopped

/-- No run has more events than the commands take. -/
theorem events_le
    {rig : Rig} {events : Nat} (inPhase : InPhase setup rig events) :
    events ≤ 4117 := by
  cases inPhase with
  | unstarted test ready landed none =>
      rw [none]
      exact Nat.zero_le _
  | resetting phase =>
      have number := phase.events
      have few := phase.flying.bounded.length_le
      omega
  | writing phase =>
      have number := phase.events
      have few := phase.flying.bounded.length_le
      omega
  | reading count phase =>
      have number := phase.events
      have inside := phase.inside
      have few : rig.device.ready.length ≤ 1 := by
        rcases phase.ready with nil | single
        · rw [nil]
          exact Nat.zero_le _
        · rw [single]
          exact le_refl _
      omega
  | ended last phase => exact phase.events

/-- Every run can be completed to one that stops the application. -/
theorem exists_stopped
    (suitable : Suitable setup) {written : UInt64 → Nat}
    {media : UInt64 → List UInt8} {rig : Rig} {events : Nat}
    (left : Nat) (bounded : 4117 ≤ events + left)
    (reachable : Reachable setup written media rig events) :
    ∃ final number,
      Reachable setup written media final number ∧
        stops final.test.calls ≠ [] := by
  induction left generalizing rig events with
  | zero =>
      by_cases stopped : stops rig.test.calls = []
      · have inPhase := inPhase_of_reachable suitable reachable
        rcases exists_step_of_running inPhase stopped with
          ⟨event, next, taken⟩
        have more := events_le (inPhase_step suitable inPhase taken)
        omega
      · exact ⟨rig, events, reachable, stopped⟩
  | succ left induction =>
      by_cases stopped : stops rig.test.calls = []
      · rcases
            exists_step_of_running
              (inPhase_of_reachable suitable reachable) stopped with
          ⟨event, next, taken⟩
        have further : Reachable setup written media next (events + 1) :=
          reachable.tail True.intro (by rw [recorded, taken]; rfl)
        exact induction (by omega) further
      · exact ⟨rig, events, reachable, stopped⟩

/-! ## The result -/

/--
The blocks read so far are the first ones in the order of the counter, each
read once.  The run goes on until the application is stopped, and then it is
over: all 1024 blocks have been appended and no other; without damage they
are the blocks read, and the test stops with 0; with damage it stops with -1,
and the last block read is the first damaged one.
-/
structure ChecksWhatItWrote (setup : Setup) (rig : Rig) : Prop where
  order :
    ∃ count ≤ 1024,
      readLbas rig.test.calls =
        (List.range count).map (blockLba setup.bdev)
  once : (readLbas rig.test.calls).Nodup
  goesOn :
    stops rig.test.calls = [] →
      ∃ event next, step setup rig event = some next
  finished :
    stops rig.test.calls ≠ [] → ∀ event, step setup rig event = none
  passes :
    stops rig.test.calls ≠ [] →
      (∀ count < 1024, ¬ Damaged setup count) →
        stops rig.test.calls = [0] ∧
          readLbas rig.test.calls =
              (List.range 1024).map (blockLba setup.bdev) ∧
            ∀ lba,
              lba ∈ rig.device.landed ↔ lba ∈ readLbas rig.test.calls
  fails :
    stops rig.test.calls ≠ [] →
      ∀ first < 1024,
        Damaged setup first →
          (∀ earlier < first, ¬ Damaged setup earlier) →
            stops rig.test.calls = [-1] ∧
              readLbas rig.test.calls =
                (List.range (first + 1)).map (blockLba setup.bdev)

/-- The reads are in order in every phase. -/
theorem exists_reads
    {rig : Rig} {events : Nat} (inPhase : InPhase setup rig events) :
    ∃ count ≤ 1024,
      readLbas rig.test.calls =
        (List.range count).map (blockLba setup.bdev) := by
  cases inPhase with
  | unstarted test ready landed none =>
      refine ⟨0, by omega, ?_⟩
      rw [test]
      rfl
  | resetting phase => exact ⟨0, by omega, phase.flying.silent.reads⟩
  | writing phase => exact ⟨0, by omega, phase.flying.silent.reads⟩
  | reading count phase => exact ⟨count + 1, phase.inside, phase.reads⟩
  | ended last phase => exact ⟨last + 1, phase.inside, phase.reads⟩

theorem nodup_blockLbas
    (suitable : Suitable setup) {count : Nat} (few : count ≤ 1024) :
    ((List.range count).map (blockLba setup.bdev)).Nodup := by
  apply List.Nodup.map_on
  · intro first inside second within equal
    rw [List.mem_range] at inside within
    exact suitable.blockLba_inj (by omega) (by omega) equal
  · exact List.nodup_range

/-- A run that has stopped the application is in its last phase. -/
theorem exists_ended
    {rig : Rig} {events : Nat} (inPhase : InPhase setup rig events)
    (stopped : stops rig.test.calls ≠ []) :
    ∃ last, Ended setup last rig events := by
  cases inPhase with
  | unstarted test ready landed none =>
      rw [test] at stopped
      exact absurd rfl stopped
  | resetting phase => exact absurd phase.flying.silent.stops stopped
  | writing phase => exact absurd phase.flying.silent.stops stopped
  | reading count phase => exact absurd phase.stops stopped
  | ended last phase => exact ⟨last, phase⟩

theorem step_eq_none_of_ended
    {last : Nat} {rig : Rig} {events : Nat}
    (phase : Ended setup last rig events) (event : Event) :
    step setup rig event = none := by
  cases event with
  | start => rw [step, ReadWriteTest.step, if_neg phase.started]; rfl
  | execute command =>
      rw [step, phase.flight, List.count_nil, if_neg (Nat.not_lt_zero _)]
  | deliver given =>
      rw [step, phase.ready, if_neg List.not_mem_nil]

theorem passes_of_ended
    {last : Nat} {rig : Rig} {events : Nat}
    (phase : Ended setup last rig events)
    (undamaged : ∀ count < 1024, ¬ Damaged setup count) :
    stops rig.test.calls = [0] ∧
      readLbas rig.test.calls =
          (List.range 1024).map (blockLba setup.bdev) ∧
        ∀ lba,
          lba ∈ rig.device.landed ↔ lba ∈ readLbas rig.test.calls := by
  rcases phase.verdict with ⟨damaged, _⟩ | ⟨_, rfl, stopped⟩
  · exact absurd damaged (undamaged last phase.inside)
  · refine ⟨stopped, phase.reads, ?_⟩
    intro lba
    rw [phase.written.landed lba, phase.reads, List.mem_map]
    constructor
    · rintro ⟨count, inside, rfl⟩
      exact ⟨count, List.mem_range.mpr inside, rfl⟩
    · rintro ⟨count, inside, rfl⟩
      exact ⟨count, List.mem_range.mp inside, rfl⟩

theorem fails_of_ended
    {last : Nat} {rig : Rig} {events : Nat}
    (phase : Ended setup last rig events)
    {first : Nat} (inside : first < 1024) (damaged : Damaged setup first)
    (before : ∀ earlier < first, ¬ Damaged setup earlier) :
    stops rig.test.calls = [-1] ∧
      readLbas rig.test.calls =
        (List.range (first + 1)).map (blockLba setup.bdev) := by
  rcases phase.verdict with ⟨broken, stopped⟩ | ⟨sound, rfl, _⟩
  · have same : last = first := by
      rcases Nat.lt_trichotomy last first with less | equal | more
      · exact absurd broken (before last less)
      · exact equal
      · exact absurd damaged (phase.undamaged first more)
    subst last
    exact ⟨stopped, phase.reads⟩
  · rcases Nat.lt_or_ge first 1023 with less | more
    · exact absurd damaged (phase.undamaged first less)
    · have same : first = 1023 := by omega
      rw [same] at damaged
      exact absurd damaged sound

/--
For every suitable device with any content before the test and any damage,
every order in which it executes the commands and hands back the answers: a
run has at most 4117 events, and checks exactly what it wrote.
-/
theorem test_checks_what_it_wrote
    (setup : Setup) (suitable : Suitable setup)
    (written : UInt64 → Nat) (media : UInt64 → List UInt8)
    (rig : Rig) (events : Nat)
    (reachable : Reachable setup written media rig events) :
    events ≤ 4117 ∧ ChecksWhatItWrote setup rig := by
  have inPhase := inPhase_of_reachable suitable reachable
  refine ⟨events_le inPhase, exists_reads inPhase, ?_,
    exists_step_of_running inPhase, ?_, ?_, ?_⟩
  · rcases exists_reads inPhase with ⟨count, few, reads⟩
    rw [reads]
    exact nodup_blockLbas suitable few
  · intro stopped
    rcases exists_ended inPhase stopped with ⟨last, phase⟩
    exact step_eq_none_of_ended phase
  · intro stopped
    rcases exists_ended inPhase stopped with ⟨last, phase⟩
    exact passes_of_ended phase
  · intro stopped first inside damaged before
    rcases exists_ended inPhase stopped with ⟨last, phase⟩
    exact fails_of_ended phase inside damaged before

/-- Zones of 256 blocks of one byte; block 256 is returned inverted. -/
def smallDevice (broken : Bool) : Setup where
  bdev := smallZones
  capacity := 256
  damage lba data :=
    if broken ∧ lba = 256 then data.map fun byte => 255 - byte else data

theorem suitable_smallDevice (broken : Bool) :
    Suitable (smallDevice broken) where
  writeUnit := rfl
  zoneSize := (by decide : 256 ≤ smallZones.zoneSize.toNat)
  noWrap := tenZones_smallZones.noWrap
  capacity := le_refl _
  wholeBlocks := by
    intro lba data length
    simp only [smallDevice] at length ⊢
    split
    · rw [List.length_map]
      exact length
    · exact length

/-- Runs to the end, on full zones with any content, with and without damage. -/
theorem test_checks_small_devices :
    (∃ rig events,
      Reachable (smallDevice false) (fun _ => 256) (fun _ => [7]) rig
          events ∧
        stops rig.test.calls = [0] ∧
          (readLbas rig.test.calls).length = 1024) ∧
      ∃ rig events,
        Reachable (smallDevice true) (fun _ => 256) (fun _ => [7]) rig
            events ∧
          stops rig.test.calls = [-1] ∧
            (readLbas rig.test.calls).length = 257 := by
  constructor
  · rcases
        exists_stopped (suitable_smallDevice false) 4117 (by omega)
          (.refl : Reachable (smallDevice false) (fun _ => 256)
            (fun _ => [7]) _ 0) with
      ⟨rig, events, reached, stopped⟩
    have checks :=
      (test_checks_what_it_wrote (smallDevice false)
        (suitable_smallDevice false) _ _ rig events reached).2
    rcases checks.passes stopped (by simp [Damaged, smallDevice]) with
      ⟨zero, reads, _⟩
    refine ⟨rig, events, reached, zero, ?_⟩
    rw [reads, List.length_map, List.length_range]
  · rcases
        exists_stopped (suitable_smallDevice true) 4117 (by omega)
          (.refl : Reachable (smallDevice true) (fun _ => 256)
            (fun _ => [7]) _ 0) with
      ⟨rig, events, reached, stopped⟩
    have checks :=
      (test_checks_what_it_wrote (smallDevice true)
        (suitable_smallDevice true) _ _ rig events reached).2
    have damaged : Damaged (smallDevice true) 256 := by
      unfold Damaged
      decide
    have before :
        ∀ earlier < 256, ¬ Damaged (smallDevice true) earlier := by
      intro earlier less broken
      apply broken
      have other : blockLba smallZones earlier ≠ 256 := by
        intro equal
        have same :
            blockLba smallZones earlier = blockLba smallZones 256 :=
          equal.trans (by decide)
        have count :=
          (suitable_smallDevice true).blockLba_inj (by omega) (by omega)
            same
        omega
      simp [smallDevice, other]
    rcases checks.fails stopped 256 (by omega) damaged before with
      ⟨negative, reads⟩
    refine ⟨rig, events, reached, negative, ?_⟩
    rw [reads, List.length_map, List.length_range]

end ZnsBench.ZoneTest.ReadsBack

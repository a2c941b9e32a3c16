import ZnsBench.ZoneTest.ReadWriteTest

/-!
# The order of the phases

With commands that succeed, the three phases of the test are to follow one
another: ten resets, 1024 appends, then the reads.  `reset_zone` and the
first read may be turned down with `-ENOMEM`, and the bdev layer then calls
the function again.

`reset_zone` starts over when it is called again: it sets the counter to ten
and resets all ten zones.  Resets of the first call that are still
outstanding are then counted twice, and `write_zone` is entered too early, or
more than once.  The phases are in order in every run in which `reset_zone`
is only called back when no reset is outstanding and `write_zone` has not
been entered.

The bdev layer calls a waiting function back between two callbacks.  A call
back from inside `spdk_bdev_free_io`, while a callback is still running, is
not modelled.
-/

namespace ZnsBench.ZoneTest.PhaseOrder

open ZnsBench.Core.GuardedRun
open ZnsBench.ZoneTest.ReadWriteTest

/-! ## The environment -/

/-- Every command succeeds; resets and the first read may be turned down. -/
def Benign : Event → Prop
  | .start outcome rcs =>
      outcome = .ready ∧ ∀ rc ∈ rcs, rc = 0 ∨ rc = -enomem
  | .resetDone _ success rcs => success = true ∧ ∀ rc ∈ rcs, rc = 0
  | .appendDone _ success rc => success = true ∧ (rc = 0 ∨ rc = -enomem)
  | .readDone _ success _ rc => success = true ∧ rc = 0
  | .callBack rcs => ∀ rc ∈ rcs, rc = 0 ∨ rc = -enomem

/-- `reset_zone` is called back only in its own phase and when it is alone. -/
def RetriesAlone (test : RwTest) : Event → Prop
  | .callBack _ =>
      test.bdevIoWait = some .resetZone →
        (∀ command ∈ test.inFlight, command.kind ≠ .reset) ∧
          .writeZone ∉ test.calls
  | _ => True

/-- The runs in which the phases are in order. -/
def Orderly (test : RwTest) (event : Event) : Prop :=
  Benign event ∧ RetriesAlone test event

instance (event : Event) : Decidable (Benign event) :=
  match event with
  | .start _ rcs =>
      inferInstanceAs
        (Decidable (_ ∧ ∀ rc ∈ rcs, rc = 0 ∨ rc = -enomem))
  | .resetDone _ _ rcs =>
      inferInstanceAs (Decidable (_ ∧ ∀ rc ∈ rcs, rc = 0))
  | .appendDone _ _ _ => inferInstanceAs (Decidable (_ ∧ (_ ∨ _)))
  | .readDone _ _ _ _ => inferInstanceAs (Decidable (_ ∧ _))
  | .callBack rcs =>
      inferInstanceAs (Decidable (∀ rc ∈ rcs, rc = 0 ∨ rc = -enomem))

instance (test : RwTest) (event : Event) :
    Decidable (RetriesAlone test event) :=
  match event with
  | .callBack _ => inferInstanceAs (Decidable (_ → _ ∧ _))
  | .start _ _ => isTrue True.intro
  | .resetDone _ _ _ => isTrue True.intro
  | .appendDone _ _ _ => isTrue True.intro
  | .readDone _ _ _ _ => isTrue True.intro

instance (test : RwTest) (event : Event) : Decidable (Orderly test event) :=
  inferInstanceAs (Decidable (_ ∧ _))

/-! ## What holds in each phase -/

/-- The appends that have completed. -/
def appendsDone (test : RwTest) : Nat :=
  test.finished.countP fun command => command.kind = .append

/-- The resets of all ten zones have completed. -/
def ZonesReset (bdev : Bdev) (test : RwTest) : Prop :=
  ∀ zone < 10, .reset (zoneStart bdev zone) ∈ test.finished

/-- No read has been accepted. -/
def NoReadAccepted (test : RwTest) : Prop :=
  ∀ lba, .submit (.read lba) 0 ∉ test.calls

/--
Resets are outstanding, or some were turned down: `missed` of the last call
of `reset_zone`, which the counter still waits for.
-/
structure Resetting (bdev : Bdev) (missed : Nat) (test : RwTest) :
    Prop where
  started : test.calls ≠ []
  notWritten : .writeZone ∉ test.calls
  notRead : NoReadAccepted test
  appended : appendsDone test = 0
  waitFn : test.bdevIoWait ≠ some .readZone
  flight : ∀ command ∈ test.inFlight, command.kind = .reset
  count : test.count = Int32.ofNat (test.inFlight.length + missed)
  positive : 0 < test.inFlight.length + missed
  bounded : test.inFlight.length + missed ≤ 10
  zones :
    missed = 0 →
      ∀ zone < 10,
        .reset (zoneStart bdev zone) ∈ test.finished ∨
          .reset (zoneStart bdev zone) ∈ test.inFlight
  waiting : 0 < missed → 0 < test.waits

/-- Appends are outstanding, as many as the counter says. -/
structure Writing (bdev : Bdev) (test : RwTest) : Prop where
  once : test.calls.count .writeZone = 1
  zones : ZonesReset bdev test
  notRead : NoReadAccepted test
  waitFn : test.bdevIoWait ≠ some .readZone
  flight : ∀ command ∈ test.inFlight, command.kind = .append
  count : test.count = Int32.ofNat test.inFlight.length
  positive : 0 < test.inFlight.length
  appended : appendsDone test + test.inFlight.length = 1024

/-- All appends have completed; only reads are left. -/
structure Reading (bdev : Bdev) (test : RwTest) : Prop where
  once : test.calls.count .writeZone = 1
  zones : ZonesReset bdev test
  flight : ∀ command ∈ test.inFlight, command.kind = .read
  appended : appendsDone test = 1024

/-- The test is in one of its phases. -/
def InPhase (bdev : Bdev) (test : RwTest) : Prop :=
  test = initial bdev ∨
    (∃ missed, Resetting bdev missed test) ∨
      Writing bdev test ∨ Reading bdev test

/-! ## Entering a phase -/

/-- `reset_zone`, called when nothing is in flight. -/
theorem resetting_resetZone
    {bdev : Bdev} (ten : TenZones bdev) {rcs : List Int}
    (benign : ∀ rc ∈ rcs, rc = 0 ∨ rc = -enomem)
    {test : RwTest}
    (notWritten : .writeZone ∉ test.calls)
    (notRead : NoReadAccepted test)
    (none : appendsDone test = 0)
    (waitFn : test.bdevIoWait ≠ some .readZone)
    (alone : test.inFlight = []) :
    Resetting bdev (queued (resetAttempts bdev rcs))
      (resetZone bdev rcs test) := by
  have answered :
      ∀ attempt ∈ resetAttempts bdev rcs,
        attempt.2 = 0 ∨ attempt.2 = -enomem := by
    intro attempt member
    rcases mem_attempts member with accept | given
    · exact Or.inl accept
    · exact benign _ given
  have tenCalls :
      (accepted (resetAttempts bdev rcs)).length +
          queued (resetAttempts bdev rcs) = 10 := by
    rw [length_accepted_add_queued answered, ten.resetAttempts_eq,
      length_attempts, List.length_map, List.length_range]
  rw [resetZone_eq, alone, List.nil_append]
  constructor
  · simp
  · intro member
    rcases mem_pass member with
      before | equal | ⟨slba, rc, equal⟩ | equal | equal | equal
    · exact notWritten before
    all_goals cases equal
  · intro lba member
    rcases mem_pass member with
      before | equal | ⟨slba, rc, equal⟩ | equal | equal | equal
    · exact notRead lba before
    all_goals cases equal
  · exact none
  · dsimp only
    split
    · exact waitFn
    · simp
  · intro command member
    rcases List.mem_map.mp member with ⟨slba, _, rfl⟩
    rfl
  · dsimp only
    rw [List.length_map, tenCalls]
    rfl
  · dsimp only
    rw [List.length_map]
    omega
  · dsimp only
    rw [List.length_map]
    omega
  · intro allAnswered zone inside
    right
    apply List.mem_map_of_mem
    rw [accepted_eq_map_fst, ten.resetAttempts_eq, map_fst_attempts]
    · exact List.mem_map_of_mem (List.mem_range.mpr inside)
    · intro attempt member
      rcases answered attempt member with zero | full
      · exact zero
      · have absent := List.countP_eq_zero.mp allAnswered attempt member
        simp [full] at absent
  · intro missed
    exact Nat.lt_of_lt_of_le missed (Nat.le_add_left _ _)

/-- `write_zone`, entered when nothing is in flight. -/
theorem writing_writeZone
    {bdev : Bdev} (ten : TenZones bdev) {rcs : List Int}
    (accept : ∀ rc ∈ rcs, rc = 0)
    {test : RwTest}
    (notWritten : .writeZone ∉ test.calls)
    (zones : ZonesReset bdev test)
    (notRead : NoReadAccepted test)
    (none : appendsDone test = 0)
    (waitFn : test.bdevIoWait ≠ some .readZone)
    (alone : test.inFlight = []) :
    Writing bdev (writeZone bdev rcs test) := by
  have targets :
      (accepted (appendAttempts bdev rcs)).length = 1024 := by
    rw [ten.accepted_appendAttempts accept, length_appendTargets]
  have looped :
      .writeZone ∉
        (appendAttempts bdev rcs).flatMap
          (attemptCalls .append appendFails) := by
    intro member
    rcases List.mem_flatMap.mp member with ⟨attempt, _, called⟩
    rw [attemptCalls] at called
    split at called <;> simp at called
  rw [writeZone_eq, alone, List.nil_append]
  constructor
  · dsimp only
    rw [List.count_append, List.count_eq_zero_of_not_mem notWritten,
      List.count_cons_self, List.count_eq_zero_of_not_mem looped]
  · exact zones
  · intro lba member
    rcases mem_pass member with
      before | equal | ⟨slba, rc, equal⟩ | equal | equal | equal
    · exact notRead lba before
    all_goals cases equal
  · exact waitFn
  · intro command member
    rcases List.mem_map.mp member with ⟨slba, _, rfl⟩
    rfl
  · dsimp only
    rw [List.length_map, targets]
    rfl
  · dsimp only
    rw [List.length_map, targets]
    omega
  · dsimp only
    rw [List.length_map, targets]
    exact congrArg (· + 1024) none

/-- `read_zone`, called when only reads are in flight. -/
theorem reading_readZone
    {bdev : Bdev} {rc : Int} (benign : rc = 0 ∨ rc = -enomem)
    {test : RwTest}
    (reading : Reading bdev test) :
    Reading bdev (readZone bdev rc test) := by
  rcases benign with rfl | rfl
  · have accepts :
        readZone bdev 0 test =
          submit (.read 0) 0
            { test with
              calls := test.calls ++ [.readZone]
              count := 0
              readBuff := List.replicate bdev.buffSize 0x34 } := by
      simp [readZone, enomem]
    rw [accepts]
    constructor
    · simpa [submit] using reading.once
    · exact reading.zones
    · intro command member
      simp only [submit, if_pos, List.mem_append, List.mem_singleton]
        at member
      rcases member with old | rfl
      · exact reading.flight command old
      · rfl
    · exact reading.appended
  · have queues :
        readZone bdev (-enomem) test =
          queueIoWait .readZone
            (submit (.read 0) (-enomem)
              { test with
                calls := test.calls ++ [.readZone]
                count := 0
                readBuff := List.replicate bdev.buffSize 0x34 }) := by
      simp [readZone]
    have rejected : -enomem ≠ 0 := by decide
    rw [queues]
    constructor
    · simpa [submit, queueIoWait] using reading.once
    · exact reading.zones
    · intro command member
      simp only [submit, queueIoWait, if_neg rejected] at member
      exact reading.flight command member
    · exact reading.appended

/-! ## One step -/

@[simp]
theorem appendsDone_settle (command : Command) (test : RwTest) :
    appendsDone (settle command true test) =
      appendsDone test + if command.kind = .append then 1 else 0 := by
  simp [appendsDone, settle, List.countP_append, List.countP_singleton]

/-- The last reset enters `write_zone`, the others count down. -/
theorem Resetting.resetDone
    {bdev : Bdev} (ten : TenZones bdev) {missed : Nat} {test : RwTest}
    (resetting : Resetting bdev missed test)
    {slba : UInt64} (flying : .reset slba ∈ test.inFlight)
    {rcs : List Int} (accept : ∀ rc ∈ rcs, rc = 0) :
    InPhase bdev
      (resetZoneComplete bdev true rcs
        (settle (.reset slba) true test)) := by
  have shorter := length_inFlight_settle flying true
  have bounded := resetting.bounded
  have counted :
      (settle (.reset slba) true test).count =
        Int32.ofNat
          ((settle (.reset slba) true test).inFlight.length + missed +
            1) := by
    change test.count = _
    rw [resetting.count, ← shorter, Nat.add_right_comm]
  have same : appendsDone (settle (.reset slba) true test) = 0 := by
    rw [appendsDone_settle, resetting.appended]
    rfl
  have zones :
      missed = 0 →
        ∀ zone < 10,
          .reset (zoneStart bdev zone) ∈
              (settle (.reset slba) true test).finished ∨
            .reset (zoneStart bdev zone) ∈
              (settle (.reset slba) true test).inFlight := by
    intro none zone inside
    exact finished_or_inFlight _ (resetting.zones none zone inside)
  rw [resetZoneComplete_eq (by omega) counted]
  split
  · rename_i last
    have alone : (settle (.reset slba) true test).inFlight = [] :=
      List.length_eq_zero_iff.mp (by omega)
    right
    right
    left
    apply writing_writeZone ten accept
    · exact resetting.notWritten
    · intro zone inside
      rcases zones (by omega) zone inside with done | flight
      · exact done
      · rw [alone] at flight
        cases flight
    · exact resetting.notRead
    · exact same
    · exact resetting.waitFn
    · exact alone
  · rename_i remaining
    right
    left
    refine
      ⟨missed, resetting.started, resetting.notWritten,
        resetting.notRead, same, resetting.waitFn, ?_, rfl, ?_, ?_, zones,
        resetting.waiting⟩
    · intro command member
      exact resetting.flight command (List.mem_of_mem_erase member)
    · exact Nat.pos_of_ne_zero remaining
    · dsimp only
      omega

/-- The last append enters `read_zone`, the others count down. -/
theorem Writing.appendDone
    {bdev : Bdev} {test : RwTest} (writing : Writing bdev test)
    {slba : UInt64} (flying : .append slba ∈ test.inFlight)
    {rc : Int} (benign : rc = 0 ∨ rc = -enomem) :
    InPhase bdev
      (writeZoneComplete bdev true rc
        (settle (.append slba) true test)) := by
  have shorter := length_inFlight_settle flying true
  have total := writing.appended
  have counted :
      (settle (.append slba) true test).count =
        Int32.ofNat
          ((settle (.append slba) true test).inFlight.length + 1) := by
    change test.count = _
    rw [writing.count, ← shorter]
  have more :
      appendsDone (settle (.append slba) true test) = appendsDone test + 1 := by
    rw [appendsDone_settle]
    rfl
  have zones : ZonesReset bdev (settle (.append slba) true test) := by
    intro zone inside
    simp [settle, writing.zones zone inside]
  rw [writeZoneComplete_eq (by omega) counted]
  split
  · rename_i last
    have alone : (settle (.append slba) true test).inFlight = [] :=
      List.length_eq_zero_iff.mp last
    right
    right
    right
    apply reading_readZone benign
    refine ⟨writing.once, zones, ?_, ?_⟩
    · intro command member
      dsimp only at member
      rw [alone] at member
      cases member
    · change appendsDone (settle (.append slba) true test) = 1024
      omega
  · rename_i remaining
    right
    right
    left
    refine
      ⟨writing.once, zones, writing.notRead, writing.waitFn, ?_, rfl, ?_,
        ?_⟩
    · intro command member
      exact writing.flight command (List.mem_of_mem_erase member)
    · exact Nat.pos_of_ne_zero remaining
    · change
        appendsDone (settle (.append slba) true test) +
            (settle (.append slba) true test).inFlight.length = 1024
      omega

/-- What a completed read leaves of the phase does not change. -/
theorem Reading.calls
    {bdev : Bdev} {test next : RwTest} (reading : Reading bdev test)
    (finished : next.finished = test.finished)
    (flight : ∀ command ∈ next.inFlight, command.kind = .read)
    (more : ∃ calls, next.calls = test.calls ++ calls ∧ .writeZone ∉ calls) :
    Reading bdev next := by
  rcases more with ⟨calls, equal, absent⟩
  refine ⟨?_, ?_, flight, ?_⟩
  · rw [equal, List.count_append, List.count_eq_zero_of_not_mem absent]
    exact reading.once
  · intro zone inside
    rw [finished]
    exact reading.zones zone inside
  · rw [appendsDone, finished]
    exact reading.appended

/-- A completed read leads to the next one, or ends the test. -/
theorem Reading.readZoneComplete
    {bdev : Bdev} {test : RwTest} (reading : Reading bdev test) :
    Reading bdev (readZoneComplete bdev true 0 test) := by
  rw [ReadWriteTest.readZoneComplete, if_pos rfl]
  split
  · exact
      reading.calls rfl reading.flight
        ⟨[.putIoChannel, .bdevClose, .appStop (-1)], rfl, by simp⟩
  · dsimp only
    split
    · exact
        reading.calls rfl reading.flight
          ⟨[.putIoChannel, .bdevClose, .appStop 0], rfl, by simp⟩
    · rw [if_neg (by simp)]
      refine
        reading.calls rfl ?_
          ⟨[.submit (.read (readLba bdev (test.count + 1))) 0], rfl,
            by simp⟩
      intro command member
      simp only [submit, if_true, List.mem_append, List.mem_singleton]
        at member
      rcases member with old | rfl
      · exact reading.flight command old
      · rfl

theorem Reading.settle
    {bdev : Bdev} {test : RwTest} (reading : Reading bdev test)
    (lba : UInt64) (readBuff : List UInt8) :
    Reading bdev
      (settle (.read lba) true { test with readBuff := readBuff }) := by
  refine ⟨reading.once, ?_, ?_, ?_⟩
  · intro zone inside
    simp [ReadWriteTest.settle, reading.zones zone inside]
  · intro command member
    exact reading.flight command (List.mem_of_mem_erase member)
  · rw [appendsDone_settle]
    exact reading.appended

/-! ## Whole runs -/

theorem InPhase.start
    {bdev : Bdev} (ten : TenZones bdev) {test : RwTest}
    (inPhase : InPhase bdev test) (unstarted : test.calls = [])
    {rcs : List Int}
    (benign : ∀ rc ∈ rcs, rc = 0 ∨ rc = -enomem) :
    InPhase bdev (resetZone bdev rcs test) := by
  rcases inPhase with rfl | ⟨missed, resetting⟩ | writing | reading
  · right
    left
    refine ⟨_, resetting_resetZone ten benign ?_ ?_ rfl ?_ rfl⟩
    · exact List.not_mem_nil
    · intro lba
      exact List.not_mem_nil
    · simp [initial]
  · exact absurd unstarted resetting.started
  · have entered := writing.once
    rw [unstarted] at entered
    cases entered
  · have entered := reading.once
    rw [unstarted] at entered
    cases entered

theorem InPhase.resetDone
    {bdev : Bdev} (ten : TenZones bdev) {test : RwTest}
    (inPhase : InPhase bdev test)
    {slba : UInt64} (flying : .reset slba ∈ test.inFlight)
    {rcs : List Int} (accept : ∀ rc ∈ rcs, rc = 0) :
    InPhase bdev
      (resetZoneComplete bdev true rcs
        (settle (.reset slba) true test)) := by
  rcases inPhase with rfl | ⟨missed, resetting⟩ | writing | reading
  · cases flying
  · exact resetting.resetDone ten flying accept
  · cases writing.flight _ flying
  · cases reading.flight _ flying

theorem InPhase.appendDone
    {bdev : Bdev} {test : RwTest} (inPhase : InPhase bdev test)
    {slba : UInt64} (flying : .append slba ∈ test.inFlight)
    {rc : Int} (benign : rc = 0 ∨ rc = -enomem) :
    InPhase bdev
      (writeZoneComplete bdev true rc
        (settle (.append slba) true test)) := by
  rcases inPhase with rfl | ⟨missed, resetting⟩ | writing | reading
  · cases flying
  · cases resetting.flight _ flying
  · exact writing.appendDone flying benign
  · cases reading.flight _ flying

theorem InPhase.readDone
    {bdev : Bdev} {test : RwTest} (inPhase : InPhase bdev test)
    {lba : UInt64} (flying : .read lba ∈ test.inFlight)
    (readBuff : List UInt8) :
    InPhase bdev
      (readZoneComplete bdev true 0
        (settle (.read lba) true { test with readBuff := readBuff })) := by
  rcases inPhase with rfl | ⟨missed, resetting⟩ | writing | reading
  · cases flying
  · cases resetting.flight _ flying
  · cases writing.flight _ flying
  · exact Or.inr (Or.inr (Or.inr (reading.settle lba _).readZoneComplete))

/-- `reset_zone` starts over with nothing in flight. -/
theorem InPhase.resetCalledBack
    {bdev : Bdev} (ten : TenZones bdev) {test : RwTest}
    (inPhase : InPhase bdev test)
    (registered : test.bdevIoWait = some .resetZone)
    (noReset : ∀ command ∈ test.inFlight, command.kind ≠ .reset)
    (notWritten : .writeZone ∉ test.calls)
    {rcs : List Int}
    (benign : ∀ rc ∈ rcs, rc = 0 ∨ rc = -enomem)
    (waits : Nat) :
    InPhase bdev (resetZone bdev rcs { test with waits := waits }) := by
  rcases inPhase with rfl | ⟨missed, resetting⟩ | writing | reading
  · cases registered
  · have alone : test.inFlight = [] := by
      rw [List.eq_nil_iff_forall_not_mem]
      intro command member
      exact noReset command member (resetting.flight command member)
    right
    left
    exact
      ⟨_,
        resetting_resetZone ten benign notWritten resetting.notRead
          resetting.appended resetting.waitFn alone⟩
  · have entered := writing.once
    rw [List.count_eq_zero_of_not_mem notWritten] at entered
    cases entered
  · have entered := reading.once
    rw [List.count_eq_zero_of_not_mem notWritten] at entered
    cases entered

/-- Only the phase of the reads registers `read_zone`. -/
theorem InPhase.readCalledBack
    {bdev : Bdev} {test : RwTest} (inPhase : InPhase bdev test)
    (registered : test.bdevIoWait = some .readZone)
    {rc : Int} (benign : rc = 0 ∨ rc = -enomem) (waits : Nat) :
    InPhase bdev (readZone bdev rc { test with waits := waits }) := by
  rcases inPhase with rfl | ⟨missed, resetting⟩ | writing | reading
  · cases registered
  · exact absurd registered resetting.waitFn
  · exact absurd registered writing.waitFn
  · right
    right
    right
    apply reading_readZone benign
    exact ⟨reading.once, reading.zones, reading.flight, reading.appended⟩

/-- Every step of an orderly run stays in its phase or enters the next. -/
theorem inPhase_step
    {bdev : Bdev} (ten : TenZones bdev) {test next : RwTest}
    {event : Event}
    (inPhase : InPhase bdev test)
    (orderly : Orderly test event)
    (taken : step bdev test event = some next) :
    InPhase bdev next := by
  rcases orderly with ⟨benign, alone⟩
  rcases step_cases taken with
    ⟨outcome, rcs, rfl, unstarted, rfl⟩ |
      ⟨slba, success, rcs, rfl, flying, rfl⟩ |
        ⟨slba, success, rc, rfl, flying, rfl⟩ |
          ⟨lba, success, data, rc, rfl, flying, rfl⟩ |
            ⟨rcs, rfl, waiting, registered, rfl⟩ |
              ⟨rcs, rfl, waiting, registered, rfl⟩
  · rcases benign with ⟨rfl, answers⟩
    exact inPhase.start ten unstarted answers
  · rcases benign with ⟨rfl, accept⟩
    exact inPhase.resetDone ten flying accept
  · rcases benign with ⟨rfl, answer⟩
    exact inPhase.appendDone flying answer
  · rcases benign with ⟨rfl, rfl⟩
    exact inPhase.readDone flying _
  · rcases alone registered with ⟨noReset, notWritten⟩
    exact
      inPhase.resetCalledBack ten registered noReset notWritten benign _
  · have answer : rcs.getD 0 0 = 0 ∨ rcs.getD 0 0 = -enomem := by
      rcases getD_eq_or_mem rcs 0 with accept | given
      · exact Or.inl accept
      · exact benign _ given
    exact inPhase.readCalledBack registered answer _

theorem inPhase_of_reachable
    {bdev : Bdev} (ten : TenZones bdev) {test : RwTest}
    (reachable : Reachable bdev Orderly test) :
    InPhase bdev test :=
  reachable.preserves (Or.inl rfl)
    (fun _ _ _ inPhase orderly taken =>
      inPhase_step ten inPhase orderly taken)

/-! ## The result -/

/--
`write_zone` is entered at most once, when all ten zones are reset and no
reset is outstanding; the first read is accepted when all appends have
completed; and when the bdev layer has answered everything, `write_zone` has
been entered.
-/
structure PhasesInOrder (bdev : Bdev) (test : RwTest) : Prop where
  once : test.calls.count .writeZone ≤ 1
  afterResets :
    .writeZone ∈ test.calls →
      ZonesReset bdev test ∧
        ∀ command ∈ test.inFlight, command.kind ≠ .reset
  afterAppends :
    ∀ lba,
      .submit (.read lba) 0 ∈ test.calls →
        appendsDone test = 1024 ∧
          ∀ command ∈ test.inFlight, command.kind ≠ .append
  entered :
    test.calls ≠ [] → test.inFlight = [] → test.waits = 0 →
      test.calls.count .writeZone = 1

/--
In every run with zones that fit into the address space in which `reset_zone`
is only called back when no reset is outstanding and `write_zone` has not
been entered, the phases are in order.
-/
theorem phases_in_order_while_retries_alone
    (bdev : Bdev) (ten : TenZones bdev) (test : RwTest)
    (reachable : Reachable bdev Orderly test) :
    PhasesInOrder bdev test := by
  rcases inPhase_of_reachable ten reachable with
    rfl | ⟨missed, resetting⟩ | writing | reading
  · refine ⟨Nat.zero_le _, ?_, ?_, ?_⟩
    · intro entered
      cases entered
    · intro lba accepted
      cases accepted
    · intro started
      exact absurd rfl started
  · refine ⟨?_, ?_, ?_, ?_⟩
    · rw [List.count_eq_zero_of_not_mem resetting.notWritten]
      exact Nat.zero_le _
    · intro entered
      exact absurd entered resetting.notWritten
    · intro lba accepted
      exact absurd accepted (resetting.notRead lba)
    · intro _ landed quiet
      have waiting := resetting.waiting
      have positive := resetting.positive
      rw [landed, List.length_nil] at positive
      omega
  · refine ⟨writing.once.le, ?_, ?_, fun _ _ _ => writing.once⟩
    · intro _
      refine ⟨writing.zones, ?_⟩
      intro command flying
      rw [writing.flight command flying]
      decide
    · intro lba accepted
      exact absurd accepted (writing.notRead lba)
  · refine ⟨reading.once.le, ?_, ?_, fun _ _ _ => reading.once⟩
    · intro _
      refine ⟨reading.zones, ?_⟩
      intro command flying
      rw [reading.flight command flying]
      decide
    · intro lba _
      refine ⟨reading.appended, ?_⟩
      intro command flying
      rw [reading.flight command flying]
      decide

/-- The completions of the resets of some zones. -/
def resetsDone (zones : List Nat) : List Event :=
  zones.map fun zone => .resetDone (zoneStart smallZones zone) true []

/-- The reset that finds the counter at one enters `write_zone`. -/
theorem exists_write_zone
    {bdev : Bdev} {allowed : RwTest → Event → Prop} {test : RwTest}
    (reached : Reachable bdev allowed test)
    {slba : UInt64} (flying : .reset slba ∈ test.inFlight)
    (last : test.count = Int32.ofNat (0 + 1))
    (admitted : allowed test (.resetDone slba true [])) :
    ∃ next calls appends,
      Reachable bdev allowed next ∧
        next.calls = test.calls ++ .writeZone :: calls ∧
          next.inFlight = test.inFlight.erase (.reset slba) ++ appends := by
  have counted :
      (settle (.reset slba) true test).count = Int32.ofNat (0 + 1) := last
  have taken :
      step bdev test (.resetDone slba true []) =
        some
          (writeZone bdev []
            { settle (.reset slba) true test with
              count := Int32.ofNat 0 }) := by
    rw [step, if_pos flying, resetZoneComplete_eq (by omega) counted,
      if_pos rfl]
  rw [writeZone_eq] at taken
  exact ⟨_, _, _, reached.tail admitted taken, rfl, rfl⟩

/--
One reset is turned down; the other nine complete, `reset_zone` is called
back, its ten resets complete, and `write_zone` is entered.
-/
theorem phases_in_order_after_retry :
    ∃ test,
      Reachable smallZones Orderly test ∧
        2 ≤ test.calls.count .resetZone ∧
          .writeZone ∈ test.calls ∧ PhasesInOrder smallZones test := by
  have replayed :
      ∃ test,
        Reachable smallZones Orderly test ∧
          test.calls.count .resetZone = 2 ∧
            .reset 0 ∈ test.inFlight ∧ test.count = Int32.ofNat (0 + 1) :=
    Run.exists_of_replay _
      (.start .ready [0, 0, 0, 0, 0, 0, 0, 0, 0, -12] ::
        (resetsDone [0, 1, 2, 3, 4, 5, 6, 7, 8] ++
          .callBack [] :: resetsDone [9, 8, 7, 6, 5, 4, 3, 2, 1]))
      (by decide +kernel)
  rcases replayed with ⟨test, reached, retried, flying, last⟩
  have admitted : Orderly test (.resetDone 0 true []) :=
    ⟨by decide, True.intro⟩
  rcases exists_write_zone reached flying last admitted with
    ⟨next, calls, appends, entered, called, _⟩
  refine
    ⟨next, entered, ?_, ?_,
      phases_in_order_while_retries_alone smallZones tenZones_smallZones
        next entered⟩
  · rw [called, List.count_append, retried]
    exact Nat.le_add_right _ _
  · rw [called]
    simp

/--
One reset is turned down and one completes before `reset_zone` is called
back: `write_zone` is entered with eight resets outstanding.
-/
theorem retry_enters_write_zone_early :
    ∃ test,
      Reachable smallZones (fun _ event => Benign event) test ∧
        .writeZone ∈ test.calls ∧
          8 ≤ test.inFlight.countP (fun command => command.kind = .reset) ∧
            ¬ PhasesInOrder smallZones test := by
  have replayed :
      ∃ test,
        Reachable smallZones (fun _ event => Benign event) test ∧
          .reset 0 ∈ test.inFlight ∧
            test.count = Int32.ofNat (0 + 1) ∧
              (test.inFlight.erase (.reset 0)).countP
                  (fun command => command.kind = .reset) = 8 :=
    Run.exists_of_replay _
      (.start .ready [0, 0, 0, 0, 0, 0, 0, 0, 0, -12] ::
        (resetsDone [0] ++
          .callBack [] :: resetsDone [1, 2, 3, 4, 5, 6, 7, 8, 9]))
      (by decide +kernel)
  rcases replayed with ⟨test, reached, flying, last, outstanding⟩
  have admitted : Benign (.resetDone 0 true []) := by decide
  rcases exists_write_zone reached flying last admitted with
    ⟨next, calls, appends, entered, called, flight⟩
  have member : .writeZone ∈ next.calls := by
    rw [called]
    simp
  have early :
      8 ≤ next.inFlight.countP (fun command => command.kind = .reset) := by
    rw [flight, List.countP_append, outstanding]
    exact Nat.le_add_right _ _
  refine ⟨next, entered, member, early, ?_⟩
  intro inOrder
  have none :
      next.inFlight.countP (fun command => command.kind = .reset) = 0 := by
    rw [List.countP_eq_zero]
    intro command outside
    simpa using (inOrder.afterResets member).2 command outside
  omega

end ZnsBench.ZoneTest.PhaseOrder

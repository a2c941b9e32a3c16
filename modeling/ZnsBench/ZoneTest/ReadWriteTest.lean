import ZnsBench.Core.CommandCounter
import ZnsBench.Core.GuardedRun
import Mathlib.Data.UInt
import Mathlib.Data.List.TakeWhile

/-!
# The read/write test of a zoned device

`rw_test.cc` and `zns_bdev_test.cc` reset ten zones, append 256 blocks to
each of the first four, and read the blocks back one by one.  One counter
serves the three phases: the last completion of a phase enters the next.

The bdev layer is the environment.  It chooses the return value of every
submission, the order, the status and the data of the completions, and when
it calls back the function that an `-ENOMEM` registered in `bdev_io_wait`.
Callbacks of the test run one at a time, on one thread.  The calls of the
test are kept in order, so that what it submits and what it releases can be
read off them.
-/

namespace ZnsBench.ZoneTest.ReadWriteTest

open ZnsBench.Core.CommandCounter
open ZnsBench.Core.GuardedRun

/-- What the `spdk_bdev_get_*` calls report. -/
structure Bdev where
  zoneSize : UInt64
  blockSize : UInt32
  writeUnitSize : UInt32
  deriving DecidableEq, Repr

/-- `buff_size`, a `uint32_t`. -/
def Bdev.buffSize (bdev : Bdev) : Nat :=
  (bdev.blockSize * bdev.writeUnitSize).toNat

/-- `ENOMEM` -/
def enomem : Int := 12

/-- The functions registered in `bdev_io_wait`. -/
inductive WaitFn where
  | resetZone
  | readZone
  deriving DecidableEq, Repr

/-- A submitted command; the callback argument is the same for all. -/
inductive Command where
  | reset (slba : UInt64)
  | append (slba : UInt64)
  | read (lba : UInt64)
  deriving DecidableEq, Repr

/-- The three kinds of commands. -/
inductive Kind where
  | reset
  | append
  | read
  deriving DecidableEq, Repr

/-- The kind of a command. -/
def Command.kind : Command → Kind
  | .reset _ => .reset
  | .append _ => .append
  | .read _ => .read

/-- What the test does, in the order in which it does it. -/
inductive Call where
  | resetZone
  | writeZone
  | readZone
  /-- A call of a submission function and its return value. -/
  | submit (command : Command) (rc : Int)
  | putIoChannel
  | bdevClose
  | appStop (rc : Int)
  deriving DecidableEq, Repr

/-- `rwtest_context_t`, with what the bdev layer holds for it. -/
structure RwTest where
  count : Int32
  writeBuff : List UInt8
  readBuff : List UInt8
  bdevIoWait : Option WaitFn
  /-- Callbacks into `bdev_io_wait` that are still to come. -/
  waits : Nat
  inFlight : List Command
  /-- Commands that completed successfully. -/
  finished : List Command
  calls : List Call
  deriving DecidableEq, Repr

/-- The test before `test_start`. -/
def initial (bdev : Bdev) : RwTest where
  count := 0
  writeBuff := List.replicate bdev.buffSize 0
  readBuff := List.replicate bdev.buffSize 0
  bdevIoWait := none
  waits := 0
  inFlight := []
  finished := []
  calls := []

/-! ## Operations -/

/-- `spdk_put_io_channel`, `spdk_bdev_close` and `spdk_app_stop`. -/
def release (rc : Int) (test : RwTest) : RwTest :=
  { test with
    calls := test.calls ++ [.putIoChannel, .bdevClose, .appStop rc] }

/-- A submission call: the bdev layer keeps an accepted command. -/
def submit (command : Command) (rc : Int) (test : RwTest) : RwTest :=
  { test with
    calls := test.calls ++ [.submit command rc]
    inFlight := if rc = 0 then test.inFlight ++ [command] else test.inFlight }

/-- `spdk_bdev_queue_io_wait` with one of the two functions. -/
def queueIoWait (waitFn : WaitFn) (test : RwTest) : RwTest :=
  { test with
    bdevIoWait := some waitFn
    waits := test.waits + 1 }

/--
The values of `slba` in `for (slba = 0; slba < n * zs; slba += zs)`, in
64-bit arithmetic.  After `n` rounds `slba` is the bound itself, so that
there are no more than `n`.
-/
def zoneStarts (zoneNum : Nat) (zoneSize : UInt64) : List UInt64 :=
  ((List.range zoneNum).map fun zone => UInt64.ofNat zone * zoneSize).takeWhile
    fun slba => slba < UInt64.ofNat zoneNum * zoneSize

/--
The calls of a loop with the return values the bdev layer chose; it accepts
the calls for which no value is given.
-/
def attempts (targets : List UInt64) (rcs : List Int) :
    List (UInt64 × Int) :=
  targets.zipIdx.map fun target => (target.1, rcs.getD target.2 0)

/-- One iteration of the loop in `reset_zone`. -/
def tryReset (test : RwTest) (attempt : UInt64 × Int) : RwTest :=
  let submitted := submit (.reset attempt.1) attempt.2 test
  if attempt.2 = -enomem then
    queueIoWait .resetZone submitted
  else if attempt.2 ≠ 0 then
    release (-1) submitted
  else
    submitted

/-- The calls of the loop in `reset_zone`. -/
def resetAttempts (bdev : Bdev) (rcs : List Int) : List (UInt64 × Int) :=
  attempts (zoneStarts 10 bdev.zoneSize) rcs

/-- `reset_zone`, which resets the ten zones one after the other. -/
def resetZone (bdev : Bdev) (rcs : List Int) (test : RwTest) : RwTest :=
  (resetAttempts bdev rcs).foldl tryReset
    { test with
      calls := test.calls ++ [.resetZone]
      count := 10 }

/-- One iteration of the inner loop in `write_zone`. -/
def tryAppend (test : RwTest) (attempt : UInt64 × Int) : RwTest :=
  let submitted := submit (.append attempt.1) attempt.2 test
  if attempt.2 ≠ 0 then release (-1) submitted else submitted

/-- The calls of the two loops in `write_zone`. -/
def appendAttempts (bdev : Bdev) (rcs : List Int) : List (UInt64 × Int) :=
  attempts
    ((zoneStarts 4 bdev.zoneSize).flatMap fun slba =>
      List.replicate 0x100 slba)
    rcs

/-- `write_zone` -/
def writeZone (bdev : Bdev) (rcs : List Int) (test : RwTest) : RwTest :=
  (appendAttempts bdev rcs).foldl tryAppend
    { test with
      calls := test.calls ++ [.writeZone]
      count := 4 * 0x100
      writeBuff := List.replicate bdev.buffSize 0x12 }

/-- `reset_zone_complete` -/
def resetZoneComplete (bdev : Bdev) (success : Bool) (rcs : List Int)
    (test : RwTest) : RwTest :=
  if success then
    let counted := { test with count := test.count - 1 }
    if counted.count = 0 then writeZone bdev rcs counted else counted
  else
    release (-1) test

/-- `read_zone` -/
def readZone (bdev : Bdev) (rc : Int) (test : RwTest) : RwTest :=
  let submitted :=
    submit (.read 0) rc
      { test with
        calls := test.calls ++ [.readZone]
        count := 0
        readBuff := List.replicate bdev.buffSize 0x34 }
  if rc = -enomem then
    queueIoWait .readZone submitted
  else if rc ≠ 0 then
    release (-1) submitted
  else
    submitted

/-- `write_zone_complete` -/
def writeZoneComplete (bdev : Bdev) (success : Bool) (rc : Int)
    (test : RwTest) : RwTest :=
  if success then
    let counted := { test with count := test.count - 1 }
    if counted.count = 0 then readZone bdev rc counted else counted
  else
    release (-1) test

/-- `count / 0x100 * zone_size + count % 0x100`, as C converts it. -/
def readLba (bdev : Bdev) (count : Int32) : UInt64 :=
  UInt64.ofInt (count / 0x100).toInt * bdev.zoneSize +
    UInt64.ofInt (count % 0x100).toInt

/-- The block that a read leaves at the start of the buffer. -/
def fill (data buffer : List UInt8) : List UInt8 :=
  (data ++ buffer.drop data.length).take buffer.length

/-- `read_zone_complete` -/
def readZoneComplete (bdev : Bdev) (success : Bool) (rc : Int)
    (test : RwTest) : RwTest :=
  if success then
    if test.writeBuff ≠ test.readBuff then
      release (-1) test
    else
      let counted := { test with count := test.count + 1 }
      if counted.count = 4 * 0x100 then
        release 0 counted
      else
        let submitted :=
          submit (.read (readLba bdev counted.count)) rc
            { counted with
              readBuff := List.replicate bdev.buffSize 0x34 }
        if rc ≠ 0 then release (-1) submitted else submitted
  else
    release (-1) test

/-- How far `test_start` gets. -/
inductive StartOutcome where
  | bdevNotOpened
  | noIoChannel
  /-- One of the two buffers is not allocated, or the bdev is not zoned. -/
  | notUsable
  | ready
  deriving DecidableEq, Repr

/-- `test_start`, which enters `reset_zone` if nothing fails. -/
def testStart (bdev : Bdev) (outcome : StartOutcome) (rcs : List Int)
    (test : RwTest) : RwTest :=
  match outcome with
  | .bdevNotOpened => { test with calls := test.calls ++ [.appStop (-1)] }
  | .noIoChannel =>
      { test with calls := test.calls ++ [.bdevClose, .appStop (-1)] }
  | .notUsable => release (-1) test
  | .ready => resetZone bdev rcs test

/-! ## Runs -/

/-- What can happen next. -/
inductive Event where
  | start (outcome : StartOutcome) (rcs : List Int)
  | resetDone (slba : UInt64) (success : Bool) (rcs : List Int)
  | appendDone (slba : UInt64) (success : Bool) (rc : Int)
  | readDone (lba : UInt64) (success : Bool) (data : List UInt8) (rc : Int)
  /-- The bdev layer calls `bdev_io_wait.cb_fn`. -/
  | callBack (rcs : List Int)
  deriving DecidableEq, Repr

/-- The bdev layer hands a command back. -/
def settle (command : Command) (success : Bool) (test : RwTest) : RwTest :=
  { test with
    inFlight := test.inFlight.erase command
    finished :=
      if success then test.finished ++ [command] else test.finished }

/-- The transitions of the test: a start, a callback or a completion. -/
def step (bdev : Bdev) (test : RwTest) : Event → Option RwTest
  | .start outcome rcs =>
      if test.calls = [] then
        some (testStart bdev outcome rcs test)
      else
        none
  | .resetDone slba success rcs =>
      if .reset slba ∈ test.inFlight then
        some
          (resetZoneComplete bdev success rcs
            (settle (.reset slba) success test))
      else
        none
  | .appendDone slba success rc =>
      if .append slba ∈ test.inFlight then
        some
          (writeZoneComplete bdev success rc
            (settle (.append slba) success test))
      else
        none
  | .readDone lba success data rc =>
      if .read lba ∈ test.inFlight then
        some
          (readZoneComplete bdev success rc
            (settle (.read lba) success
              { test with readBuff := fill data test.readBuff }))
      else
        none
  | .callBack rcs =>
      if test.waits = 0 then
        none
      else
        match test.bdevIoWait with
        | none => none
        | some .resetZone =>
            some (resetZone bdev rcs { test with waits := test.waits - 1 })
        | some .readZone =>
            some
              (readZone bdev (rcs.getD 0 0)
                { test with waits := test.waits - 1 })

/-- The states of the runs whose events are all allowed. -/
def Reachable (bdev : Bdev) (allowed : RwTest → Event → Prop)
    (test : RwTest) : Prop :=
  Run (step bdev) allowed (initial bdev) test

/-- What one step can do. -/
theorem step_cases
    {bdev : Bdev} {test next : RwTest} {event : Event}
    (taken : step bdev test event = some next) :
    (∃ outcome rcs,
      event = .start outcome rcs ∧
        test.calls = [] ∧ next = testStart bdev outcome rcs test) ∨
      (∃ slba success rcs,
        event = .resetDone slba success rcs ∧
          .reset slba ∈ test.inFlight ∧
            next =
              resetZoneComplete bdev success rcs
                (settle (.reset slba) success test)) ∨
        (∃ slba success rc,
          event = .appendDone slba success rc ∧
            .append slba ∈ test.inFlight ∧
              next =
                writeZoneComplete bdev success rc
                  (settle (.append slba) success test)) ∨
          (∃ lba success data rc,
            event = .readDone lba success data rc ∧
              .read lba ∈ test.inFlight ∧
                next =
                  readZoneComplete bdev success rc
                    (settle (.read lba) success
                      { test with
                        readBuff := fill data test.readBuff })) ∨
            (∃ rcs,
              event = .callBack rcs ∧
                test.waits ≠ 0 ∧
                  test.bdevIoWait = some .resetZone ∧
                    next =
                      resetZone bdev rcs
                        { test with waits := test.waits - 1 }) ∨
              (∃ rcs,
                event = .callBack rcs ∧
                  test.waits ≠ 0 ∧
                    test.bdevIoWait = some .readZone ∧
                      next =
                        readZone bdev (rcs.getD 0 0)
                          { test with waits := test.waits - 1 }) := by
  cases event with
  | start outcome rcs =>
      simp only [step] at taken
      split at taken
      · rename_i unstarted
        exact Or.inl
          ⟨outcome, rcs, rfl, unstarted, (Option.some.inj taken).symm⟩
      · cases taken
  | resetDone slba success rcs =>
      simp only [step] at taken
      split at taken
      · rename_i flying
        right
        left
        exact
          ⟨slba, success, rcs, rfl, flying, (Option.some.inj taken).symm⟩
      · cases taken
  | appendDone slba success rc =>
      simp only [step] at taken
      split at taken
      · rename_i flying
        right
        right
        left
        exact
          ⟨slba, success, rc, rfl, flying, (Option.some.inj taken).symm⟩
      · cases taken
  | readDone lba success data rc =>
      simp only [step] at taken
      split at taken
      · rename_i flying
        right
        right
        right
        left
        exact
          ⟨lba, success, data, rc, rfl, flying,
            (Option.some.inj taken).symm⟩
      · cases taken
  | callBack rcs =>
      simp only [step] at taken
      split at taken
      · cases taken
      · rename_i waiting
        right
        right
        right
        right
        split at taken
        · cases taken
        · rename_i registered
          left
          exact
            ⟨rcs, rfl, waiting, registered, (Option.some.inj taken).symm⟩
        · rename_i registered
          right
          exact
            ⟨rcs, rfl, waiting, registered, (Option.some.inj taken).symm⟩

/-! ## The loops in closed form -/

/-- The targets of the accepted calls. -/
def accepted (attempted : List (UInt64 × Int)) : List UInt64 :=
  (attempted.filter fun attempt => attempt.2 = 0).map Prod.fst

/-- The calls of one iteration, with the release when it fails. -/
def attemptCalls (command : UInt64 → Command) (fails : Int → Bool)
    (attempt : UInt64 × Int) : List Call :=
  .submit (command attempt.1) attempt.2 ::
    if fails attempt.2 then
      [.putIoChannel, .bdevClose, .appStop (-1)]
    else
      []

/-- The return codes on which `reset_zone` stops the test. -/
def resetFails (rc : Int) : Bool := rc ≠ -enomem && rc ≠ 0

/-- The return codes on which `write_zone` stops the test. -/
def appendFails (rc : Int) : Bool := rc ≠ 0

/-- The calls of a loop that queue a wait. -/
def queued (attempted : List (UInt64 × Int)) : Nat :=
  attempted.countP fun attempt => attempt.2 = -enomem

@[simp]
theorem queued_cons (slba : UInt64) (rc : Int)
    (rest : List (UInt64 × Int)) :
    queued ((slba, rc) :: rest) =
      queued rest + if rc = -enomem then 1 else 0 := by
  by_cases full : rc = -enomem <;> simp [queued, full]

theorem foldl_tryReset (attempted : List (UInt64 × Int)) (test : RwTest) :
    attempted.foldl tryReset test =
      { test with
        calls :=
          test.calls ++ attempted.flatMap (attemptCalls .reset resetFails)
        inFlight := test.inFlight ++ (accepted attempted).map .reset
        waits := test.waits + queued attempted
        bdevIoWait :=
          if queued attempted = 0 then
            test.bdevIoWait
          else
            some .resetZone } := by
  induction attempted generalizing test with
  | nil => simp [accepted, queued]
  | cons attempt rest induction =>
      rcases attempt with ⟨slba, rc⟩
      rw [List.foldl_cons, induction, queued_cons]
      by_cases full : rc = -enomem
      · subst rc
        have nonzero : -enomem ≠ 0 := by decide
        simp [tryReset, submit, queueIoWait, attemptCalls, resetFails,
          accepted, nonzero]
        omega
      · by_cases zero : rc = 0
        · subst rc
          simp [tryReset, submit, attemptCalls, resetFails, accepted, full]
        · simp [tryReset, submit, release, attemptCalls, resetFails,
            accepted, zero, full]

theorem foldl_tryAppend (attempted : List (UInt64 × Int)) (test : RwTest) :
    attempted.foldl tryAppend test =
      { test with
        calls :=
          test.calls ++
            attempted.flatMap (attemptCalls .append appendFails)
        inFlight := test.inFlight ++ (accepted attempted).map .append } := by
  induction attempted generalizing test with
  | nil => simp [accepted]
  | cons attempt rest induction =>
      rw [List.foldl_cons, induction]
      rcases attempt with ⟨slba, rc⟩
      by_cases zero : rc = 0
      · simp [tryAppend, submit, attemptCalls, appendFails, accepted, zero]
      · simp [tryAppend, submit, release, attemptCalls, appendFails,
          accepted, zero]

theorem resetZone_eq (bdev : Bdev) (rcs : List Int) (test : RwTest) :
    resetZone bdev rcs test =
      { test with
        count := 10
        calls :=
          test.calls ++
            .resetZone ::
              (resetAttempts bdev rcs).flatMap
                (attemptCalls .reset resetFails)
        inFlight :=
          test.inFlight ++
            (accepted (resetAttempts bdev rcs)).map .reset
        waits := test.waits + queued (resetAttempts bdev rcs)
        bdevIoWait :=
          if queued (resetAttempts bdev rcs) = 0 then
            test.bdevIoWait
          else
            some .resetZone } := by
  rw [resetZone, foldl_tryReset, List.append_assoc, List.singleton_append]

theorem writeZone_eq (bdev : Bdev) (rcs : List Int) (test : RwTest) :
    writeZone bdev rcs test =
      { test with
        count := 4 * 0x100
        writeBuff := List.replicate bdev.buffSize 0x12
        calls :=
          test.calls ++
            .writeZone ::
              (appendAttempts bdev rcs).flatMap
                (attemptCalls .append appendFails)
        inFlight :=
          test.inFlight ++
            (accepted (appendAttempts bdev rcs)).map .append } := by
  rw [writeZone, foldl_tryAppend, List.append_assoc, List.singleton_append]

/-- What a call made by one of the two loops can be. -/
theorem mem_pass
    {command : UInt64 → Command} {fails : Int → Bool}
    {before : List Call} {entered call : Call}
    {attempted : List (UInt64 × Int)}
    (member :
      call ∈
        before ++
          entered :: attempted.flatMap (attemptCalls command fails)) :
    call ∈ before ∨
      call = entered ∨
        (∃ slba rc, call = .submit (command slba) rc) ∨
          call = .putIoChannel ∨
            call = .bdevClose ∨ call = .appStop (-1) := by
  rcases List.mem_append.mp member with old | new
  · exact Or.inl old
  · rcases List.mem_cons.mp new with equal | looped
    · exact Or.inr (Or.inl equal)
    · rcases List.mem_flatMap.mp looped with ⟨⟨slba, rc⟩, _, called⟩
      rw [attemptCalls] at called
      rcases List.mem_cons.mp called with submitted | released
      · exact Or.inr (Or.inr (Or.inl ⟨slba, rc, submitted⟩))
      · split at released
        · simp only [List.mem_cons, List.not_mem_nil, or_false] at released
          exact Or.inr (Or.inr (Or.inr released))
        · cases released

/-! ## The targets of the loops -/

/-- The first block of a zone. -/
def zoneStart (bdev : Bdev) (zone : Nat) : UInt64 :=
  UInt64.ofNat zone * bdev.zoneSize

/-- The ten zones of the test lie in the 64-bit address space. -/
structure TenZones (bdev : Bdev) : Prop where
  positive : 0 < bdev.zoneSize.toNat
  noWrap : 10 * bdev.zoneSize.toNat < 2 ^ 64

/-- Zones of 256 blocks of one byte. -/
def smallZones : Bdev := ⟨256, 1, 1⟩

theorem tenZones_smallZones : TenZones smallZones :=
  ⟨by decide, by decide⟩

theorem TenZones.toNat_zoneStart
    {bdev : Bdev} (ten : TenZones bdev) {zone : Nat} (inside : zone ≤ 10) :
    (zoneStart bdev zone).toNat = zone * bdev.zoneSize.toNat := by
  have small : zone % 2 ^ 64 = zone := Nat.mod_eq_of_lt (by omega)
  have bound : zone * bdev.zoneSize.toNat < 2 ^ 64 :=
    lt_of_le_of_lt (Nat.mul_le_mul_right _ inside) ten.noWrap
  rw [zoneStart, UInt64.toNat_mul, UInt64.toNat_ofNat', small,
    Nat.mod_eq_of_lt bound]

/-- Without wrapping, the loop visits the first zones one by one. -/
theorem TenZones.zoneStarts_eq
    {bdev : Bdev} (ten : TenZones bdev) {zoneNum : Nat}
    (few : zoneNum ≤ 10) :
    zoneStarts zoneNum bdev.zoneSize =
      (List.range zoneNum).map (zoneStart bdev) := by
  apply List.takeWhile_eq_self_iff.mpr
  intro slba member
  rcases List.mem_map.mp member with ⟨zone, inside, rfl⟩
  rw [List.mem_range] at inside
  have before := ten.toNat_zoneStart (by omega : zone ≤ 10)
  have after := ten.toNat_zoneStart few
  rw [zoneStart] at before after
  rw [decide_eq_true_eq, UInt64.lt_iff_toNat_lt, before, after]
  exact Nat.mul_lt_mul_of_pos_right inside ten.positive

theorem TenZones.zoneStart_inj
    {bdev : Bdev} (ten : TenZones bdev) {zone other : Nat}
    (inside : zone ≤ 10) (bounded : other ≤ 10)
    (equal : zoneStart bdev zone = zoneStart bdev other) :
    zone = other := by
  have products := congrArg UInt64.toNat equal
  rw [ten.toNat_zoneStart inside, ten.toNat_zoneStart bounded] at products
  exact Nat.eq_of_mul_eq_mul_right ten.positive products

@[simp]
theorem length_attempts (targets : List UInt64) (rcs : List Int) :
    (attempts targets rcs).length = targets.length := by
  simp [attempts]

@[simp]
theorem map_fst_attempts (targets : List UInt64) (rcs : List Int) :
    (attempts targets rcs).map Prod.fst = targets := by
  rw [attempts, List.map_map]
  exact List.zipIdx_map_fst 0 targets

/-- A return value is one of those given, or zero. -/
theorem getD_eq_or_mem (rcs : List Int) (index : Nat) :
    rcs.getD index 0 = 0 ∨ rcs.getD index 0 ∈ rcs := by
  rw [List.getD_eq_getElem?_getD]
  cases found : rcs[index]? with
  | none => exact Or.inl rfl
  | some rc => exact Or.inr (List.mem_of_getElem? found)

theorem mem_attempts
    {targets : List UInt64} {rcs : List Int} {attempt : UInt64 × Int}
    (member : attempt ∈ attempts targets rcs) :
    attempt.2 = 0 ∨ attempt.2 ∈ rcs := by
  rcases List.mem_map.mp member with ⟨target, _, rfl⟩
  exact getD_eq_or_mem rcs target.2

/-- When nothing fails, every call is accepted or queued. -/
theorem length_accepted_add_queued
    {attempted : List (UInt64 × Int)}
    (benign :
      ∀ attempt ∈ attempted, attempt.2 = 0 ∨ attempt.2 = -enomem) :
    (accepted attempted).length + queued attempted = attempted.length := by
  rw [accepted, queued, List.length_map, ← List.countP_eq_length_filter,
    List.length_eq_countP_add_countP (fun attempt => attempt.2 = 0)]
  congr 1
  apply List.countP_congr
  intro attempt member
  rcases benign attempt member with zero | full
  · simp [zero, enomem]
  · simp [full, enomem]

/-- When no call is queued, all of them are accepted. -/
theorem accepted_eq_map_fst
    {attempted : List (UInt64 × Int)}
    (zero : ∀ attempt ∈ attempted, attempt.2 = 0) :
    accepted attempted = attempted.map Prod.fst := by
  rw [accepted, List.filter_eq_self.mpr]
  intro attempt member
  simpa using zero attempt member

/-- The targets of `write_zone`: each of four zones 256 times. -/
def appendTargets (bdev : Bdev) : List UInt64 :=
  (List.range 4).flatMap fun zone =>
    List.replicate 0x100 (zoneStart bdev zone)

@[simp]
theorem length_appendTargets (bdev : Bdev) :
    (appendTargets bdev).length = 1024 := by
  rw [appendTargets, List.length_flatMap]
  simp only [List.length_replicate]
  rfl

theorem TenZones.appendAttempts_eq
    {bdev : Bdev} (ten : TenZones bdev) (rcs : List Int) :
    appendAttempts bdev rcs = attempts (appendTargets bdev) rcs := by
  rw [appendAttempts, ten.zoneStarts_eq (by omega), List.flatMap_map]
  rfl

/-- When nothing fails, the whole of `write_zone` is accepted. -/
theorem TenZones.accepted_appendAttempts
    {bdev : Bdev} (ten : TenZones bdev) {rcs : List Int}
    (zero : ∀ rc ∈ rcs, rc = 0) :
    accepted (appendAttempts bdev rcs) = appendTargets bdev := by
  rw [ten.appendAttempts_eq, accepted_eq_map_fst, map_fst_attempts]
  intro attempt member
  rcases mem_attempts member with accept | given
  · exact accept
  · exact zero _ given

theorem TenZones.resetAttempts_eq
    {bdev : Bdev} (ten : TenZones bdev) (rcs : List Int) :
    resetAttempts bdev rcs =
      attempts ((List.range 10).map (zoneStart bdev)) rcs := by
  rw [resetAttempts, ten.zoneStarts_eq (le_refl _)]

/-! ## Commands that complete -/

/-- A command in flight stays there or is the one that finishes. -/
theorem finished_or_inFlight
    {test : RwTest} {command : Command} (settled : Command)
    (known : command ∈ test.finished ∨ command ∈ test.inFlight) :
    command ∈ (settle settled true test).finished ∨
      command ∈ (settle settled true test).inFlight := by
  by_cases same : command = settled
  · left
    simp [settle, same]
  · rcases known with old | flying
    · left
      simp [settle, old]
    · right
      exact (List.mem_erase_of_ne same).mpr flying

theorem length_inFlight_settle
    {test : RwTest} {command : Command}
    (flying : command ∈ test.inFlight) (success : Bool) :
    (settle command success test).inFlight.length + 1 =
      test.inFlight.length :=
  List.length_erase_add_one flying

/-- A completed reset counts down; the last one enters `write_zone`. -/
theorem resetZoneComplete_eq
    {test : RwTest} {number : Nat} (small : number < 2 ^ 31)
    (counted : test.count = Int32.ofNat (number + 1))
    (bdev : Bdev) (rcs : List Int) :
    resetZoneComplete bdev true rcs test =
      if number = 0 then
        writeZone bdev rcs { test with count := Int32.ofNat number }
      else
        { test with count := Int32.ofNat number } := by
  have zero : Int32.ofNat number = 0 ↔ number = 0 :=
    ofNat_eq_ofNat_iff small (Nat.two_pow_pos 31)
  simp only [resetZoneComplete, if_true, counted, ofNat_succ_sub_one, zero]

/-- A completed append counts down; the last one enters `read_zone`. -/
theorem writeZoneComplete_eq
    {test : RwTest} {number : Nat} (small : number < 2 ^ 31)
    (counted : test.count = Int32.ofNat (number + 1))
    (bdev : Bdev) (rc : Int) :
    writeZoneComplete bdev true rc test =
      if number = 0 then
        readZone bdev rc { test with count := Int32.ofNat number }
      else
        { test with count := Int32.ofNat number } := by
  have zero : Int32.ofNat number = 0 ↔ number = 0 :=
    ofNat_eq_ofNat_iff small (Nat.two_pow_pos 31)
  simp only [writeZoneComplete, if_true, counted, ofNat_succ_sub_one, zero]

/-! ## When every call is accepted -/

@[simp]
theorem attempts_nil (targets : List UInt64) :
    attempts targets [] = targets.map fun target => (target, 0) := by
  have targetsOnly :
      targets = targets.zipIdx.map Prod.fst :=
    (List.zipIdx_map_fst 0 targets).symm
  nth_rewrite 2 [targetsOnly]
  rw [attempts, List.map_map]
  rfl

theorem loop_accepted
    {command : UInt64 → Command} {fails : Int → Bool}
    (succeeds : fails 0 = false) (targets : List UInt64) :
    (attempts targets []).flatMap (attemptCalls command fails) =
      targets.map fun target => .submit (command target) 0 := by
  rw [attempts_nil, List.flatMap_map, List.map_eq_flatMap]
  simp [attemptCalls, succeeds]

/-- `reset_zone` with ten accepted resets. -/
theorem TenZones.resetZone_accepted
    {bdev : Bdev} (ten : TenZones bdev) (test : RwTest) :
    resetZone bdev [] test =
      { test with
        count := 10
        calls :=
          test.calls ++
            .resetZone ::
              ((List.range 10).map (zoneStart bdev)).map fun slba =>
                .submit (.reset slba) 0
        inFlight :=
          test.inFlight ++
            ((List.range 10).map (zoneStart bdev)).map .reset } := by
  have none : queued (resetAttempts bdev []) = 0 := by
    rw [ten.resetAttempts_eq, attempts_nil, queued, List.countP_eq_zero]
    intro attempt member
    rcases List.mem_map.mp member with ⟨target, _, rfl⟩
    simp [enomem]
  have all :
      accepted (resetAttempts bdev []) =
        (List.range 10).map (zoneStart bdev) := by
    rw [ten.resetAttempts_eq, accepted_eq_map_fst, map_fst_attempts]
    intro attempt member
    rcases mem_attempts member with accept | given
    · exact accept
    · cases given
  rw [resetZone_eq, none, all, ten.resetAttempts_eq,
    loop_accepted (by decide), if_pos rfl, Nat.add_zero]

/-- `write_zone` with 1024 accepted appends. -/
theorem TenZones.writeZone_accepted
    {bdev : Bdev} (ten : TenZones bdev) (test : RwTest) :
    writeZone bdev [] test =
      { test with
        count := 4 * 0x100
        writeBuff := List.replicate bdev.buffSize 0x12
        calls :=
          test.calls ++
            .writeZone ::
              (appendTargets bdev).map fun slba => .submit (.append slba) 0
        inFlight := test.inFlight ++ (appendTargets bdev).map .append } := by
  have all : accepted (appendAttempts bdev []) = appendTargets bdev := by
    apply ten.accepted_appendAttempts
    intro rc given
    cases given
  rw [writeZone_eq, all, ten.appendAttempts_eq, loop_accepted (by decide)]

end ZnsBench.ZoneTest.ReadWriteTest

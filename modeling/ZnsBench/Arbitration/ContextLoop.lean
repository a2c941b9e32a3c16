import ZnsBench.Core.GuardedRun
import ZnsBench.Multipath.NamespaceRegistration
import ZnsBench.Multipath.SpdkInterface

/-!
# One context of the arbitration benchmarks

`arbitration.cc`, `arbitration_write.cc`, `arbitration_append.cc` and
`measurement.cc` run the same loop over a context: `submit_io` fills the
queue, every completion submits one more I/O until the context drains, and
`offset_in_ios` walks over the namespace or is drawn at random.  They differ
in the command they build from the offset, in where the write pointer comes
from, and in whether they take the time; this is the `Program` here.

The task pool is shared with the other contexts of all workers, so whether it
has a task left is decided outside a context, like the return code of a
submission, the value of `rand_r` and the time.  All of this is in the
`Outcome` of one call of `submit_single_io`.

The state holds what the program holds and logs that no definition reads
back.  In particular the source keeps no time in a task; `startedAt` and
`finishedAt` observe when an I/O was submitted and completed.
-/

namespace ZnsBench.Arbitration.ContextLoop

open ZnsBench.Core.ByteString
open ZnsBench.Core.GuardedRun
open ZnsBench.Multipath.NamespaceRegistration
open ZnsBench.Multipath.SpdkInterface

/-! ## Programs -/

/-- What a task submits. -/
inductive Operation where
  | read
  | write
  | zoneAppend
  deriving DecidableEq, Repr

/-- A command over a range of blocks; the buffer is that of its task. -/
structure IoCommand where
  operation : Operation
  lba : UInt64
  lbaCount : UInt32
  deriving DecidableEq, Repr

/-- A zone of the report, inside the 64-bit block addresses. -/
structure ZoneDesc where
  zslba : UInt64
  zcap : UInt64
  wp : UInt64
  inside : zslba.toNat + zcap.toNat < 2 ^ 64

/-- The block after the last one of a zone. -/
def ZoneDesc.endBlock (zone : ZoneDesc) : Nat :=
  zone.zslba.toNat + zone.zcap.toNat

/-- What one of the benchmarks does in its own way. -/
structure Program where
  /-- Whether `is_random` is looked at. -/
  usesRandom : Bool
  /-- Whether the time of submissions and completions is recorded. -/
  stamps : Bool
  /-- The `wp` that `init_ns_worker_ctx` leaves in the context. -/
  writePointer : List ZoneDesc → UInt64
  /-- The command for a write pointer and an offset. -/
  command : NsEntry → UInt64 → UInt64 → IoCommand

/-- The configuration, the registered namespace and its zone report. -/
structure Setup where
  arbitration : ArbContext
  entry : NsEntry
  report : List ZoneDesc

/-- Whether offsets are drawn; not every program looks at the option. -/
def isRandom (program : Program) (setup : Setup) : Bool :=
  program.usesRandom && setup.arbitration.isRandom

/-! ## State -/

/-- `struct arb_task`: its buffer and `stime`. -/
structure ArbTask where
  buf : Bytes
  startedAt : Int
  deriving DecidableEq, Repr

/-- `ns_worker_ctx`; the members a program does not have stay as they are. -/
structure NsWorkerCtx where
  ioCompleted : UInt64
  currentQueueDepth : UInt64
  offsetInIos : UInt64
  isDraining : Bool
  wp : UInt64
  stimes : List Int
  etimes : List Int
  deriving DecidableEq, Repr

/-- The environment of one call of `submit_single_io`. -/
structure Outcome where
  /-- Whether the pool has a task. -/
  hasTask : Bool
  /-- Whether `spdk_dma_zmalloc` returns a buffer. -/
  allocated : Bool
  rc : Int
  draw : UInt32
  now : Int
  deriving DecidableEq, Repr

/-- One command handed to SPDK. -/
structure Issue where
  task : ArbTask
  offset : UInt64
  command : IoCommand
  outcome : Outcome
  deriving DecidableEq, Repr

/-- A completed task and the reading of the clock in its callback. -/
structure Finish where
  task : ArbTask
  finishedAt : Int
  deriving DecidableEq, Repr

/-- The state of one namespace-worker context and its tasks. -/
structure Loop where
  ctx : NsWorkerCtx
  inFlight : List ArbTask
  /-- Iterations of the loop in `submit_io` that are still to run. -/
  submitsLeft : Nat
  issued : List Issue
  finished : List Finish
  /-- The readings of the clock, in the order in which they were taken. -/
  readings : List Int
  deriving DecidableEq, Repr

/-! ## Submission -/

/-- The offset of one I/O, and `offset_in_ios` after the choice. -/
def chooseOffset (program : Program) (setup : Setup) (draw : UInt32)
    (offsetInIos : UInt64) : UInt64 × UInt64 :=
  if isRandom program setup then
    (draw.toUInt64 % setup.entry.sizeInIos, offsetInIos)
  else if offsetInIos + 1 = setup.entry.sizeInIos then
    (offsetInIos, 0)
  else
    (offsetInIos, offsetInIos + 1)

/-- The task, the offset and the command of the next submission. -/
def nextIssue (program : Program) (setup : Setup) (outcome : Outcome)
    (ctx : NsWorkerCtx) : Issue :=
  let offset := (chooseOffset program setup outcome.draw ctx.offsetInIos).1
  { task :=
      ⟨List.replicate setup.arbitration.ioSizeBytes.toNat 0, outcome.now⟩
    offset := offset
    command := program.command setup.entry ctx.wp offset
    outcome := outcome }

/-- The times that a program records of one reading of the clock. -/
def stamp (program : Program) (now : Int) : List Int :=
  if program.stamps then [now] else []

/--
`submit_single_io` from the choice of the offset on: the start is recorded
before the submission, and a rejected submission is only reported.
-/
def startIo (program : Program) (setup : Setup) (outcome : Outcome)
    (state : Loop) : Loop :=
  let issue := nextIssue program setup outcome state.ctx
  { state with
    ctx :=
      { state.ctx with
        offsetInIos :=
          (chooseOffset program setup outcome.draw state.ctx.offsetInIos).2
        stimes := state.ctx.stimes ++ stamp program outcome.now
        currentQueueDepth :=
          if outcome.rc ≠ 0 then
            state.ctx.currentQueueDepth
          else
            state.ctx.currentQueueDepth + 1 }
    inFlight :=
      if outcome.rc ≠ 0 then
        state.inFlight
      else
        state.inFlight ++ [issue.task]
    issued := state.issued ++ [issue]
    readings := state.readings ++ stamp program outcome.now }

/-- `submit_single_io`, which ends the process when it has no task or buffer. -/
def submitSingleIo (program : Program) (setup : Setup) (outcome : Outcome)
    (state : Loop) : Except Exit Loop :=
  if outcome.hasTask then
    if outcome.allocated then
      .ok (startIo program setup outcome state)
    else
      .error .bufferAllocationFailed
  else
    .error .taskPoolEmpty

/-! ## Completion -/

/-- `task_complete` up to the decision whether to submit again. -/
def retire (program : Program) (index : Nat) (task : ArbTask) (now : Int)
    (state : Loop) : Loop :=
  { state with
    ctx :=
      { state.ctx with
        currentQueueDepth := state.ctx.currentQueueDepth - 1
        ioCompleted := state.ctx.ioCompleted + 1
        etimes := state.ctx.etimes ++ stamp program now }
    inFlight := state.inFlight.eraseIdx index
    finished := state.finished ++ [⟨task, now⟩]
    readings := state.readings ++ stamp program now }

/-- `task_complete`: the task is given back and, before draining, replaced. -/
def taskComplete (program : Program) (setup : Setup) (outcome : Outcome)
    (index : Nat) (task : ArbTask) (now : Int) (state : Loop) :
    Except Exit Loop :=
  let retired := retire program index task now state
  if retired.ctx.isDraining then
    .ok retired
  else
    submitSingleIo program setup outcome retired

/-! ## Runs -/

/-- The context after `memset` and `init_ns_worker_ctx`. -/
def initNsWorkerCtx (program : Program) (setup : Setup) : NsWorkerCtx where
  ioCompleted := 0
  currentQueueDepth := 0
  offsetInIos := 0
  isDraining := false
  wp := program.writePointer setup.report
  stimes := []
  etimes := []

/-- The context before `submit_io`. -/
def initial (program : Program) (setup : Setup) : Loop where
  ctx := initNsWorkerCtx program setup
  inFlight := []
  submitsLeft := setup.arbitration.submitIterations
  issued := []
  finished := []
  readings := []

/-- The turns of `work_fn` for one context. -/
inductive Event where
  /-- One iteration of the loop in `submit_io`. -/
  | submit (outcome : Outcome)
  /-- `check_io` delivers a completion of one of the tasks in flight. -/
  | complete (index : Nat) (now : Int) (outcome : Outcome)
  /-- `drain_io` sets `is_draining`. -/
  | drain
  deriving DecidableEq, Repr

/-- The reaction to an event; `none` when the event cannot happen now. -/
def react (program : Program) (setup : Setup) (state : Loop) :
    Event → Option (Except Exit Loop)
  | .submit outcome =>
      if state.submitsLeft = 0 then
        none
      else
        some
          (submitSingleIo program setup outcome
            { state with submitsLeft := state.submitsLeft - 1 })
  | .complete index now outcome =>
      if state.submitsLeft = 0 then
        state.inFlight[index]?.map fun task =>
          taskComplete program setup outcome index task now state
      else
        none
  | .drain =>
      if state.submitsLeft = 0 then
        some
          (.ok { state with ctx := { state.ctx with isDraining := true } })
      else
        none

/-- A step of the context; nothing steps on after `exit(1)`. -/
def step (program : Program) (setup : Setup) (state : Loop)
    (event : Event) : Option Loop :=
  match react program setup state event with
  | some (.ok next) => some next
  | _ => none

/-- The states of runs without any restriction. -/
def Reachable (program : Program) (setup : Setup) (state : Loop) : Prop :=
  Run (step program setup) Unrestricted (initial program setup) state

/-- `drain_io` has returned. -/
def Drained (state : Loop) : Prop :=
  state.ctx.isDraining = true ∧ state.ctx.currentQueueDepth = 0

instance : DecidablePred Drained := fun state =>
  inferInstanceAs
    (Decidable
      (state.ctx.isDraining = true ∧ state.ctx.currentQueueDepth = 0))

/-! ## What one step can do -/

theorem submitSingleIo_ok
    {program : Program} {setup : Setup} {outcome : Outcome}
    {state next : Loop}
    (submitted : submitSingleIo program setup outcome state = .ok next) :
    next = startIo program setup outcome state := by
  unfold submitSingleIo at submitted
  split at submitted
  · split at submitted
    · cases submitted
      rfl
    · cases submitted
  · cases submitted

/-- A step submits an I/O, retires one, does both in this order, or drains. -/
theorem step_cases
    {program : Program} {setup : Setup} {state next : Loop} {event : Event}
    (taken : step program setup state event = some next) :
    (∃ outcome,
      state.submitsLeft ≠ 0 ∧
        next =
          startIo program setup outcome
            { state with submitsLeft := state.submitsLeft - 1 }) ∨
      (∃ index task now,
        state.submitsLeft = 0 ∧
          state.inFlight[index]? = some task ∧
            (next = retire program index task now state ∨
              ∃ outcome,
                next =
                  startIo program setup outcome
                    (retire program index task now state))) ∨
        (state.submitsLeft = 0 ∧
          next =
            { state with ctx := { state.ctx with isDraining := true } }) := by
  unfold step at taken
  split at taken
  · rename_i reached reaction
    cases taken
    cases event with
    | submit outcome =>
        left
        simp only [react] at reaction
        split at reaction
        · cases reaction
        · rename_i remaining
          exact
            ⟨outcome, remaining,
              submitSingleIo_ok (Option.some.inj reaction)⟩
    | complete index now outcome =>
        right
        left
        simp only [react] at reaction
        split at reaction
        · rename_i submitted
          rcases Option.map_eq_some_iff.mp reaction with
            ⟨task, found, completed⟩
          refine ⟨index, task, now, submitted, found, ?_⟩
          simp only [taskComplete] at completed
          split at completed
          · cases completed
            exact Or.inl rfl
          · exact Or.inr ⟨outcome, submitSingleIo_ok completed⟩
        · cases reaction
    | drain =>
        right
        right
        simp only [react] at reaction
        split at reaction
        · rename_i submitted
          cases reaction
          exact ⟨submitted, rfl⟩
        · cases reaction
  · cases taken

/--
The invariant rule of the loop: it is enough to look at one submission, one
retirement and the draining flag.
-/
theorem Reachable.preserves
    {program : Program} {setup : Setup} {state : Loop}
    (Invariant : Loop → Prop)
    (reachable : Reachable program setup state)
    (initially : Invariant (initial program setup))
    (submits :
      ∀ before outcome,
        Invariant before →
          Invariant (startIo program setup outcome before))
    (retires :
      ∀ before index task now,
        before.inFlight[index]? = some task →
          Invariant before →
            Invariant (retire program index task now before))
    (frame :
      ∀ before left draining,
        Invariant before →
          Invariant
            { before with
              submitsLeft := left
              ctx := { before.ctx with isDraining := draining } }) :
    Invariant state := by
  apply Run.preserves reachable initially
  intro before event next holds _ taken
  rcases step_cases taken with
    ⟨outcome, _, rfl⟩ |
      ⟨index, task, now, _, found, rfl | ⟨outcome, rfl⟩⟩ | ⟨_, rfl⟩
  · exact
      submits _ outcome
        (frame before (before.submitsLeft - 1) before.ctx.isDraining holds)
  · exact retires before index task now found holds
  · exact
      submits _ outcome (retires before index task now found holds)
  · exact frame before before.submitsLeft true holds

/-! ## The benchmarks -/

/-- `arbitration.cc`: reads over the whole namespace. -/
def arbitration : Program where
  usesRandom := true
  stamps := false
  writePointer _ := 0
  command entry _ offset :=
    ⟨.read, offset * entry.ioSizeBlocks.toUInt64, entry.ioSizeBlocks⟩

/-- `current_zone` of `arbitration_write.cc`. -/
def currentZone : Nat := 6

/--
`arbitration_write.cc`: writes from the write pointer of a fixed zone on.  A
zone the device does not report is zero in the report.
-/
def arbitrationWrite : Program where
  usesRandom := true
  stamps := false
  writePointer report := (report[currentZone]?.map ZoneDesc.wp).getD 0
  command entry wp offset :=
    ⟨.write, wp + offset * entry.ioSizeBlocks.toUInt64, entry.ioSizeBlocks⟩

/-- `arbitration_append.cc`: timed appends to zone 17. -/
def arbitrationAppend : Program where
  usesRandom := true
  stamps := true
  writePointer _ := 0
  command entry _ _ := ⟨.zoneAppend, 0x80000 * 17, entry.ioSizeBlocks⟩

/-- `arbitration_read.cc`: timed reads over the whole namespace. -/
def arbitrationRead : Program where
  usesRandom := true
  stamps := true
  writePointer _ := 0
  command entry _ offset :=
    ⟨.read, offset * entry.ioSizeBlocks.toUInt64, entry.ioSizeBlocks⟩

/-- `arbitration_rdma.cc`: the reads of `arbitration.cc`. -/
def arbitrationRdma : Program where
  usesRandom := true
  stamps := false
  writePointer _ := 0
  command entry _ offset :=
    ⟨.read, offset * entry.ioSizeBlocks.toUInt64, entry.ioSizeBlocks⟩

/-- `arbitration_rdma_append.cc`: timed appends to zone 27. -/
def arbitrationRdmaAppend : Program where
  usesRandom := true
  stamps := true
  writePointer _ := 0
  command entry _ _ := ⟨.zoneAppend, 0x80000 * 27, entry.ioSizeBlocks⟩

/-- `arbitration_rdma_read.cc`: the reads of `arbitration_read.cc`. -/
def arbitrationRdmaRead : Program where
  usesRandom := true
  stamps := true
  writePointer _ := 0
  command entry _ offset :=
    ⟨.read, offset * entry.ioSizeBlocks.toUInt64, entry.ioSizeBlocks⟩

/-- `measurement.cc`: timed reads, always sequential. -/
def measurement : Program where
  usesRandom := false
  stamps := true
  writePointer _ := 0
  command entry _ offset :=
    ⟨.read, offset * entry.ioSizeBlocks.toUInt64, entry.ioSizeBlocks⟩

end ZnsBench.Arbitration.ContextLoop

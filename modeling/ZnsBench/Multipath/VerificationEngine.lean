import ZnsBench.Core.GuardedRun
import ZnsBench.Multipath.NamespaceRegistration
import ZnsBench.Multipath.SpdkInterface

/-!
# The append-then-read verifier of `verification.cc`

One `ns_worker_ctx` keeps up to `queue_depth` commands in flight.  Every
completed append queues its LBA and pattern in `pending_reads`; while the
context is not draining, each completion submits one new command, a verify
read when an append waits and the depth allows it, else the next append.

The state holds what the program holds, the tasks currently in flight, and
two observation logs that no definition reads back: every command handed to
SPDK and every completion delivered.  Tasks keep the stale fields of their
last use while they lie in the pool, as the objects of the source do.

The context begins with an empty `pending_reads`.  This is an assumption: the
source gets the context from `malloc` and zeroes it with `memset`, and no
constructor of its `std::queue` member ever runs, so that what the first push
does is up to the library.
-/

namespace ZnsBench.Multipath.VerificationEngine

open ZnsBench.Core.ByteString
open ZnsBench.Core.GuardedRun
open ZnsBench.Multipath.NamespaceRegistration
open ZnsBench.Multipath.SpdkInterface

/-! ## State -/

/-- `arb_task`; the context pointer is left out, there is one context. -/
structure ArbTask where
  buf : Option Bytes
  readBuf : Option Bytes
  lba : UInt64
  verificationMode : Bool
  expectedData : Bytes
  deriving DecidableEq, Repr

/-- `ns_worker_ctx`, without its queue pair. -/
structure NsWorkerCtx where
  ioCompleted : UInt64
  currentQueueDepth : UInt64
  offsetInIos : UInt64
  isDraining : Bool
  count : UInt64
  writeCompleted : UInt64
  readCompleted : UInt64
  verificationPassed : UInt64
  verificationFailed : UInt64
  pendingReads : List (UInt64 × Bytes)
  deriving DecidableEq, Repr

/-- One call of an SPDK submission function. -/
structure Issue where
  task : ArbTask
  command : Command
  rc : Int
  deriving DecidableEq, Repr

/-- One delivered completion, with the draining flag it met. -/
structure Finish where
  task : ArbTask
  completion : Completion
  draining : Bool
  deriving DecidableEq, Repr

/-- The state of one namespace-worker context and its tasks. -/
structure Verifier where
  ctx : NsWorkerCtx
  taskPool : List ArbTask
  inFlight : List ArbTask
  startingLba : Bool
  /-- Iterations of the loop in `submit_io` that are still to run. -/
  submitsLeft : Nat
  issued : List Issue
  finished : List Finish
  deriving DecidableEq, Repr

/-- The registered namespace and the configuration of a run. -/
structure Setup where
  arbitration : ArbContext
  entry : NsEntry
  deriving DecidableEq, Repr

/-! ## Submission -/

/-- The pattern an append writes for a counter value. -/
def dataPattern (count : UInt64) : Bytes :=
  ascii "zstore1:" ++ decimal count.toNat ++
    (ascii ":pattern:" ++ decimal (count * 0xDEADBEEF).toNat)

/-- The buffer of an append: the pattern in a zero-filled block. -/
def block (setup : Setup) (text : Bytes) : Bytes :=
  snprintfText setup.arbitration.ioSizeBytes.toNat text

/-- Zone 0 of zones of `0x80000` blocks. -/
def zslba : UInt64 := 0x80000 * 0

/--
The offset bookkeeping of an append.  With a random workload the source draws
an offset that it does not use.
-/
def advanceOffset (setup : Setup) (ctx : NsWorkerCtx) : NsWorkerCtx :=
  if setup.arbitration.isRandom then
    ctx
  else if ctx.offsetInIos + 1 = setup.entry.sizeInIos then
    { ctx with offsetInIos := 0 }
  else
    { ctx with offsetInIos := ctx.offsetInIos + 1 }

theorem advanceOffset_eq (setup : Setup) (ctx : NsWorkerCtx) :
    ∃ offset,
      advanceOffset setup ctx = { ctx with offsetInIos := offset } := by
  unfold advanceOffset
  split
  · exact ⟨ctx.offsetInIos, rfl⟩
  · split
    · exact ⟨0, rfl⟩
    · exact ⟨ctx.offsetInIos + 1, rfl⟩

/-- The common tail of `submit_single_io`, from the submission on. -/
def startIo (rc : Int) (task : ArbTask) (command : Command)
    (state : Verifier) : Verifier :=
  if rc ≠ 0 then
    { state with
      issued := state.issued ++ [⟨task, command, rc⟩]
      taskPool := task :: state.taskPool }
  else
    { state with
      issued := state.issued ++ [⟨task, command, rc⟩]
      inFlight := state.inFlight ++ [task]
      ctx :=
        { state.ctx with
          currentQueueDepth := state.ctx.currentQueueDepth + 1 } }

/-- The task of a verify read, over the stale object from the pool. -/
def readTask (setup : Setup) (stale : ArbTask) (verifyLba : UInt64)
    (expectedData : Bytes) : ArbTask :=
  { stale with
    verificationMode := true
    buf := none
    lba := verifyLba
    expectedData := expectedData
    readBuf :=
      some (List.replicate setup.arbitration.ioSizeBytes.toNat 0) }

/-- The task of an append; its `lba` stays stale until the completion. -/
def appendTask (setup : Setup) (stale : ArbTask) (count : UInt64) :
    ArbTask :=
  { stale with
    verificationMode := false
    readBuf := none
    buf := some (block setup (dataPattern count))
    expectedData := dataPattern count }

/-- What `submit_single_io` is asked for. -/
inductive Request where
  | verifyRead (verifyLba : UInt64) (expectedData : Bytes)
  | append
  deriving DecidableEq, Repr

/-- `submit_single_io`, with an append or a verifying read. -/
def submitSingleIo (setup : Setup) (outcome : SubmitOutcome)
    (request : Request) (state : Verifier) : Except Exit Verifier :=
  match mempoolGet outcome.slot state.taskPool with
  | none => .error .taskPoolEmpty
  | some (stale, pool) =>
      if outcome.allocated then
        match request with
        | .verifyRead verifyLba expectedData =>
            .ok
              (startIo outcome.rc
                (readTask setup stale verifyLba expectedData)
                (.read verifyLba setup.entry.ioSizeBlocks)
                { state with taskPool := pool })
        | .append =>
            .ok
              (startIo outcome.rc
                (appendTask setup stale state.ctx.count)
                (.zoneAppend zslba setup.entry.ioSizeBlocks
                  (block setup (dataPattern state.ctx.count)))
                { state with
                  taskPool := pool
                  ctx :=
                    advanceOffset setup
                      { state.ctx with count := state.ctx.count + 1 } })
      else
        .error .bufferAllocationFailed

/-! ## Completion -/

/-- The comparison of `task_complete`, on the memory behind `read_buf`. -/
def dataMatches (memory expectedData : Bytes) : Bool :=
  let compareLen := min expectedData.length 50
  (cString memory).take compareLen == expectedData.take compareLen

/-- The counters of `task_complete`, and the queueing of a verification. -/
def recordCompletion (task : ArbTask) (adjacent : Bytes)
    (ctx : NsWorkerCtx) : NsWorkerCtx :=
  let counted :=
    { ctx with
      currentQueueDepth := ctx.currentQueueDepth - 1
      ioCompleted := ctx.ioCompleted + 1 }
  if task.verificationMode then
    if dataMatches (task.readBuf.getD [] ++ adjacent) task.expectedData then
      { counted with
        readCompleted := ctx.readCompleted + 1
        verificationPassed := ctx.verificationPassed + 1 }
    else
      { counted with
        readCompleted := ctx.readCompleted + 1
        verificationFailed := ctx.verificationFailed + 1 }
  else
    { counted with
      writeCompleted := ctx.writeCompleted + 1
      pendingReads := ctx.pendingReads ++ [(task.lba, task.expectedData)] }

/-- The end of `task_complete`: keep the queue filled unless draining. -/
def refill (setup : Setup) (outcome : SubmitOutcome) (state : Verifier) :
    Except Exit Verifier :=
  if state.ctx.isDraining then
    .ok state
  else
    match state.ctx.pendingReads with
    | (verifyLba, expectedData) :: rest =>
        if state.ctx.currentQueueDepth < setup.arbitration.depthLimit then
          submitSingleIo setup outcome (.verifyRead verifyLba expectedData)
            { state with ctx := { state.ctx with pendingReads := rest } }
        else
          submitSingleIo setup outcome .append state
    | [] => submitSingleIo setup outcome .append state

/-- `task_complete` -/
def taskComplete (setup : Setup) (outcome : SubmitOutcome)
    (adjacent : Bytes) (task : ArbTask) (state : Verifier) :
    Except Exit Verifier :=
  refill setup outcome
    { state with
      ctx := recordCompletion task adjacent state.ctx
      taskPool := task :: state.taskPool }

/-- The fields a completion sets in the task it completes. -/
def deliver (completion : Completion) (task : ArbTask) : ArbTask :=
  if task.verificationMode then
    { task with readBuf := some completion.payload }
  else
    { task with lba := completion.cdw0.toUInt64 }

/-- `io_complete` -/
def ioComplete (setup : Setup) (outcome : SubmitOutcome)
    (completion : Completion) (task : ArbTask) (state : Verifier) :
    Except Exit Verifier :=
  taskComplete setup outcome completion.adjacent (deliver completion task)
    { state with
      startingLba := state.startingLba || !task.verificationMode
      finished :=
        state.finished ++
          [⟨deliver completion task, completion, state.ctx.isDraining⟩] }

/-! ## Runs of one worker -/

/-- The context after `memset` and `init_ns_worker_ctx`. -/
def initNsWorkerCtx : NsWorkerCtx where
  ioCompleted := 0
  currentQueueDepth := 0
  offsetInIos := 0
  isDraining := false
  count := 0
  writeCompleted := 0
  readCompleted := 0
  verificationPassed := 0
  verificationFailed := 0
  pendingReads := []

/-- The state in which `work_fn` enters `submit_io`. -/
def initial (setup : Setup) (taskPool : List ArbTask) : Verifier where
  ctx := initNsWorkerCtx
  taskPool := taskPool
  inFlight := []
  startingLba := false
  submitsLeft := setup.arbitration.submitIterations
  issued := []
  finished := []

/-- What happens between two states of a worker. -/
inductive Event where
  /-- One iteration of the loop in `submit_io`. -/
  | submit (outcome : SubmitOutcome)
  /-- `check_io` delivers a completion of one of the tasks in flight. -/
  | complete (index : Nat) (completion : Completion)
      (outcome : SubmitOutcome)
  /-- `drain_io` sets `is_draining`. -/
  | drain
  deriving DecidableEq, Repr

/-- The reaction to an event; `none` when the event cannot happen now. -/
def react (setup : Setup) (state : Verifier) :
    Event → Option (Except Exit Verifier)
  | .submit outcome =>
      if state.submitsLeft = 0 then
        none
      else
        some
          (submitSingleIo setup outcome .append
            { state with submitsLeft := state.submitsLeft - 1 })
  | .complete index completion outcome =>
      if state.submitsLeft = 0 then
        state.inFlight[index]?.map fun task =>
          ioComplete setup outcome completion task
            { state with inFlight := state.inFlight.eraseIdx index }
      else
        none
  | .drain =>
      if state.submitsLeft = 0 then
        some
          (.ok { state with ctx := { state.ctx with isDraining := true } })
      else
        none

/-- A step of the worker; the process does not step on after `exit(1)`. -/
def step (setup : Setup) (state : Verifier) (event : Event) :
    Option Verifier :=
  match react setup state event with
  | some (.ok next) => some next
  | _ => none

/-- The states a worker reaches when the environment meets an assumption. -/
def Reachable (setup : Setup) (taskPool : List ArbTask)
    (allowed : Verifier → Event → Prop) (state : Verifier) : Prop :=
  Run (step setup) allowed (initial setup taskPool) state

/-- `drain_io` has returned. -/
def Drained (state : Verifier) : Prop :=
  state.ctx.isDraining = true ∧ state.ctx.currentQueueDepth = 0

instance : DecidablePred Drained := fun state =>
  inferInstanceAs
    (Decidable
      (state.ctx.isDraining = true ∧ state.ctx.currentQueueDepth = 0))

/-- The message of `cleanup` about a pool that is not whole. -/
def cleanup (taskPool : List ArbTask) (taskCount : UInt32) :
    Option String :=
  if taskPool.length ≠ taskCount.toNat then
    some
      ("task_pool count is " ++ toString taskPool.length ++
        " but should be " ++ toString taskCount.toNat ++ "\n")
  else
    none

/-- A setup with one I/O of one block of 512 bytes in flight. -/
def oneDeep : Setup where
  arbitration := ⟨1, 512, false, 1, 1⟩
  entry := ⟨1, 1024⟩

/-- A task as the zeroed memory of the pool shows it. -/
def idleTask : ArbTask := ⟨none, none, 0, false, []⟩

/-! ## What one step can do -/

/-- The state a completion leaves behind before the queue is refilled. -/
def settle (completion : Completion) (index : Nat) (task : ArbTask)
    (state : Verifier) : Verifier :=
  { state with
    inFlight := state.inFlight.eraseIdx index
    startingLba := state.startingLba || !task.verificationMode
    finished :=
      state.finished ++
        [⟨deliver completion task, completion, state.ctx.isDraining⟩]
    ctx :=
      recordCompletion (deliver completion task) completion.adjacent state.ctx
    taskPool := deliver completion task :: state.taskPool }

@[simp]
theorem deliver_verificationMode
    (completion : Completion) (task : ArbTask) :
    (deliver completion task).verificationMode =
      task.verificationMode := by
  rw [deliver]
  split
  · rfl
  · rfl

@[simp]
theorem deliver_expectedData
    (completion : Completion) (task : ArbTask) :
    (deliver completion task).expectedData = task.expectedData := by
  rw [deliver]
  split
  · rfl
  · rfl

section Settle

variable
    (completion : Completion) (index : Nat) (task : ArbTask)
    (state : Verifier)

/-- A completed read changes the read counters and one verdict. -/
theorem ctx_settle_read (mode : task.verificationMode = true) :
    (settle completion index task state).ctx =
      { state.ctx with
        currentQueueDepth := state.ctx.currentQueueDepth - 1
        ioCompleted := state.ctx.ioCompleted + 1
        readCompleted := state.ctx.readCompleted + 1
        verificationPassed :=
          if dataMatches
              ((deliver completion task).readBuf.getD [] ++
                completion.adjacent)
              task.expectedData then
            state.ctx.verificationPassed + 1
          else
            state.ctx.verificationPassed
        verificationFailed :=
          if dataMatches
              ((deliver completion task).readBuf.getD [] ++
                completion.adjacent)
              task.expectedData then
            state.ctx.verificationFailed
          else
            state.ctx.verificationFailed + 1 } := by
  simp only [settle, recordCompletion, deliver_verificationMode, mode,
    if_true, deliver_expectedData]
  split
  · rfl
  · rfl

/-- A completed append is counted and queued for reading back. -/
theorem ctx_settle_append (mode : task.verificationMode = false) :
    (settle completion index task state).ctx =
      { state.ctx with
        currentQueueDepth := state.ctx.currentQueueDepth - 1
        ioCompleted := state.ctx.ioCompleted + 1
        writeCompleted := state.ctx.writeCompleted + 1
        pendingReads :=
          state.ctx.pendingReads ++
            [((deliver completion task).lba, task.expectedData)] } := by
  simp only [settle, recordCompletion, deliver_verificationMode, mode,
    Bool.false_eq_true, if_false, deliver_expectedData]

@[simp]
theorem currentQueueDepth_settle :
    (settle completion index task state).ctx.currentQueueDepth =
      state.ctx.currentQueueDepth - 1 := by
  cases mode : task.verificationMode with
  | true => rw [ctx_settle_read _ _ _ _ mode]
  | false => rw [ctx_settle_append _ _ _ _ mode]

@[simp]
theorem isDraining_settle :
    (settle completion index task state).ctx.isDraining =
      state.ctx.isDraining := by
  cases mode : task.verificationMode with
  | true => rw [ctx_settle_read _ _ _ _ mode]
  | false => rw [ctx_settle_append _ _ _ _ mode]

@[simp]
theorem ioCompleted_settle :
    (settle completion index task state).ctx.ioCompleted =
      state.ctx.ioCompleted + 1 := by
  cases mode : task.verificationMode with
  | true => rw [ctx_settle_read _ _ _ _ mode]
  | false => rw [ctx_settle_append _ _ _ _ mode]

@[simp]
theorem readCompleted_settle :
    (settle completion index task state).ctx.readCompleted =
      state.ctx.readCompleted +
        if task.verificationMode then 1 else 0 := by
  cases mode : task.verificationMode with
  | true =>
      rw [ctx_settle_read _ _ _ _ mode]
      simp
  | false =>
      rw [ctx_settle_append _ _ _ _ mode]
      simp

@[simp]
theorem writeCompleted_settle :
    (settle completion index task state).ctx.writeCompleted =
      state.ctx.writeCompleted +
        if task.verificationMode then 0 else 1 := by
  cases mode : task.verificationMode with
  | true =>
      rw [ctx_settle_read _ _ _ _ mode]
      simp
  | false =>
      rw [ctx_settle_append _ _ _ _ mode]
      simp

end Settle

/-- Every step is a loop iteration of `submit_io`, a completion or a drain. -/
theorem step_cases
    {setup : Setup} {state next : Verifier} {event : Event}
    (taken : step setup state event = some next) :
    (∃ outcome,
      event = .submit outcome ∧
        state.submitsLeft ≠ 0 ∧
          submitSingleIo setup outcome .append
              { state with submitsLeft := state.submitsLeft - 1 } =
            .ok next) ∨
      (∃ index completion outcome task,
        event = .complete index completion outcome ∧
          state.submitsLeft = 0 ∧
            state.inFlight[index]? = some task ∧
              refill setup outcome (settle completion index task state) =
                .ok next) ∨
        (event = .drain ∧
          state.submitsLeft = 0 ∧
            next =
              { state with ctx := { state.ctx with isDraining := true } }) := by
  unfold step at taken
  split at taken
  · rename_i reached reaction
    cases taken
    cases event with
    | submit outcome =>
        left
        simp only [react] at reaction
        split at reaction
        · cases reaction
        · rename_i remaining
          exact ⟨outcome, rfl, remaining, Option.some.inj reaction⟩
    | complete index completion outcome =>
        right
        left
        simp only [react] at reaction
        split at reaction
        · rename_i submitted
          rcases Option.map_eq_some_iff.mp reaction with
            ⟨task, found, completed⟩
          exact
            ⟨index, completion, outcome, task, rfl, submitted, found,
              completed⟩
        · cases reaction
    | drain =>
        right
        right
        simp only [react] at reaction
        split at reaction
        · rename_i submitted
          cases reaction
          exact ⟨rfl, submitted, rfl⟩
        · cases reaction
  · cases taken

/-- A completion settles its task and refills. -/
theorem refill_of_complete
    {setup : Setup} {state next : Verifier} {index : Nat}
    {completion : Completion} {outcome : SubmitOutcome} {task : ArbTask}
    (found : state.inFlight[index]? = some task)
    (taken :
      step setup state (.complete index completion outcome) = some next) :
    refill setup outcome (settle completion index task state) =
      .ok next := by
  rcases step_cases taken with
    ⟨_, event, _⟩ |
      ⟨place, result, choice, completed, event, _, inFlight, refilled⟩ |
        ⟨event, _⟩
  · cases event
  · cases event
    rw [found, Option.some.injEq] at inFlight
    subst completed
    exact refilled
  · cases event

/-- A submission that returns took a task from the pool and started it. -/
theorem submitSingleIo_append_ok
    {setup : Setup} {outcome : SubmitOutcome} {state next : Verifier}
    (submitted : submitSingleIo setup outcome .append state = .ok next) :
    ∃ stale pool,
      mempoolGet outcome.slot state.taskPool = some (stale, pool) ∧
        next =
          startIo outcome.rc (appendTask setup stale state.ctx.count)
            (.zoneAppend zslba setup.entry.ioSizeBlocks
              (block setup (dataPattern state.ctx.count)))
            { state with
              taskPool := pool
              ctx :=
                advanceOffset setup
                  { state.ctx with count := state.ctx.count + 1 } } := by
  unfold submitSingleIo at submitted
  split at submitted
  · cases submitted
  · rename_i stale pool taken
    split at submitted
    · cases submitted
      exact ⟨stale, pool, taken, rfl⟩
    · cases submitted

theorem submitSingleIo_verifyRead_ok
    {setup : Setup} {outcome : SubmitOutcome} {state next : Verifier}
    {verifyLba : UInt64} {expectedData : Bytes}
    (submitted :
      submitSingleIo setup outcome (.verifyRead verifyLba expectedData)
        state = .ok next) :
    ∃ stale pool,
      mempoolGet outcome.slot state.taskPool = some (stale, pool) ∧
        next =
          startIo outcome.rc
            (readTask setup stale verifyLba expectedData)
            (.read verifyLba setup.entry.ioSizeBlocks)
            { state with taskPool := pool } := by
  unfold submitSingleIo at submitted
  split at submitted
  · cases submitted
  · rename_i stale pool taken
    split at submitted
    · cases submitted
      exact ⟨stale, pool, taken, rfl⟩
    · cases submitted

/-- Only an empty pool makes a submission report one. -/
theorem taskPool_eq_nil_of_submitSingleIo
    {setup : Setup} {outcome : SubmitOutcome} {request : Request}
    {state : Verifier}
    (failed :
      submitSingleIo setup outcome request state = .error .taskPoolEmpty) :
    state.taskPool = [] := by
  unfold submitSingleIo at failed
  split at failed
  · rename_i nothing
    exact mempoolGet_eq_none_iff.mp nothing
  · split at failed
    · cases request <;> cases failed
    · cases failed

/-- The refill is idle while draining, else a verify read or an append. -/
theorem refill_cases
    {setup : Setup} {outcome : SubmitOutcome} {state : Verifier}
    {result : Except Exit Verifier}
    (refilled : refill setup outcome state = result) :
    (state.ctx.isDraining = true ∧ result = .ok state) ∨
      (∃ verifyLba expectedData rest,
        state.ctx.isDraining = false ∧
          state.ctx.pendingReads = (verifyLba, expectedData) :: rest ∧
            state.ctx.currentQueueDepth < setup.arbitration.depthLimit ∧
              submitSingleIo setup outcome
                  (.verifyRead verifyLba expectedData)
                  { state with
                    ctx := { state.ctx with pendingReads := rest } } =
                result) ∨
        (state.ctx.isDraining = false ∧
          (state.ctx.pendingReads = [] ∨
            ¬ state.ctx.currentQueueDepth <
              setup.arbitration.depthLimit) ∧
            submitSingleIo setup outcome .append state = result) := by
  unfold refill at refilled
  split at refilled
  · rename_i draining
    exact Or.inl ⟨draining, refilled.symm⟩
  · rename_i notDraining
    rw [Bool.not_eq_true] at notDraining
    right
    split at refilled
    · rename_i verifyLba expectedData rest pending
      split at refilled
      · rename_i below
        exact
          Or.inl
            ⟨verifyLba, expectedData, rest, notDraining, pending, below,
              refilled⟩
      · rename_i full
        exact Or.inr ⟨notDraining, Or.inr full, refilled⟩
    · rename_i empty
      exact Or.inr ⟨notDraining, Or.inl empty, refilled⟩

/-- While draining a completion submits nothing. -/
theorem eq_settle_of_draining
    {setup : Setup} {outcome : SubmitOutcome} {state next : Verifier}
    {index : Nat} {task : ArbTask} {completion : Completion}
    (draining : state.ctx.isDraining = true)
    (refilled :
      refill setup outcome (settle completion index task state) =
        .ok next) :
    next = settle completion index task state := by
  have stillDraining := isDraining_settle completion index task state
  rw [draining] at stillDraining
  rcases refill_cases refilled with
    ⟨_, idle⟩ | ⟨_, _, _, notDraining, _⟩ | ⟨notDraining, _⟩
  · cases idle
    rfl
  · rw [stillDraining] at notDraining
    cases notDraining
  · rw [stillDraining] at notDraining
    cases notDraining

end ZnsBench.Multipath.VerificationEngine

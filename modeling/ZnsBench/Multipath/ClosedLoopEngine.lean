import ZnsBench.Core.GuardedRun
import ZnsBench.Multipath.NamespaceRegistration
import ZnsBench.Multipath.SpdkInterface

/-!
# The closed-loop benchmark engines

The benchmarks are copies of one loop: every context keeps `queue_depth`
commands in flight and replaces each completed command by a new one until it
drains.  The copies differ in the command they build and in what they write
into the buffer, which is the `Variant` here; any number of contexts share
one task pool.

Unlike the verifier, these engines return neither the task nor the buffer of
a submission that SPDK rejects.
-/

namespace ZnsBench.Multipath.ClosedLoopEngine

open ZnsBench.Core.ByteString
open ZnsBench.Core.GuardedRun
open ZnsBench.Multipath.NamespaceRegistration
open ZnsBench.Multipath.SpdkInterface

/-- What one copy of the loop does in its own way. -/
structure Variant where
  /-- The text printed into the buffer for a counter value. -/
  bufferText : UInt64 → Bytes
  /-- The command for a counter value, an offset and a buffer. -/
  command : NsEntry → UInt64 → UInt64 → Bytes → Command

/-- The contexts of a run and the namespace each of them works on. -/
structure Setup where
  arbitration : ArbContext
  contexts : Nat
  entry : Nat → NsEntry

/-! ## State -/

/-- `arb_task`, with the context it belongs to. -/
structure ArbTask where
  nsCtx : Nat
  buf : Bytes
  deriving DecidableEq, Repr

/-- `struct ns_worker_ctx`, with the fields that submission uses. -/
structure NsWorkerCtx where
  ioCompleted : UInt64
  currentQueueDepth : UInt64
  offsetInIos : UInt64
  isDraining : Bool
  count : UInt64
  deriving DecidableEq, Repr

/-- A completion delivered to the callback, with its task. -/
structure Finish where
  task : ArbTask
  completion : Completion
  deriving DecidableEq, Repr

/-- The contexts with the tasks that they share. -/
structure Bench where
  ctx : Nat → NsWorkerCtx
  taskPool : List ArbTask
  inFlight : List ArbTask
  /-- Iterations of the loop in `submit_io` still to run, by context. -/
  submitsLeft : Nat → Nat
  /-- Buffers allocated and not freed. -/
  liveBuffers : Nat
  issued : List (Nat × Command × Int)
  finished : List Finish

/-! ## Operations -/

/-- A zero-filled buffer with a text at its start. -/
def fillBuffer (size : Nat) (text : Bytes) : Bytes :=
  text ++ List.replicate (size - text.length) 0

/-- The offset of one I/O and the context after the choice. -/
def chooseOffset (setup : Setup) (index : Nat) (draw : UInt32)
    (ctx : NsWorkerCtx) : UInt64 × NsWorkerCtx :=
  if setup.arbitration.isRandom then
    (draw.toUInt64 % (setup.entry index).sizeInIos, ctx)
  else if ctx.offsetInIos + 1 = (setup.entry index).sizeInIos then
    (ctx.offsetInIos, { ctx with offsetInIos := 0 })
  else
    (ctx.offsetInIos, { ctx with offsetInIos := ctx.offsetInIos + 1 })

theorem chooseOffset_eq
    (setup : Setup) (index : Nat) (draw : UInt32) (ctx : NsWorkerCtx) :
    ∃ offset,
      (chooseOffset setup index draw ctx).2 =
        { ctx with offsetInIos := offset } := by
  unfold chooseOffset
  split
  · exact ⟨ctx.offsetInIos, rfl⟩
  · split
    · exact ⟨0, rfl⟩
    · exact ⟨ctx.offsetInIos + 1, rfl⟩

/-- The tail of `submit_single_io`: a rejected task is not given back. -/
def startIo (rc : Int) (task : ArbTask) (command : Command)
    (state : Bench) : Bench :=
  if rc ≠ 0 then
    { state with issued := state.issued ++ [(task.nsCtx, command, rc)] }
  else
    { state with
      issued := state.issued ++ [(task.nsCtx, command, rc)]
      inFlight := state.inFlight ++ [task]
      ctx :=
        Function.update state.ctx task.nsCtx
          { state.ctx task.nsCtx with
            currentQueueDepth :=
              (state.ctx task.nsCtx).currentQueueDepth + 1 } }

/-- `submit_single_io` for a context. -/
def submitSingleIo (variant : Variant) (setup : Setup)
    (outcome : SubmitOutcome) (index : Nat) (state : Bench) :
    Except Exit Bench :=
  match mempoolGet outcome.slot state.taskPool with
  | none => .error .taskPoolEmpty
  | some (_, pool) =>
      if outcome.allocated then
        let ctx := state.ctx index
        let buffer :=
          fillBuffer setup.arbitration.ioSizeBytes.toNat
            (variant.bufferText ctx.count)
        let chosen :=
          chooseOffset setup index outcome.draw
            { ctx with count := ctx.count + 1 }
        .ok
          (startIo outcome.rc ⟨index, buffer⟩
            (variant.command (setup.entry index) ctx.count chosen.1 buffer)
            { state with
              taskPool := pool
              liveBuffers := state.liveBuffers + 1
              ctx := Function.update state.ctx index chosen.2 })
      else
        .error .bufferAllocationFailed

/-- The state in which `task_complete` decides whether to submit again. -/
def retire (completion : Completion) (task : ArbTask) (state : Bench) :
    Bench :=
  { state with
    ctx :=
      Function.update state.ctx task.nsCtx
        { state.ctx task.nsCtx with
          currentQueueDepth :=
            (state.ctx task.nsCtx).currentQueueDepth - 1
          ioCompleted := (state.ctx task.nsCtx).ioCompleted + 1 }
    liveBuffers := state.liveBuffers - 1
    taskPool := task :: state.taskPool
    finished := state.finished ++ [⟨task, completion⟩] }

/-- `io_complete` and `task_complete`; no copy looks at the status. -/
def ioComplete (variant : Variant) (setup : Setup)
    (outcome : SubmitOutcome) (completion : Completion) (task : ArbTask)
    (state : Bench) : Except Exit Bench :=
  if ((retire completion task state).ctx task.nsCtx).isDraining then
    .ok (retire completion task state)
  else
    submitSingleIo variant setup outcome task.nsCtx
      (retire completion task state)

/-! ## Runs -/

/-- `init_ns_worker_ctx` -/
def initNsWorkerCtx : NsWorkerCtx := ⟨0, 0, 0, false, 0⟩

/-- The contexts before `submit_io`, with the tasks in the pool. -/
def initial (setup : Setup) (taskPool : List ArbTask) : Bench where
  ctx := fun _ => initNsWorkerCtx
  taskPool := taskPool
  inFlight := []
  submitsLeft := fun index =>
    if index < setup.contexts then
      setup.arbitration.submitIterations
    else
      0
  liveBuffers := 0
  issued := []
  finished := []

/-- The turns of the workers. -/
inductive Event where
  | submit (index : Nat) (outcome : SubmitOutcome)
  | complete (position : Nat) (completion : Completion)
      (outcome : SubmitOutcome)
  | drain (index : Nat)
  deriving DecidableEq, Repr

/--
The reaction to an event; `none` when the event cannot happen now.  The
contexts of one worker start polling only after all of them have submitted;
the steps here admit every interleaving of the contexts.
-/
def react (variant : Variant) (setup : Setup) (state : Bench) :
    Event → Option (Except Exit Bench)
  | .submit index outcome =>
      if state.submitsLeft index = 0 then
        none
      else
        some
          (submitSingleIo variant setup outcome index
            { state with
              submitsLeft :=
                Function.update state.submitsLeft index
                  (state.submitsLeft index - 1) })
  | .complete position completion outcome =>
      match state.inFlight[position]? with
      | none => none
      | some task =>
          if state.submitsLeft task.nsCtx = 0 then
            some
              (ioComplete variant setup outcome completion task
                { state with
                  inFlight := state.inFlight.eraseIdx position })
          else
            none
  | .drain index =>
      if state.submitsLeft index = 0 then
        some
          (.ok
            { state with
              ctx :=
                Function.update state.ctx index
                  { state.ctx index with isDraining := true } })
      else
        none

/-- A turn of a process that does not end. -/
def step (variant : Variant) (setup : Setup) (state : Bench)
    (event : Event) : Option Bench :=
  match react variant setup state event with
  | some (.ok next) => some next
  | _ => none

/-- The states of the runs whose turns are all allowed. -/
def Reachable (variant : Variant) (setup : Setup)
    (taskPool : List ArbTask) (allowed : Bench → Event → Prop)
    (state : Bench) : Prop :=
  Run (step variant setup) allowed (initial setup taskPool) state

/-! ## What one step can do -/

theorem step_cases
    {variant : Variant} {setup : Setup} {state next : Bench}
    {event : Event}
    (taken : step variant setup state event = some next) :
    (∃ index outcome,
      event = .submit index outcome ∧
        state.submitsLeft index ≠ 0 ∧
          submitSingleIo variant setup outcome index
              { state with
                submitsLeft :=
                  Function.update state.submitsLeft index
                    (state.submitsLeft index - 1) } =
            .ok next) ∨
      (∃ position completion outcome task,
        event = .complete position completion outcome ∧
          state.inFlight[position]? = some task ∧
            state.submitsLeft task.nsCtx = 0 ∧
              ioComplete variant setup outcome completion task
                  { state with
                    inFlight := state.inFlight.eraseIdx position } =
                .ok next) ∨
        (∃ index,
          event = .drain index ∧
            state.submitsLeft index = 0 ∧
              next =
                { state with
                  ctx :=
                    Function.update state.ctx index
                      { state.ctx index with isDraining := true } }) := by
  unfold step at taken
  split at taken
  · rename_i reached reaction
    cases taken
    cases event with
    | submit index outcome =>
        left
        simp only [react] at reaction
        split at reaction
        · cases reaction
        · rename_i remaining
          exact ⟨index, outcome, rfl, remaining, Option.some.inj reaction⟩
    | complete position completion outcome =>
        right
        left
        simp only [react] at reaction
        split at reaction
        · cases reaction
        · rename_i task found
          split at reaction
          · rename_i submitted
            exact
              ⟨position, completion, outcome, task, rfl, found, submitted,
                Option.some.inj reaction⟩
          · cases reaction
    | drain index =>
        right
        right
        simp only [react] at reaction
        split at reaction
        · rename_i submitted
          cases reaction
          exact ⟨index, rfl, submitted, rfl⟩
        · cases reaction
  · cases taken

/-- A submission that returns took a task and a buffer and started them. -/
theorem submitSingleIo_ok
    {variant : Variant} {setup : Setup} {outcome : SubmitOutcome}
    {index : Nat} {state next : Bench}
    (submitted :
      submitSingleIo variant setup outcome index state = .ok next) :
    ∃ stale pool chosen buffer offset,
      mempoolGet outcome.slot state.taskPool = some (stale, pool) ∧
        next =
          startIo outcome.rc ⟨index, buffer⟩
            (variant.command (setup.entry index) (state.ctx index).count
              chosen buffer)
            { state with
              taskPool := pool
              liveBuffers := state.liveBuffers + 1
              ctx :=
                Function.update state.ctx index
                  { state.ctx index with
                    count := (state.ctx index).count + 1
                    offsetInIos := offset } } := by
  rcases
      chooseOffset_eq setup index outcome.draw
        { state.ctx index with count := (state.ctx index).count + 1 } with
    ⟨offset, chosen⟩
  unfold submitSingleIo at submitted
  split at submitted
  · cases submitted
  · rename_i stale pool taken
    split at submitted
    · rw [Except.ok.injEq] at submitted
      rw [chosen] at submitted
      exact ⟨stale, pool, _, _, offset, taken, submitted.symm⟩
    · cases submitted

/-- Only an empty pool makes a submission report one. -/
theorem taskPool_eq_nil_of_submitSingleIo
    {variant : Variant} {setup : Setup} {outcome : SubmitOutcome}
    {index : Nat} {state : Bench}
    (failed :
      submitSingleIo variant setup outcome index state =
        .error .taskPoolEmpty) :
    state.taskPool = [] := by
  unfold submitSingleIo at failed
  split at failed
  · rename_i nothing
    exact mempoolGet_eq_none_iff.mp nothing
  · split at failed
    · cases failed
    · cases failed

/--
A submission changes no completion counter and delivers no completion.
-/
theorem submitSingleIo_frame
    {variant : Variant} {setup : Setup} {outcome : SubmitOutcome}
    {index : Nat} {state next : Bench}
    (submitted :
      submitSingleIo variant setup outcome index state = .ok next) :
    next.finished = state.finished ∧
      ∀ other,
        (next.ctx other).ioCompleted = (state.ctx other).ioCompleted := by
  rcases submitSingleIo_ok submitted with
    ⟨stale, pool, chosen, buffer, offset, _, rfl⟩
  constructor
  · unfold startIo
    split <;> rfl
  · intro other
    unfold startIo
    by_cases equal : other = index
    · subst other
      split <;> simp
    · split <;> simp [equal]

/-! ## The copies -/

/-- `mp_one_drive_append.cc`: append a numbered text to zone 0. -/
def mpOneDriveAppend : Variant where
  bufferText count := ascii "zstore1:" ++ decimal count.toNat
  command entry _ _ buffer :=
    .zoneAppend (0x80000 * 0) entry.ioSizeBlocks buffer

/-- `mp_one_drive_read.cc`: read zone 0 block by block. -/
def mpOneDriveRead : Variant where
  bufferText _ := []
  command entry count _ _ :=
    .read (0x80000 * 0 + count) entry.ioSizeBlocks

/-- `three_target_reads.cc`: the same reads, for other contexts. -/
def threeTargetReads : Variant where
  bufferText _ := []
  command entry count _ _ :=
    .read (0x80000 * 0 + count) entry.ioSizeBlocks

/-- `two_targets_read.cc`: the same reads again. -/
def twoTargetsRead : Variant where
  bufferText _ := []
  command entry count _ _ :=
    .read (0x80000 * 0 + count) entry.ioSizeBlocks

/-- `three_target_writes.cc`: append a zeroed buffer to zone 23. -/
def threeTargetWrites : Variant where
  bufferText _ := []
  command entry _ _ buffer :=
    .zoneAppend (0x80000 * 23) entry.ioSizeBlocks buffer

end ZnsBench.Multipath.ClosedLoopEngine

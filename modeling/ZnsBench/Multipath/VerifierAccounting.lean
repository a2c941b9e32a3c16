import ZnsBench.Multipath.VerificationEngine
import Mathlib.Algebra.Order.Ring.Int

/-!
# Resource accounting of the verifier

The queue depth counts the tasks in flight and stays within the configured
depth, the pool and the tasks in flight together are the whole pool, and the
completion counters add up.  These laws hold in every state of every run,
whatever the device and the submissions do; with a pool of at least
`queue_depth` tasks it follows that no submission finds the pool empty and
that a drained context has returned every task.
-/

namespace ZnsBench.Multipath.VerifierAccounting

open ZnsBench.Core.ByteString
open ZnsBench.Core.GuardedRun
open ZnsBench.Multipath.NamespaceRegistration
open ZnsBench.Multipath.SpdkInterface
open ZnsBench.Multipath.VerificationEngine

/-- The conservation laws, for a pool that held `total` tasks at the start. -/
structure Accounting (setup : Setup) (total : Nat) (state : Verifier) :
    Prop where
  depth : state.ctx.currentQueueDepth.toNat = state.inFlight.length
  bounded :
    state.inFlight.length + state.submitsLeft ≤
      setup.arbitration.submitIterations
  pool : state.taskPool.length + state.inFlight.length = total
  io :
    state.ctx.ioCompleted =
      state.ctx.writeCompleted + state.ctx.readCompleted
  reads :
    state.ctx.readCompleted =
      state.ctx.verificationPassed + state.ctx.verificationFailed
  draining : state.ctx.isDraining = true → state.submitsLeft = 0

theorem accounting_initial (setup : Setup) (taskPool : List ArbTask) :
    Accounting setup taskPool.length (initial setup taskPool) where
  depth := rfl
  bounded := by simp [initial]
  pool := by simp [initial]
  io := rfl
  reads := rfl
  draining := by
    intro draining
    cases draining

/-- The queue depth never reaches the range of `uint64_t`. -/
theorem Accounting.inFlight_lt
    {setup : Setup} {total : Nat} {state : Verifier}
    (accounting : Accounting setup total state) :
    state.inFlight.length < 2 ^ 31 := by
  have bounded := accounting.bounded
  have range := setup.arbitration.queueDepth.toInt_lt
  unfold ArbContext.submitIterations at bounded
  omega

/-- Starting a command keeps the laws when there is room for one more. -/
theorem Accounting.startIo
    {setup : Setup} {total : Nat} {state : Verifier} {pool : List ArbTask}
    {ctx : NsWorkerCtx}
    (accounting : Accounting setup total state)
    (room :
      state.inFlight.length + state.submitsLeft <
        setup.arbitration.submitIterations)
    (taken : pool.length + 1 = state.taskPool.length)
    (counters :
      ∃ offset count pending,
        ctx =
          { state.ctx with
            offsetInIos := offset
            count := count
            pendingReads := pending })
    (rc : Int) (task : ArbTask) (command : Command) :
    Accounting setup total
      (startIo rc task command
        { state with taskPool := pool, ctx := ctx }) := by
  rcases counters with ⟨offset, count, pending, rfl⟩
  unfold VerificationEngine.startIo
  split
  · exact
      { accounting with
        pool := by
          have conserved := accounting.pool
          simp only [List.length_cons]
          omega }
  · have small := accounting.inFlight_lt
    exact
      { depth := by
          simp only [List.length_append, List.length_cons, List.length_nil]
          rw [UInt64.toNat_add, accounting.depth]
          simp only [UInt64.toNat_one]
          omega
        bounded := by
          simp only [List.length_append, List.length_cons, List.length_nil]
          omega
        pool := by
          have conserved := accounting.pool
          simp only [List.length_append, List.length_cons, List.length_nil]
          omega
        io := accounting.io
        reads := accounting.reads
        draining := accounting.draining }

/-- A submission that returns keeps the laws when there is room for it. -/
theorem Accounting.submitSingleIo
    {setup : Setup} {total : Nat} {state next : Verifier}
    {outcome : SubmitOutcome} {request : Request}
    (accounting : Accounting setup total state)
    (room :
      state.inFlight.length + state.submitsLeft <
        setup.arbitration.submitIterations)
    (submitted :
      submitSingleIo setup outcome request state = .ok next) :
    Accounting setup total next := by
  cases request with
  | verifyRead verifyLba expectedData =>
      rcases submitSingleIo_verifyRead_ok submitted with
        ⟨stale, pool, taken, rfl⟩
      exact
        accounting.startIo room (length_of_mempoolGet taken)
          ⟨_, _, _, rfl⟩ _ _ _
  | append =>
      rcases submitSingleIo_append_ok submitted with
        ⟨stale, pool, taken, rfl⟩
      rcases
          advanceOffset_eq setup
            { state.ctx with count := state.ctx.count + 1 } with
        ⟨offset, advanced⟩
      exact
        accounting.startIo room (length_of_mempoolGet taken)
          ⟨offset, _, _, advanced⟩ _ _ _

/-- A completion moves one task back to the pool and counts it once. -/
theorem Accounting.settle
    {setup : Setup} {total : Nat} {state : Verifier}
    {index : Nat} {task : ArbTask}
    (accounting : Accounting setup total state)
    (found : state.inFlight[index]? = some task)
    (completion : Completion) :
    Accounting setup total (settle completion index task state) ∧
      (settle completion index task state).inFlight.length +
          (settle completion index task state).submitsLeft <
        setup.arbitration.submitIterations := by
  rcases List.getElem?_eq_some_iff.mp found with ⟨inside, _⟩
  have shorter :
      (state.inFlight.eraseIdx index).length + 1 =
        state.inFlight.length := by
    rw [List.length_eraseIdx_of_lt inside]
    omega
  have depth := accounting.depth
  have bounded := accounting.bounded
  have conserved := accounting.pool
  have lowered :
      (state.ctx.currentQueueDepth - 1).toNat =
        (state.inFlight.eraseIdx index).length := by
    rw [UInt64.toNat_sub_of_le]
    · rw [depth, UInt64.toNat_one]
      omega
    · rw [UInt64.le_iff_toNat_le, depth, UInt64.toNat_one]
      omega
  constructor
  · constructor
    · rw [currentQueueDepth_settle]
      exact lowered
    · dsimp only [VerificationEngine.settle]
      omega
    · dsimp only [VerificationEngine.settle, List.length_cons]
      omega
    · rw [ioCompleted_settle, writeCompleted_settle,
        readCompleted_settle, accounting.io]
      cases task.verificationMode with
      | true => grind
      | false => grind
    · have reads := accounting.reads
      cases mode : task.verificationMode with
      | true =>
          rw [ctx_settle_read _ _ _ _ mode]
          dsimp only
          split
          · rw [reads]
            grind
          · rw [reads]
            grind
      | false =>
          rw [ctx_settle_append _ _ _ _ mode]
          exact reads
    · rw [isDraining_settle]
      exact accounting.draining
  · dsimp only [VerificationEngine.settle]
    omega

/-- After a completion the depth is below its limit. -/
theorem Accounting.depth_settle_lt
    {setup : Setup} {total : Nat} {state : Verifier}
    {index : Nat} {task : ArbTask}
    (accounting : Accounting setup total state)
    (found : state.inFlight[index]? = some task)
    (completion : Completion) :
    (VerificationEngine.settle completion index task
        state).ctx.currentQueueDepth <
      setup.arbitration.depthLimit := by
  rcases accounting.settle found completion with ⟨settled, room⟩
  have depth := settled.depth
  have positive : 1 ≤ setup.arbitration.queueDepth.toInt := by
    unfold ArbContext.submitIterations at room
    omega
  rw [UInt64.lt_iff_toNat_lt, ArbContext.toNat_depthLimit positive]
  omega

/-- Every step keeps the laws. -/
theorem Accounting.step
    {setup : Setup} {total : Nat} {state next : Verifier} {event : Event}
    (accounting : Accounting setup total state)
    (taken : step setup state event = some next) :
    Accounting setup total next := by
  rcases step_cases taken with
    ⟨outcome, rfl, remaining, submitted⟩ |
      ⟨index, completion, outcome, task, rfl, done, found, refilled⟩ |
        ⟨rfl, done, rfl⟩
  · have bounded := accounting.bounded
    have started :
        Accounting setup total
          { state with submitsLeft := state.submitsLeft - 1 } :=
      { accounting with
        bounded := by
          dsimp only
          omega
        draining := by
          intro isDraining
          exact absurd (accounting.draining isDraining) remaining }
    apply started.submitSingleIo _ submitted
    dsimp only
    omega
  · rcases accounting.settle found completion with ⟨settled, room⟩
    rcases refill_cases refilled with
      ⟨_, idle⟩ | ⟨verifyLba, expectedData, rest, _, _, _, submitted⟩ |
        ⟨_, _, submitted⟩
    · cases idle
      exact settled
    · have popped :
          Accounting setup total
            { VerificationEngine.settle completion index task state with
              ctx :=
                { (VerificationEngine.settle completion index task
                    state).ctx with pendingReads := rest } } :=
        ⟨settled.depth, settled.bounded, settled.pool, settled.io,
          settled.reads, settled.draining⟩
      exact popped.submitSingleIo room submitted
    · exact settled.submitSingleIo room submitted
  · exact
      ⟨accounting.depth, accounting.bounded, accounting.pool,
        accounting.io, accounting.reads, fun _ => done⟩

/-- The laws hold in every state of every run. -/
theorem accounting_of_reachable
    {setup : Setup} {taskPool : List ArbTask}
    {allowed : Verifier → Event → Prop} {state : Verifier}
    (reachable : Reachable setup taskPool allowed state) :
    Accounting setup taskPool.length state :=
  reachable.preserves (accounting_initial setup taskPool)
    (fun _ _ _ accounting _ taken => accounting.step taken)

/-! ## Consequences for a pool of at least `queue_depth` tasks -/

/-- No submission of a run finds the pool empty. -/
theorem Accounting.react_ne_taskPoolEmpty
    {setup : Setup} {total : Nat} {state : Verifier}
    (accounting : Accounting setup total state)
    (enough : setup.arbitration.submitIterations ≤ total)
    (event : Event) :
    react setup state event ≠ some (.error .taskPoolEmpty) := by
  intro exited
  have bounded := accounting.bounded
  have conserved := accounting.pool
  cases event with
  | submit outcome =>
      simp only [react] at exited
      split at exited
      · cases exited
      · rename_i remaining
        have empty :=
          taskPool_eq_nil_of_submitSingleIo (Option.some.inj exited)
        rw [show state.taskPool = [] from empty, List.length_nil]
          at conserved
        omega
  | complete index completion outcome =>
      simp only [react] at exited
      split at exited
      · rcases Option.map_eq_some_iff.mp exited with
          ⟨task, found, failed⟩
        -- The completed task has just been returned to the pool.
        have nonempty :
            (VerificationEngine.settle completion index task
              state).taskPool ≠ [] :=
          List.cons_ne_nil _ _
        have refilled :
            refill setup outcome
                (VerificationEngine.settle completion index task state) =
              .error .taskPoolEmpty :=
          failed
        rcases refill_cases refilled with
          ⟨_, idle⟩ | ⟨verifyLba, expectedData, rest, _, _, _, submitted⟩ |
            ⟨_, _, submitted⟩
        · cases idle
        · have empty := taskPool_eq_nil_of_submitSingleIo submitted
          exact nonempty empty
        · exact nonempty (taskPool_eq_nil_of_submitSingleIo submitted)
      · cases exited
  | drain =>
      simp only [react] at exited
      split at exited <;> cases exited

/-- While draining, no step hands a command to SPDK. -/
theorem Accounting.issued_eq_of_draining
    {setup : Setup} {total : Nat} {state next : Verifier} {event : Event}
    (accounting : Accounting setup total state)
    (draining : state.ctx.isDraining = true)
    (taken : VerificationEngine.step setup state event = some next) :
    next.issued = state.issued ∧ next.ctx.isDraining = true := by
  rcases step_cases taken with
    ⟨outcome, rfl, remaining, submitted⟩ |
      ⟨index, completion, outcome, task, rfl, done, found, refilled⟩ |
        ⟨rfl, done, rfl⟩
  · exact absurd (accounting.draining draining) remaining
  · rw [eq_settle_of_draining draining refilled]
    refine ⟨rfl, ?_⟩
    rw [isDraining_settle]
    exact draining
  · exact ⟨rfl, rfl⟩

/-- A drained context has nothing in flight. -/
theorem Accounting.inFlight_eq_nil_of_drained
    {setup : Setup} {total : Nat} {state : Verifier}
    (accounting : Accounting setup total state)
    (drained : Drained state) :
    state.inFlight = [] := by
  have depth := accounting.depth
  rw [drained.2] at depth
  exact List.length_eq_zero_iff.mp depth.symm

/--
Resource accounting over every run of the verifier: completions succeed or
fail in any order, submissions fail in any pattern and draining starts at
any moment.
-/
theorem verifier_resource_accounting
    (setup : Setup) (taskPool : List ArbTask)
    (depth : 1 ≤ setup.arbitration.queueDepth.toInt)
    (namespaces : 1 ≤ setup.arbitration.numNamespaces.toInt)
    (noWrap :
      max setup.arbitration.numNamespaces.toInt
            setup.arbitration.numWorkers.toInt *
          setup.arbitration.queueDepth.toInt < 2 ^ 32)
    (poolSize : taskPool.length = (taskCount setup.arbitration).toNat)
    (state : Verifier)
    (reachable : Reachable setup taskPool Unrestricted state) :
    state.ctx.currentQueueDepth.toNat = state.inFlight.length ∧
      (state.inFlight.length : Int) ≤ setup.arbitration.queueDepth.toInt ∧
      state.taskPool.length + state.inFlight.length =
        (taskCount setup.arbitration).toNat ∧
      (∀ event,
        react setup state event ≠ some (.error .taskPoolEmpty)) ∧
      state.ctx.ioCompleted =
        state.ctx.writeCompleted + state.ctx.readCompleted ∧
      state.ctx.readCompleted =
        state.ctx.verificationPassed + state.ctx.verificationFailed ∧
      (state.ctx.isDraining = true →
        ∀ event next,
          VerificationEngine.step setup state event = some next →
            next.issued = state.issued ∧
              next.ctx.isDraining = true) ∧
      (Drained state →
        state.taskPool.length = (taskCount setup.arbitration).toNat ∧
          cleanup state.taskPool (taskCount setup.arbitration) = none) := by
  have accounting := accounting_of_reachable reachable
  have bounded := accounting.bounded
  have sized := toNat_taskCount namespaces depth noWrap
  have product :
      setup.arbitration.queueDepth.toInt ≤
        max setup.arbitration.numNamespaces.toInt
            setup.arbitration.numWorkers.toInt *
          setup.arbitration.queueDepth.toInt := by
    apply le_mul_of_one_le_left
    · omega
    · exact namespaces.trans (le_max_left _ _)
  unfold ArbContext.submitIterations at bounded
  have enough :
      setup.arbitration.submitIterations ≤ taskPool.length := by
    unfold ArbContext.submitIterations
    omega
  rw [poolSize] at accounting enough
  refine
    ⟨accounting.depth, by omega, accounting.pool,
      accounting.react_ne_taskPoolEmpty enough, accounting.io,
      accounting.reads,
      fun draining event next => accounting.issued_eq_of_draining draining,
      ?_⟩
  intro drained
  have returned := accounting.pool
  rw [accounting.inFlight_eq_nil_of_drained drained, List.length_nil,
    Nat.add_zero] at returned
  exact ⟨returned, by simp [cleanup, returned]⟩

/-- One append, submitted, completed while draining, and accounted for. -/
theorem verifier_resource_accounting_one_append :
    ∃ state,
      Reachable oneDeep [idleTask] Unrestricted state ∧
        Drained state ∧
          state.ctx.writeCompleted = 1 ∧
            cleanup state.taskPool (taskCount oneDeep.arbitration) =
              none := by
  have replayed :
      ∃ state,
        Reachable oneDeep [idleTask] Unrestricted state ∧
          Drained state ∧ state.ctx.writeCompleted = 1 :=
    Run.exists_of_replay _
      [.submit ⟨0, true, 0, 0⟩, .drain,
        .complete 0 ⟨false, 7, [], []⟩ ⟨0, true, 0, 0⟩]
      (by decide +kernel)
  rcases replayed with ⟨state, reached, drained, written⟩
  have accounted :=
    verifier_resource_accounting oneDeep [idleTask] (by decide)
      (by decide) (by decide) (by decide) state reached
  exact
    ⟨state, reached, drained, written,
      (accounted.2.2.2.2.2.2.2 drained).2⟩

end ZnsBench.Multipath.VerifierAccounting

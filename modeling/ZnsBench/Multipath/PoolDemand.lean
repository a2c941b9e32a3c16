import ZnsBench.Multipath.WorkerInterleaving

/-!
# Is the task pool large enough?

`main` sizes the pool by the larger of the numbers of namespaces and workers
times the queue depth, in 32-bit arithmetic.  `associate_workers_with_ns`
computes the same maximum and then overwrites it with the global `cnt`, so
the number of contexts that draw on the pool is `cnt` whatever was found.

Each context keeps `queue_depth` tasks out of the pool.  Some schedule of the
workers, with every submission accepted, finds the pool empty if and only if
`cnt * queue_depth` exceeds the size of the pool.
-/

namespace ZnsBench.Multipath.PoolDemand

open ZnsBench.Core.GuardedRun
open ZnsBench.Multipath.NamespaceRegistration
open ZnsBench.Multipath.SpdkInterface
open ZnsBench.Multipath.ClosedLoopEngine hiding Event react step Reachable
open ZnsBench.Multipath.WorkerInterleaving

/-! ## The contexts -/

/-- `TAILQ_NEXT` and, at the end of the list, `TAILQ_FIRST`. -/
def advance (length position : Nat) : Nat :=
  if position + 1 < length then position + 1 else 0

/-- The loop of `associate_workers_with_ns`, from some position on. -/
def associateFrom (workers : Nat) (namespaces : List NsEntry) :
    Nat → Nat → Nat → List (Nat × NsEntry)
  | 0, _, _ => []
  | remaining + 1, worker, position =>
      match namespaces[position]? with
      | none => []
      | some entry =>
          (worker, entry) ::
            associateFrom workers namespaces remaining
              (advance workers worker)
              (advance namespaces.length position)

/--
`associate_workers_with_ns`: the contexts in the order of their creation,
each with its worker and its namespace.  The maximum that the source computes
first is overwritten by `cnt`.
-/
def associateWorkersWithNs (cnt workers : Nat)
    (namespaces : List NsEntry) : List (Nat × NsEntry) :=
  associateFrom workers namespaces cnt 0 0

theorem advance_lt {length position : Nat} (inside : position < length) :
    advance length position < length := by
  unfold advance
  split
  · assumption
  · omega

theorem length_associateFrom
    {workers : Nat} {namespaces : List NsEntry}
    (remaining worker : Nat) {position : Nat}
    (inside : position < namespaces.length) :
    (associateFrom workers namespaces remaining worker position).length =
      remaining := by
  induction remaining generalizing worker position with
  | zero => rfl
  | succ remaining induction =>
      rw [associateFrom, List.getElem?_eq_getElem inside]
      simp only [List.length_cons]
      rw [induction _ (advance_lt inside)]

/-- With a namespace there are exactly `cnt` contexts. -/
theorem length_associateWorkersWithNs
    {namespaces : List NsEntry} (found : namespaces ≠ [])
    (cnt workers : Nat) :
    (associateWorkersWithNs cnt workers namespaces).length = cnt :=
  length_associateFrom cnt 0 (List.length_pos_iff.mpr found)

/-- The contexts that `main` launches the workers with. -/
def configure (cnt workers : Nat) (namespaces : List NsEntry)
    (arbitration : ArbContext) : Setup where
  arbitration := arbitration
  contexts := (associateWorkersWithNs cnt workers namespaces).length
  entry := fun index =>
    (((associateWorkersWithNs cnt workers namespaces)[index]?).map
      Prod.snd).getD ⟨0, 0⟩

/-- The worker that a context was given to. -/
def workerOf (cnt workers : Nat) (namespaces : List NsEntry)
    (index : Nat) : Nat :=
  (((associateWorkersWithNs cnt workers namespaces)[index]?).map
    Prod.fst).getD 0

/-! ## Schedules without submit failures -/

/--
The order in which `work_fn` treats the contexts of one worker: they submit
one after another, none of them is polled before all have submitted, and they
are drained one after another.
-/
def Scheduled (worker : Nat → Nat) (setup : Setup) (state : Bench) :
    Event → Prop
  | .submit index _ =>
      ∀ other < index,
        worker other = worker index → state.submitsLeft other = 0
  | .retire position _ =>
      ∀ task ∈ state.inFlight[position]?,
        ∀ other < setup.contexts,
          worker other = worker task.nsCtx → state.submitsLeft other = 0
  | .drain index =>
      (∀ other < setup.contexts,
        worker other = worker index → state.submitsLeft other = 0) ∧
        ∀ other < index,
          worker other = worker index →
            (state.ctx other).isDraining = true ∧
              (state.ctx other).currentQueueDepth = 0

/-- SPDK accepts every command. -/
def Accepted : Event → Prop
  | .submit _ outcome => outcome.rc = 0
  | _ => True

/-- Schedules of the workers in which no submission fails. -/
def WithoutFailures (worker : Nat → Nat) (setup : Setup) (state : Bench)
    (event : Event) : Prop :=
  Accepted event ∧ Scheduled worker setup state event

/-- No submission of any such schedule finds the pool empty. -/
def PoolSuffices (variant : Variant) (worker : Nat → Nat) (setup : Setup)
    (taskPool : List ArbTask) : Prop :=
  ∀ state,
    Reachable variant setup taskPool (WithoutFailures worker setup) state →
      ∀ event,
        WithoutFailures worker setup state event →
          react variant setup state event ≠
            some (.error .taskPoolEmpty)

/-! ## A schedule that takes all it can -/

/-- A context with a submission to make, and none before it. -/
theorem exists_first_owing
    {setup : Setup} {state : Bench}
    (pending : 0 < owed setup.contexts state.submitsLeft) :
    ∃ index,
      state.submitsLeft index ≠ 0 ∧
        ∀ other < index, state.submitsLeft other = 0 := by
  have some : ∃ index, state.submitsLeft index ≠ 0 := by
    by_contra none
    push Not at none
    have nothing : owed setup.contexts state.submitsLeft = 0 := by
      rw [owed]
      exact Finset.sum_eq_zero fun index _ => none index
    omega
  refine ⟨Nat.find some, Nat.find_spec some, ?_⟩
  intro other less
  by_contra owing
  exact Nat.find_min some less owing

/-- With a task in the pool and memory, a submission returns. -/
theorem exists_submitSingleIo
    (variant : Variant) (setup : Setup) (index : Nat) (state : Bench)
    (free : state.taskPool ≠ []) :
    ∃ next,
      submitSingleIo variant setup ⟨0, true, 0, 0⟩ index state =
        .ok next := by
  unfold submitSingleIo
  split
  · rename_i nothing
    exact absurd (mempoolGet_eq_none_iff.mp nothing) free
  · exact ⟨_, rfl⟩

/-- One more submission of the first context that owes one. -/
theorem exists_accepted_submit
    (variant : Variant) (worker : Nat → Nat) {setup : Setup}
    {total : Nat} {state : Bench}
    (conserved : Conserved setup total state)
    (free : state.taskPool ≠ [])
    (pending : 0 < owed setup.contexts state.submitsLeft) :
    ∃ event next,
      WithoutFailures worker setup state event ∧
        step variant setup state event = some next ∧
          next.taskPool.length + 1 = state.taskPool.length ∧
            owed setup.contexts next.submitsLeft + 1 =
              owed setup.contexts state.submitsLeft := by
  rcases exists_first_owing pending with ⟨index, remaining, none⟩
  rcases
      exists_submitSingleIo variant setup index
        { state with
          submitsLeft :=
            Function.update state.submitsLeft index
              (state.submitsLeft index - 1) }
        free with
    ⟨next, submitted⟩
  have effect := submits_of_submitSingleIo submitted
  have inside : index < setup.contexts := by
    by_contra outside
    exact remaining (conserved.idle _ (not_lt.mp outside))
  have fewer :=
    owed_update inside state.submitsLeft (state.submitsLeft index - 1)
  refine
    ⟨.submit index ⟨0, true, 0, 0⟩, next, ⟨rfl, ?_⟩, ?_, effect.pool, ?_⟩
  · intro other less _
    exact none other less
  · simp only [step, react, ClosedLoopEngine.react, if_neg remaining,
      submitted]
  · rw [effect.submitsLeft]
    dsimp only
    omega

/-- As long as tasks and demand last, the contexts can only submit. -/
theorem exists_run_of_submits
    (variant : Variant) (worker : Nat → Nat) (setup : Setup)
    (taskPool : List ArbTask) {taken : Nat}
    (tasks : taken ≤ taskPool.length)
    (demand :
      taken ≤ setup.contexts * setup.arbitration.submitIterations) :
    ∃ state,
      Reachable variant setup taskPool (WithoutFailures worker setup)
          state ∧
        state.taskPool.length + taken = taskPool.length ∧
          owed setup.contexts state.submitsLeft + taken =
            setup.contexts * setup.arbitration.submitIterations := by
  induction taken with
  | zero => exact ⟨_, .refl, rfl, owed_initial setup taskPool⟩
  | succ taken induction =>
      rcases induction (by omega) (by omega) with
        ⟨state, reached, pool, pending⟩
      have free : state.taskPool ≠ [] := by
        rw [ne_eq, ← List.length_eq_zero_iff]
        omega
      rcases
          exists_accepted_submit variant worker
            (conserved_of_reachable reached) free (by omega) with
        ⟨event, next, admitted, stepped, shorter, fewer⟩
      exact
        ⟨next, reached.tail admitted stepped, by omega, by omega⟩

/-- The pool suffices if and only if it meets the demand of all contexts. -/
theorem poolSuffices_iff
    (variant : Variant) (worker : Nat → Nat) (setup : Setup)
    (taskPool : List ArbTask) :
    PoolSuffices variant worker setup taskPool ↔
      setup.contexts * setup.arbitration.submitIterations ≤
        taskPool.length := by
  constructor
  · intro sufficient
    by_contra short
    push Not at short
    -- After `taskPool.length` submissions the pool is empty and one is owed.
    rcases
        exists_run_of_submits variant worker setup taskPool
          (le_refl taskPool.length) short.le with
      ⟨state, reached, pool, pending⟩
    have empty : state.taskPool = [] := by
      rw [← List.length_eq_zero_iff]
      omega
    have owing : 0 < owed setup.contexts state.submitsLeft := by omega
    rcases exists_first_owing owing with ⟨index, remaining, none⟩
    have exits :
        react variant setup state (.submit index ⟨0, true, 0, 0⟩) =
          some (.error .taskPoolEmpty) := by
      simp only [react, ClosedLoopEngine.react, if_neg remaining,
        submitSingleIo, empty, mempoolGet]
    have admitted :
        WithoutFailures worker setup state
          (.submit index ⟨0, true, 0, 0⟩) :=
      ⟨rfl, fun other less _ => none other less⟩
    exact sufficient state reached _ admitted exits
  · intro enough state reached event _
    exact
      (conserved_of_reachable reached).react_ne_taskPoolEmpty enough event

/-! ## The two benchmarks of reads -/

/--
What `main` finds: namespaces and workers, at least one of each, counted by
the configuration, and a pool of the computed size.  The pool has been
created: the branch of `main` for a null `task_pool` is left out, also where
the computed size is zero.
-/
structure Launch where
  arbitration : ArbContext
  namespaces : List NsEntry
  workers : Nat
  taskPool : List ArbTask
  found : namespaces ≠ []
  launched : 1 ≤ workers
  numNamespaces :
    arbitration.numNamespaces.toInt = (namespaces.length : Int)
  numWorkers : arbitration.numWorkers.toInt = (workers : Int)
  created : taskPool.length = (taskCount arbitration).toNat

/-- The configuration of a launch, with the tasks of each context. -/
def Launch.setup (launch : Launch) (cnt : Nat) : Setup :=
  configure cnt launch.workers launch.namespaces launch.arbitration

/-- The runs of a launch in which no submission fails. -/
def Launch.Reaches (launch : Launch) (variant : Variant) (cnt : Nat)
    (state : Bench) : Prop :=
  Reachable variant (launch.setup cnt) launch.taskPool
    (WithoutFailures (workerOf cnt launch.workers launch.namespaces)
      (launch.setup cnt))
    state

/-- The pool of a launch suffices for the contexts of its benchmark. -/
def Launch.Suffices (launch : Launch) (variant : Variant) (cnt : Nat) :
    Prop :=
  PoolSuffices variant
    (workerOf cnt launch.workers launch.namespaces)
    (launch.setup cnt)
    launch.taskPool

theorem Launch.suffices_iff
    (launch : Launch) (variant : Variant) (cnt : Nat) :
    launch.Suffices variant cnt ↔
      cnt * launch.arbitration.submitIterations ≤
        (taskCount launch.arbitration).toNat := by
  rw [Launch.Suffices, poolSuffices_iff, launch.created, Launch.setup,
    configure, length_associateWorkersWithNs launch.found]

/-- Without wrapping, the comparison is one of contexts with the maximum. -/
theorem Launch.demand_le_iff
    (launch : Launch) (cnt : Nat)
    (depth : 1 ≤ launch.arbitration.queueDepth.toInt)
    (noWrap :
      max launch.arbitration.numNamespaces.toInt
            launch.arbitration.numWorkers.toInt *
          launch.arbitration.queueDepth.toInt < 2 ^ 32) :
    cnt * launch.arbitration.submitIterations ≤
        (taskCount launch.arbitration).toNat ↔
      cnt ≤ max launch.namespaces.length launch.workers := by
  have positive : 1 ≤ launch.namespaces.length :=
    List.length_pos_iff.mpr launch.found
  have sized :=
    toNat_taskCount
      (by rw [launch.numNamespaces]; exact_mod_cast positive) depth noWrap
  have iterations :
      (launch.arbitration.submitIterations : Int) =
        launch.arbitration.queueDepth.toInt :=
    Int.toNat_of_nonneg (by omega)
  rw [launch.numNamespaces, launch.numWorkers, ← iterations] at sized
  have product :
      (taskCount launch.arbitration).toNat =
        max launch.namespaces.length launch.workers *
          launch.arbitration.submitIterations := by
    have cast :
        ((max launch.namespaces.length launch.workers : Nat) : Int) =
          max (launch.namespaces.length : Int) (launch.workers : Int) := by
      omega
    rw [← cast] at sized
    exact_mod_cast sized
  rw [product]
  exact Nat.mul_le_mul_right_iff (by omega)

/--
For every number of namespaces and workers and every queue depth: the pool of
`mp_one_drive_read.cc` suffices if and only if two queue depths fit into the
computed task count, that of `three_target_reads.cc` if and only if six do.
As long as the product does not wrap, that is a question of the number of
namespaces and workers alone.
-/
theorem pool_suffices_iff_demand_fits (launch : Launch) :
    (launch.Suffices mpOneDriveRead 2 ↔
        2 * launch.arbitration.submitIterations ≤
          (taskCount launch.arbitration).toNat) ∧
      (launch.Suffices threeTargetReads 6 ↔
        6 * launch.arbitration.submitIterations ≤
          (taskCount launch.arbitration).toNat) ∧
        (1 ≤ launch.arbitration.queueDepth.toInt →
          max launch.arbitration.numNamespaces.toInt
                launch.arbitration.numWorkers.toInt *
              launch.arbitration.queueDepth.toInt < 2 ^ 32 →
            (launch.Suffices mpOneDriveRead 2 ↔
                2 ≤ max launch.namespaces.length launch.workers) ∧
              (launch.Suffices threeTargetReads 6 ↔
                6 ≤ max launch.namespaces.length launch.workers)) := by
  refine ⟨launch.suffices_iff _ _, launch.suffices_iff _ _, ?_⟩
  intro depth noWrap
  rw [launch.suffices_iff, launch.suffices_iff,
    launch.demand_le_iff 2 depth noWrap,
    launch.demand_le_iff 6 depth noWrap]
  exact ⟨Iff.rfl, Iff.rfl⟩

/-- Two drives on one core are enough for `mp_one_drive_read.cc`. -/
def twoDrives : Launch where
  arbitration := ⟨4, 512, false, 2, 1⟩
  namespaces := [⟨1, 1024⟩, ⟨1, 1024⟩]
  workers := 1
  taskPool := List.replicate 8 ⟨0, []⟩
  found := by simp
  launched := le_refl _
  numNamespaces := by decide
  numWorkers := by decide
  created := by decide

theorem pool_suffices_two_drives :
    twoDrives.Suffices mpOneDriveRead 2 ∧
      ¬ twoDrives.Suffices threeTargetReads 6 := by
  rcases
      (pool_suffices_iff_demand_fits twoDrives).2.2 (by decide)
        (by decide) with
    ⟨first, second⟩
  rw [first, second]
  decide

/-- One worker, one namespace and a queue of one task. -/
def oneDrive : Launch where
  arbitration := ⟨1, 512, false, 1, 1⟩
  namespaces := [⟨1, 1024⟩]
  workers := 1
  taskPool := [⟨0, []⟩]
  found := by simp
  launched := le_refl _
  numNamespaces := by decide
  numWorkers := by decide
  created := by decide

/--
One drive, one core, queue depth one: the pool has one task, the first
context takes it, and the second one exits.
-/
theorem second_context_finds_pool_empty :
    (∃ state,
        oneDrive.Reaches mpOneDriveRead 2 state ∧
          react mpOneDriveRead (oneDrive.setup 2) state
              (.submit 1 ⟨0, true, 0, 0⟩) =
            some (.error .taskPoolEmpty)) ∧
      ¬ oneDrive.Suffices mpOneDriveRead 2 ∧
        ¬ oneDrive.Suffices threeTargetReads 6 := by
  refine ⟨?_, ?_, ?_⟩
  · have admitted :
        WithoutFailures (workerOf 2 1 oneDrive.namespaces)
          (oneDrive.setup 2)
          (initial (oneDrive.setup 2) oneDrive.taskPool)
          (.submit 0 ⟨0, true, 0, 0⟩) :=
      ⟨rfl, fun other less => absurd less (Nat.not_lt_zero other)⟩
    exact ⟨_, Run.tail .refl admitted rfl, rfl⟩
  · rw [Launch.suffices_iff]
    decide
  · rw [Launch.suffices_iff]
    decide

end ZnsBench.Multipath.PoolDemand

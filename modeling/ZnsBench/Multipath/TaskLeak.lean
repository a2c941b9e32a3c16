import ZnsBench.Multipath.WorkerInterleaving

/-!
# Tasks and buffers of the benchmark engines

When SPDK rejects a command, `submit_single_io` of the benchmarks prints a
line and returns: the task stays out of the pool and its buffer stays
allocated, although nothing is in flight.  The verifier, a later copy of the
same function, gives both back.

The pool, the flight and the rejected submissions together are the whole
pool in every state.  The pool and the flight alone are, and the live buffers
are those of the flight, exactly when no submission was rejected.  A leaked
task is never missed by a later submission: every context makes a new
submission only in place of a command that completed, so a pool that meets
the demand of all contexts is not exhausted by rejected submissions.
-/

namespace ZnsBench.Multipath.TaskLeak

open ZnsBench.Core.GuardedRun
open ZnsBench.Multipath.NamespaceRegistration
open ZnsBench.Multipath.SpdkInterface
open ZnsBench.Multipath.ClosedLoopEngine hiding Event react step Reachable
open ZnsBench.Multipath.WorkerInterleaving

/-- `drain_io` has returned for every context. -/
def Drained (setup : Setup) (state : Bench) : Prop :=
  ∀ index < setup.contexts,
    (state.ctx index).isDraining = true ∧
      (state.ctx index).currentQueueDepth = 0

instance (setup : Setup) (state : Bench) :
    Decidable (Drained setup state) :=
  inferInstanceAs (Decidable (∀ index < setup.contexts, _ ∧ _))

/-- The message of `cleanup` about a pool that is not whole. -/
def cleanup (taskPool : List ArbTask) (taskCount : UInt32) :
    Option String :=
  if taskPool.length ≠ taskCount.toNat then
    some
      ("task_pool count is " ++ toString taskPool.length ++
        " but should be " ++ toString taskCount.toNat ++ "\n")
  else
    none

/--
Every task is in the pool or in flight, every live buffer belongs to a
command in flight, and a drained run leaves a whole pool.
-/
structure NothingLeaks (setup : Setup) (state : Bench) : Prop where
  tasks :
    state.taskPool.length + state.inFlight.length =
      (taskCount setup.arbitration).toNat
  buffers : state.liveBuffers = state.inFlight.length
  drained :
    Drained setup state →
      state.taskPool.length = (taskCount setup.arbitration).toNat ∧
        cleanup state.taskPool (taskCount setup.arbitration) = none

/-- Drained contexts have nothing in flight. -/
theorem inFlight_eq_nil_of_drained
    {setup : Setup} {total : Nat} {state : Bench}
    (conserved : Conserved setup total state)
    (drained : Drained setup state) :
    state.inFlight = [] := by
  rw [List.eq_nil_iff_forall_not_mem]
  intro task member
  have inside := conserved.owners task member
  have depth := conserved.depth task.nsCtx
  rw [(drained _ inside).2] at depth
  have none : flightOf state task.nsCtx = 0 := depth.symm
  have absent := List.countP_eq_zero.mp none task member
  simp at absent

theorem nothingLeaks_of_no_rejection
    {setup : Setup} {state : Bench}
    (conserved :
      Conserved setup (taskCount setup.arbitration).toNat state)
    (none : rejected state = []) :
    NothingLeaks setup state := by
  have pool := conserved.pool
  have buffers := conserved.buffers
  rw [none, List.length_nil, Nat.add_zero] at pool buffers
  refine ⟨pool, buffers, ?_⟩
  intro drained
  rw [inFlight_eq_nil_of_drained conserved drained, List.length_nil,
    Nat.add_zero] at pool
  exact ⟨pool, by simp [cleanup, pool]⟩

/--
For every copy of the loop, every interleaving of the workers, run length,
completion order and pattern of rejected submissions: nothing leaks if and
only if no submission of the run was rejected; and whatever was rejected, no
submission finds a pool empty that meets the demand of the contexts.
-/
theorem nothing_leaks_iff_no_submission_rejected
    (variant : Variant) (setup : Setup) (taskPool : List ArbTask)
    (poolSize : taskPool.length = (taskCount setup.arbitration).toNat)
    (state : Bench)
    (reachable :
      Reachable variant setup taskPool Unrestricted state) :
    (NothingLeaks setup state ↔
        ∀ issue ∈ state.issued, issue.2.2 = 0) ∧
      (setup.contexts * setup.arbitration.submitIterations ≤
          (taskCount setup.arbitration).toNat →
        ∀ event,
          react variant setup state event ≠
            some (.error .taskPoolEmpty)) := by
  have conserved := conserved_of_reachable reachable
  rw [poolSize] at conserved
  have accepted :
      rejected state = [] ↔ ∀ issue ∈ state.issued, issue.2.2 = 0 := by
    rw [rejected, List.filter_eq_nil_iff]
    simp
  constructor
  · rw [← accepted]
    constructor
    · intro kept
      have pool := conserved.pool
      have tasks := kept.tasks
      exact List.length_eq_zero_iff.mp (by omega)
    · exact nothingLeaks_of_no_rejection conserved
  · intro enough
    exact conserved.react_ne_taskPoolEmpty enough

/-- One context of depth one, over a namespace of 1024 I/Os. -/
def oneContext : Setup := ⟨⟨1, 512, false, 1, 1⟩, 1, fun _ => ⟨1, 1024⟩⟩

/-- One append, completed and replaced by the next. -/
theorem nothing_leaks_one_command :
    ∃ state,
      Reachable mpOneDriveAppend oneContext [⟨0, []⟩] Unrestricted state ∧
        state.finished.length = 1 ∧
          state.inFlight.length = 1 ∧ NothingLeaks oneContext state := by
  have replayed :
      ∃ state,
        Reachable mpOneDriveAppend oneContext [⟨0, []⟩] Unrestricted
            state ∧
          state.finished.length = 1 ∧
            state.inFlight.length = 1 ∧
              ∀ issue ∈ state.issued, issue.2.2 = 0 :=
    Run.exists_of_replay _
      [.submit 0 ⟨0, true, 0, 0⟩, .retire 0 ⟨false, 0, [], []⟩,
        .submit 0 ⟨0, true, 0, 0⟩]
      (by decide +kernel)
  rcases replayed with ⟨state, reached, finished, flight, accepted⟩
  exact
    ⟨state, reached, finished, flight,
      (nothing_leaks_iff_no_submission_rejected mpOneDriveAppend
        oneContext [⟨0, []⟩] (by decide) state reached).1.mpr accepted⟩

/-- A drained run that has lost a task and a buffer, and says so. -/
def LosesTask (variant : Variant) : Prop :=
  ∃ state,
    Reachable variant oneContext [⟨0, []⟩] Unrestricted state ∧
      Drained oneContext state ∧
        state.taskPool = [] ∧
          state.inFlight = [] ∧
            state.liveBuffers = 1 ∧
              cleanup state.taskPool (taskCount oneContext.arbitration) ≠
                none

/-- A run that loses a task is one of the leaks. -/
theorem LosesTask.leaks {variant : Variant} (loses : LosesTask variant) :
    ∃ state,
      Reachable variant oneContext [⟨0, []⟩] Unrestricted state ∧
        ¬ NothingLeaks oneContext state := by
  rcases loses with ⟨state, reached, drained, _, _, _, message⟩
  refine ⟨state, reached, ?_⟩
  intro kept
  exact message (kept.drained drained).2

/--
The first submission of each copy is rejected and the context drained: a task
and a buffer are lost.
-/
theorem rejected_submission_leaks :
    (LosesTask mpOneDriveAppend ∧
        LosesTask mpOneDriveRead ∧
          LosesTask threeTargetReads ∧ LosesTask threeTargetWrites) ∧
      ∃ state,
        Reachable mpOneDriveAppend oneContext [⟨0, []⟩] Unrestricted
            state ∧
          ¬ NothingLeaks oneContext state := by
  have append : LosesTask mpOneDriveAppend :=
    Run.exists_of_replay _ [.submit 0 ⟨0, true, -12, 0⟩, .drain 0]
      (by decide +kernel)
  refine ⟨⟨append, ?_, ?_, ?_⟩, append.leaks⟩
  all_goals
    exact
      Run.exists_of_replay _ [.submit 0 ⟨0, true, -12, 0⟩, .drain 0]
        (by decide +kernel)

end ZnsBench.Multipath.TaskLeak

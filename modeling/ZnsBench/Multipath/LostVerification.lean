import ZnsBench.Multipath.VerifierAccounting
import ZnsBench.Multipath.VerifierHistory
import Mathlib.Data.List.Perm.Lattice

/-!
# Where a completed append waits for its verification

`task_complete` pops the oldest entry of `pending_reads` before it submits
the verify read, and `submit_single_io` returns nothing: when SPDK rejects
the read, its task and its buffer are given back, but the entry is gone.

In every run the verify reads that SPDK accepted are, in some order, the ones
that have completed and the ones in flight.  Hence the completed appends are
the pending ones, the ones being read, the ones that were read and the ones
whose read was rejected; none is lost exactly when no verify read was
rejected.
-/

namespace ZnsBench.Multipath.LostVerification

open ZnsBench.Core.ByteString
open ZnsBench.Core.GuardedRun
open ZnsBench.Multipath.NamespaceRegistration
open ZnsBench.Multipath.SpdkInterface
open ZnsBench.Multipath.VerificationEngine
open ZnsBench.Multipath.VerifierAccounting
open ZnsBench.Multipath.VerifierHistory

/-! ## The places -/

/-- SPDK took the command over. -/
def accepted (issue : Issue) : Bool := issue.rc = 0

/-- The verify reads that SPDK accepted. -/
def acceptedReads (state : Verifier) : List Issue :=
  (verifyReads state).filter accepted

/-- The verify reads in flight. -/
def readTasks (state : Verifier) : List ArbTask :=
  state.inFlight.filter fun task => task.verificationMode

/-- The completed verify reads. -/
def finishedReads (state : Verifier) : List Finish :=
  state.finished.filter fun finish => finish.task.verificationMode

/--
Every completed append is pending, being read or read, and the counters say
so.
-/
structure Kept (state : Verifier) : Prop where
  places :
    ((completedAppends state).map fun finish => taskKey finish.task).Perm
      (state.ctx.pendingReads ++
        ((readTasks state).map taskKey ++
          (finishedReads state).map fun finish => taskKey finish.task))
  counters :
    state.ctx.writeCompleted =
      UInt64.ofNat state.ctx.pendingReads.length +
        UInt64.ofNat (readTasks state).length + state.ctx.readCompleted
  verdicts :
    state.ctx.readCompleted =
      state.ctx.verificationPassed + state.ctx.verificationFailed

/-! ## Accepted reads are in flight or completed -/

/-- What became of the accepted verify reads. -/
structure Served (state : Verifier) : Prop where
  reads :
    ((acceptedReads state).map fun issue => taskKey issue.task).Perm
      ((readTasks state).map taskKey ++
        (finishedReads state).map fun finish => taskKey finish.task)
  completions :
    state.ctx.readCompleted =
      UInt64.ofNat (finishedReads state).length

theorem served_initial (setup : Setup) (taskPool : List ArbTask) :
    Served (initial setup taskPool) where
  reads := List.Perm.refl _
  completions := rfl

theorem acceptedReads_submits
    {state next : Verifier} {issue : Issue}
    (submits : Submits state next issue) :
    acceptedReads next =
      acceptedReads state ++
        if issue.task.verificationMode ∧ issue.rc = 0 then
          [issue]
        else
          [] := by
  rw [acceptedReads, submits.verifyReads_eq]
  cases mode : issue.task.verificationMode with
  | true =>
      rw [if_pos rfl, List.filter_append]
      by_cases ok : issue.rc = 0
      · simp [acceptedReads, accepted, ok]
      · simp [acceptedReads, accepted, ok]
  | false => simp [acceptedReads]

theorem readTasks_submits
    {state next : Verifier} {issue : Issue}
    (submits : Submits state next issue) :
    readTasks next =
      readTasks state ++
        if issue.task.verificationMode ∧ issue.rc = 0 then
          [issue.task]
        else
          [] := by
  rw [readTasks, submits.inFlight]
  by_cases ok : issue.rc = 0
  · rw [if_pos ok, List.filter_append]
    cases mode : issue.task.verificationMode with
    | true => simp [readTasks, mode, ok]
    | false => simp [readTasks, mode]
  · rw [if_neg ok]
    simp [readTasks, ok]

/-- An accepted verify read is in flight; a rejected one is nowhere. -/
theorem Served.submits
    {state next : Verifier} {issue : Issue}
    (served : Served state)
    (submits : Submits state next issue) :
    Served next := by
  rcases submits.ctx with ⟨_, _, _, ctx⟩
  have finished : finishedReads next = finishedReads state := by
    rw [finishedReads, submits.finished]
    rfl
  constructor
  · rw [acceptedReads_submits submits, readTasks_submits submits, finished]
    by_cases joins : issue.task.verificationMode ∧ issue.rc = 0
    · rw [if_pos joins, if_pos joins, List.map_append, List.map_append,
        List.append_assoc]
      have moved :
          ([taskKey issue.task] ++
              (finishedReads state).map
                fun finish => taskKey finish.task).Perm
            (((finishedReads state).map
                fun finish => taskKey finish.task) ++
              [taskKey issue.task]) :=
        List.perm_append_comm
      refine (served.reads.append_right _).trans ?_
      rw [List.append_assoc]
      exact moved.symm.append_left _
    · rw [if_neg joins, if_neg joins, List.append_nil, List.append_nil]
      exact served.reads
  · rw [finished, ctx]
    exact served.completions

@[simp]
theorem finishedReads_settle
    (completion : Completion) (index : Nat) (task : ArbTask)
    (state : Verifier) :
    finishedReads (settle completion index task state) =
      finishedReads state ++
        if task.verificationMode then
          [⟨deliver completion task, completion, state.ctx.isDraining⟩]
        else
          [] := by
  unfold finishedReads settle
  rw [List.filter_append]
  cases mode : task.verificationMode with
  | true => simp [mode]
  | false => simp [mode]

/-- A read keeps its LBA and its pattern when it completes. -/
theorem taskKey_deliver_read
    {task : ArbTask} (mode : task.verificationMode = true)
    (completion : Completion) :
    taskKey (deliver completion task) = taskKey task := by
  simp [taskKey, deliver, mode]

theorem readTasks_perm_settle
    {state : Verifier} {index : Nat} {task : ArbTask}
    (found : state.inFlight[index]? = some task)
    (completion : Completion) :
    (readTasks state).Perm
      ((if task.verificationMode then [task] else []) ++
        readTasks (settle completion index task state)) := by
  rcases List.getElem?_eq_some_iff.mp found with ⟨inside, rfl⟩
  have permuted :=
    ((List.getElem_cons_eraseIdx_perm inside).filter
      fun task => task.verificationMode).symm
  rw [List.filter_cons] at permuted
  split at permuted
  · rename_i mode
    rw [if_pos mode]
    exact permuted
  · rename_i mode
    rw [if_neg mode]
    exact permuted

/-- A completed read moves from the flight to the completed reads. -/
theorem Served.settle
    {state : Verifier} {index : Nat} {task : ArbTask}
    (served : Served state)
    (found : state.inFlight[index]? = some task)
    (completion : Completion) :
    Served (settle completion index task state) := by
  have flight := readTasks_perm_settle found completion
  constructor
  · refine served.reads.trans ?_
    rw [finishedReads_settle]
    cases mode : task.verificationMode with
    | true =>
        rw [mode, if_pos rfl] at flight
        rw [if_pos rfl, List.map_append, List.map_singleton,
          taskKey_deliver_read mode]
        refine ((flight.map taskKey).append_right _).trans ?_
        rw [List.map_append, List.append_assoc, ← List.append_assoc _ _ [_]]
        exact List.perm_append_comm
    | false =>
        rw [mode, if_neg Bool.false_ne_true] at flight
        rw [if_neg Bool.false_ne_true, List.append_nil]
        exact (flight.map taskKey).append_right _
  · rw [readCompleted_settle, served.completions, finishedReads_settle,
      List.length_append, UInt64.ofNat_add]
    cases task.verificationMode with
    | true => rfl
    | false => rfl

/-- Every step keeps track of the accepted reads. -/
theorem Served.step
    {setup : Setup} {state next : Verifier} {event : Event}
    (served : Served state)
    (taken : step setup state event = some next) :
    Served next := by
  rcases step_cases taken with
    ⟨outcome, rfl, remaining, submitted⟩ |
      ⟨index, completion, outcome, task, rfl, done, found, refilled⟩ |
        ⟨rfl, done, rfl⟩
  · rcases submits_append submitted with ⟨stale, submits⟩
    have same :
        Served { state with submitsLeft := state.submitsLeft - 1 } :=
      ⟨served.reads, served.completions⟩
    exact same.submits submits
  · have settled := served.settle found completion
    rcases refill_cases refilled with
      ⟨_, idle⟩ |
        ⟨verifyLba, expectedData, rest, _, pending, _, submitted⟩ |
          ⟨_, _, submitted⟩
    · cases idle
      exact settled
    · rcases submits_verifyRead submitted with ⟨stale, submits⟩
      have popped :
          Served
            { VerificationEngine.settle completion index task state with
              ctx :=
                { (VerificationEngine.settle completion index task
                    state).ctx with pendingReads := rest } } :=
        ⟨settled.reads, settled.completions⟩
      exact popped.submits submits
    · rcases submits_append submitted with ⟨stale, submits⟩
      exact settled.submits submits
  · exact ⟨served.reads, served.completions⟩

theorem served_of_reachable
    {setup : Setup} {taskPool : List ArbTask}
    {allowed : Verifier → Event → Prop} {state : Verifier}
    (reachable : Reachable setup taskPool allowed state) :
    Served state :=
  reachable.preserves (served_initial setup taskPool)
    (fun _ _ _ served _ taken => served.step taken)

/-! ## The result -/

/-- All but the rejected verify reads are accounted for. -/
theorem length_completedAppends
    {setup : Setup} {state : Verifier}
    (history : History setup state) (served : Served state) :
    (completedAppends state).length =
      state.ctx.pendingReads.length +
        ((readTasks state).length + (finishedReads state).length) +
          (verifyReads state).countP fun issue => !accepted issue := by
  have queue := congrArg List.length history.queue
  have reads := served.reads.length_eq
  have split :=
    List.length_eq_countP_add_countP accepted (l := verifyReads state)
  rw [List.countP_eq_length_filter] at split
  simp only [List.length_append, List.length_map, acceptedReads]
    at queue reads
  simp only [Bool.not_eq_true, Bool.decide_eq_false] at split
  omega

theorem kept_of_accepted
    {setup : Setup} {total : Nat} {state : Verifier}
    (history : History setup state)
    (accounting : Accounting setup total state)
    (served : Served state)
    (all : ∀ issue ∈ verifyReads state, issue.rc = 0) :
    Kept state := by
  have everyRead : acceptedReads state = verifyReads state := by
    apply List.filter_eq_self.mpr
    intro issue member
    simp [accepted, all issue member]
  have reads := served.reads
  rw [everyRead] at reads
  constructor
  · rw [← history.queue]
    exact
      (reads.append_right _).trans List.perm_append_comm
  · have lengths := length_completedAppends history served
    have none :
        (verifyReads state).countP (fun issue => !accepted issue) = 0 := by
      apply List.countP_eq_zero.mpr
      intro issue member
      simp [accepted, all issue member]
    rw [none, Nat.add_zero] at lengths
    rw [history.writes, lengths, served.completions, UInt64.ofNat_add,
      UInt64.ofNat_add, UInt64.add_assoc]
  · exact accounting.reads

/--
In every run, for every pattern of rejected submissions, completion order and
moment of draining: every completed append is in exactly one of its places
if and only if no verify read of the run was rejected.
-/
theorem appends_kept_iff_no_read_rejected
    (setup : Setup) (taskPool : List ArbTask) (state : Verifier)
    (reachable : Reachable setup taskPool Unrestricted state) :
    Kept state ↔ ∀ issue ∈ verifyReads state, issue.rc = 0 := by
  have history := history_of_reachable reachable
  have served := served_of_reachable reachable
  constructor
  · intro kept issue member
    have lengths := length_completedAppends history served
    have places := kept.places.length_eq
    simp only [List.length_append, List.length_map] at places
    have none :
        (verifyReads state).countP (fun issue => !accepted issue) = 0 := by
      omega
    have taken := List.countP_eq_zero.mp none issue member
    simpa [accepted] using taken
  · exact
      kept_of_accepted history (accounting_of_reachable reachable) served

/-- One append, completed and on its way to be read back. -/
theorem appends_kept_while_read_back :
    ∃ state,
      Reachable oneDeep [idleTask] Unrestricted state ∧
        state.ctx.writeCompleted = 1 ∧
          (readTasks state).length = 1 ∧ Kept state := by
  have replayed :
      ∃ state,
        Reachable oneDeep [idleTask] Unrestricted state ∧
          state.ctx.writeCompleted = 1 ∧
            (readTasks state).length = 1 ∧
              ∀ issue ∈ verifyReads state, issue.rc = 0 :=
    Run.exists_of_replay _
      [.submit ⟨0, true, 0, 0⟩,
        .complete 0 ⟨false, 7, [], []⟩ ⟨0, true, 0, 0⟩]
      (by decide +kernel)
  rcases replayed with ⟨state, reached, written, reading, all⟩
  exact
    ⟨state, reached, written, reading,
      (appends_kept_iff_no_read_rejected oneDeep [idleTask] state
        reached).mpr all⟩

/--
The verify read of a completed append is rejected: the append is neither
pending nor being read, and it was never read.
-/
theorem rejected_read_loses_append :
    ∃ state,
      Reachable oneDeep [idleTask] Unrestricted state ∧
        state.ctx.isDraining = false ∧
          state.ctx.writeCompleted = 1 ∧
            state.ctx.pendingReads = [] ∧
              readTasks state = [] ∧
                state.ctx.readCompleted = 0 ∧ ¬ Kept state := by
  have replayed :
      ∃ state,
        Reachable oneDeep [idleTask] Unrestricted state ∧
          state.ctx.isDraining = false ∧
            state.ctx.writeCompleted = 1 ∧
              state.ctx.pendingReads = [] ∧
                readTasks state = [] ∧ state.ctx.readCompleted = 0 :=
    Run.exists_of_replay _
      [.submit ⟨0, true, 0, 0⟩,
        .complete 0 ⟨false, 7, [], []⟩ ⟨0, true, -12, 0⟩]
      (by decide +kernel)
  rcases replayed with
    ⟨state, reached, running, written, pending, reading, read⟩
  refine
    ⟨state, reached, running, written, pending, reading, read, ?_⟩
  intro kept
  have counters := kept.counters
  rw [written, pending, reading, read] at counters
  exact absurd counters (by decide)

end ZnsBench.Multipath.LostVerification

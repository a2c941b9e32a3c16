import ZnsBench.Multipath.VerifierHistory
import ZnsBench.Multipath.ClosedLoopEngine

/-!
# Completion status and the counters

Neither `io_complete` of the verifier nor that of the append benchmark looks
at the status of a completion.  Their counters therefore count every
completion delivered, and the verifier queues every completed append for
reading back, with whatever `cdw0` it carries.  The counters are counts of
successful I/O exactly when no completion of the run carried an error.
-/

namespace ZnsBench.Multipath.CompletionStatus

open ZnsBench.Core.ByteString
open ZnsBench.Core.GuardedRun
open ZnsBench.Multipath.SpdkInterface
open ZnsBench.Multipath.VerificationEngine
open ZnsBench.Multipath.VerifierHistory

/-! ## Counting -/

/-- Fewer than `2 ^ 64` events are told apart by a 64-bit counter. -/
theorem all_of_ofNat_length_eq
    {Event : Type} {events : List Event} {holds : Event → Bool}
    (small : events.length < 2 ^ 64)
    (equal :
      UInt64.ofNat events.length = UInt64.ofNat (events.countP holds)) :
    ∀ event ∈ events, holds event = true := by
  have bound : events.countP holds ≤ events.length :=
    List.countP_le_length
  have values := congrArg UInt64.toNat equal
  rw [UInt64.toNat_ofNat', UInt64.toNat_ofNat',
    Nat.mod_eq_of_lt small, Nat.mod_eq_of_lt (by omega)] at values
  exact List.countP_eq_length.mp values.symm

/-! ## The verifier -/

/-- The device answered the command with success. -/
def succeeded (finish : Finish) : Bool :=
  !finish.completion.isError

/--
The counters count successful I/O, and exactly the successful appends have
been queued for, or taken into, a verify read.
-/
def CountsSuccesses (state : Verifier) : Prop :=
  state.ctx.ioCompleted =
      UInt64.ofNat (state.finished.countP succeeded) ∧
    state.ctx.writeCompleted =
      UInt64.ofNat ((completedAppends state).countP succeeded) ∧
    (verifyReads state).map (fun issue => taskKey issue.task) ++
        state.ctx.pendingReads =
      ((completedAppends state).filter succeeded).map
        fun finish => taskKey finish.task

instance (state : Verifier) : Decidable (CountsSuccesses state) :=
  inferInstanceAs (Decidable (_ ∧ _ ∧ _))

theorem countsSuccesses_of_succeeded
    {setup : Setup} {state : Verifier}
    (history : History setup state)
    (successful : ∀ finish ∈ state.finished, succeeded finish = true) :
    CountsSuccesses state := by
  have appendsSucceeded :
      ∀ finish ∈ completedAppends state, succeeded finish = true :=
    fun finish member =>
      successful finish (List.mem_of_mem_filter member)
  refine ⟨?_, ?_, ?_⟩
  · rw [history.completions, List.countP_eq_length.mpr successful]
  · rw [history.writes, List.countP_eq_length.mpr appendsSucceeded]
  · rw [history.queue, List.filter_eq_self.mpr appendsSucceeded]

theorem succeeded_of_countsSuccesses
    {setup : Setup} {state : Verifier}
    (history : History setup state)
    (small : state.finished.length < 2 ^ 64)
    (counts : CountsSuccesses state) :
    ∀ finish ∈ state.finished, succeeded finish = true := by
  apply all_of_ofNat_length_eq small
  rw [← history.completions]
  exact counts.1

/-! ## The append benchmark -/

namespace Bench

open ZnsBench.Multipath.ClosedLoopEngine

/-- The completions of one context. -/
def finishedOf (state : Bench) (index : Nat) :
    List ClosedLoopEngine.Finish :=
  state.finished.filter fun finish => finish.task.nsCtx == index

/-- The completion counters count the completions of their contexts. -/
def CountsCompletions (state : Bench) : Prop :=
  ∀ index,
    (state.ctx index).ioCompleted =
      UInt64.ofNat (finishedOf state index).length

theorem countsCompletions_submitSingleIo
    {variant : Variant} {setup : ClosedLoopEngine.Setup}
    {outcome : SubmitOutcome} {index : Nat} {state next : Bench}
    (counts : CountsCompletions state)
    (submitted :
      ClosedLoopEngine.submitSingleIo variant setup outcome index state =
        .ok next) :
    CountsCompletions next := by
  rcases submitSingleIo_frame submitted with ⟨finished, counters⟩
  intro other
  rw [counters, finishedOf, finished]
  exact counts other

theorem countsCompletions_retire
    {state : Bench}
    (counts : CountsCompletions state)
    (completion : Completion) (task : ClosedLoopEngine.ArbTask) :
    CountsCompletions (retire completion task state) := by
  intro index
  have counted := counts index
  simp only [retire, finishedOf, List.filter_append, List.length_append]
    at counted ⊢
  by_cases equal : index = task.nsCtx
  · subst index
    rw [Function.update_self]
    simp only [beq_self_eq_true, List.filter_cons_of_pos,
      List.filter_nil, List.length_singleton, UInt64.ofNat_add]
    rw [counted]
    rfl
  · rw [Function.update_of_ne equal, counted]
    simp [Ne.symm equal]

/-- Every step keeps the completion counters exact. -/
theorem countsCompletions_step
    {variant : Variant} {setup : ClosedLoopEngine.Setup}
    {state next : Bench} {event : ClosedLoopEngine.Event}
    (counts : CountsCompletions state)
    (taken :
      ClosedLoopEngine.step variant setup state event = some next) :
    CountsCompletions next := by
  rcases ClosedLoopEngine.step_cases taken with
    ⟨index, outcome, rfl, remaining, submitted⟩ |
      ⟨position, completion, outcome, task, rfl, found, done,
        completed⟩ |
        ⟨index, rfl, done, rfl⟩
  · have same :
        CountsCompletions
          { state with
            submitsLeft :=
              Function.update state.submitsLeft index
                (state.submitsLeft index - 1) } :=
      counts
    exact countsCompletions_submitSingleIo same submitted
  · have same :
        CountsCompletions
          { state with inFlight := state.inFlight.eraseIdx position } :=
      counts
    have retired := countsCompletions_retire same completion task
    unfold ClosedLoopEngine.ioComplete at completed
    split at completed
    · cases completed
      exact retired
    · exact countsCompletions_submitSingleIo retired completed
  · intro other
    have counted := counts other
    by_cases equal : other = index
    · subst other
      simpa [finishedOf] using counted
    · simpa [finishedOf, equal] using counted

theorem countsCompletions_of_reachable
    {variant : Variant} {setup : ClosedLoopEngine.Setup}
    {taskPool : List ClosedLoopEngine.ArbTask}
    {allowed : Bench → ClosedLoopEngine.Event → Prop} {state : Bench}
    (reachable :
      ClosedLoopEngine.Reachable variant setup taskPool allowed state) :
    CountsCompletions state :=
  reachable.preserves (fun _ => rfl)
    (fun _ _ _ counts _ taken => countsCompletions_step counts taken)

/-- The device answered the command with success. -/
def succeeded (finish : ClosedLoopEngine.Finish) : Bool :=
  !finish.completion.isError

/-- `io_completed` of every context counts its successful I/O. -/
def CountsSuccesses (state : Bench) : Prop :=
  ∀ index,
    (state.ctx index).ioCompleted =
      UInt64.ofNat ((finishedOf state index).countP succeeded)

theorem countsSuccesses_of_succeeded
    {state : Bench}
    (counts : CountsCompletions state)
    (successful : ∀ finish ∈ state.finished, succeeded finish = true) :
    CountsSuccesses state := by
  intro index
  have own :
      ∀ finish ∈ finishedOf state index, succeeded finish = true :=
    fun finish member =>
      successful finish (List.mem_of_mem_filter member)
  rw [counts index, List.countP_eq_length.mpr own]

theorem succeeded_of_countsSuccesses
    {state : Bench}
    (counts : CountsCompletions state)
    (small : state.finished.length < 2 ^ 64)
    (successes : CountsSuccesses state) :
    ∀ finish ∈ state.finished, succeeded finish = true := by
  intro finish member
  have fewer :
      (finishedOf state finish.task.nsCtx).length < 2 ^ 64 :=
    lt_of_le_of_lt (List.length_filter_le _ _) small
  have equal :=
    (counts finish.task.nsCtx).symm.trans (successes finish.task.nsCtx)
  apply all_of_ofNat_length_eq fewer equal
  rw [finishedOf, List.mem_filter]
  exact ⟨member, beq_self_eq_true _⟩

end Bench

/-! ## The result -/

/--
In every run of the verifier and of the append benchmark the counters count
successful I/O when no completion carried an error, and, as long as fewer
than `2 ^ 64` completions were delivered, only then.
-/
theorem counters_count_successes_iff_no_error
    (setup : Setup) (taskPool : List ArbTask) (state : Verifier)
    (reachable : Reachable setup taskPool Unrestricted state)
    (bench : ClosedLoopEngine.Setup)
    (benchPool : List ClosedLoopEngine.ArbTask)
    (benchState : ClosedLoopEngine.Bench)
    (benchReachable :
      ClosedLoopEngine.Reachable ClosedLoopEngine.mpOneDriveAppend bench
        benchPool Unrestricted benchState) :
    (((∀ finish ∈ state.finished, finish.completion.isError = false) →
        CountsSuccesses state) ∧
      (state.finished.length < 2 ^ 64 → CountsSuccesses state →
        ∀ finish ∈ state.finished,
          finish.completion.isError = false)) ∧
    (((∀ finish ∈ benchState.finished,
          finish.completion.isError = false) →
        Bench.CountsSuccesses benchState) ∧
      (benchState.finished.length < 2 ^ 64 →
        Bench.CountsSuccesses benchState →
          ∀ finish ∈ benchState.finished,
            finish.completion.isError = false)) := by
  have history := history_of_reachable reachable
  have counts := Bench.countsCompletions_of_reachable benchReachable
  refine ⟨⟨?_, ?_⟩, ?_, ?_⟩
  · intro successful
    apply countsSuccesses_of_succeeded history
    intro finish member
    simp [succeeded, successful finish member]
  · intro small successes finish member
    simpa [succeeded] using
      succeeded_of_countsSuccesses history small successes finish member
  · intro successful
    apply Bench.countsSuccesses_of_succeeded counts
    intro finish member
    simp [Bench.succeeded, successful finish member]
  · intro small successes finish member
    simpa [Bench.succeeded] using
      Bench.succeeded_of_countsSuccesses counts small successes finish
        member

/--
A single append that fails is counted as completed and written, and its
`cdw0` is read back; the benchmark counts it as completed.
-/
theorem failed_append_is_counted :
    (∃ state,
      Reachable oneDeep [idleTask] Unrestricted state ∧
        (∀ finish ∈ state.finished, finish.completion.isError = true) ∧
          state.ctx.ioCompleted = 1 ∧
            state.ctx.writeCompleted = 1 ∧
              (verifyReads state).map (fun issue => issue.command) =
                [.read 7 1] ∧
              ¬ CountsSuccesses state) ∧
      ∃ state,
        ClosedLoopEngine.Reachable ClosedLoopEngine.mpOneDriveAppend
            ⟨oneDeep.arbitration, 1, fun _ => oneDeep.entry⟩ [⟨0, []⟩]
            Unrestricted state ∧
          (∀ finish ∈ state.finished, finish.completion.isError = true) ∧
            (state.ctx 0).ioCompleted = 1 := by
  constructor
  · exact
      Run.exists_of_replay _
        [.submit ⟨0, true, 0, 0⟩,
          .complete 0 ⟨true, 7, [], []⟩ ⟨0, true, 0, 0⟩]
        (by decide +kernel)
  · exact
      Run.exists_of_replay _
        [.submit 0 ⟨0, true, 0, 0⟩,
          .complete 0 ⟨true, 7, [], []⟩ ⟨0, true, 0, 0⟩]
        (by decide +kernel)

/-- One successful append in each engine. -/
theorem counters_count_successes_one_append :
    (∃ state,
      Reachable oneDeep [idleTask] Unrestricted state ∧
        state.ctx.ioCompleted = 1 ∧ CountsSuccesses state) ∧
      ∃ state,
        ClosedLoopEngine.Reachable ClosedLoopEngine.mpOneDriveAppend
            ⟨oneDeep.arbitration, 1, fun _ => oneDeep.entry⟩ [⟨0, []⟩]
            Unrestricted state ∧
          (state.ctx 0).ioCompleted = 1 ∧
            Bench.CountsSuccesses state := by
  have verifierRun :
      ∃ state,
        Reachable oneDeep [idleTask] Unrestricted state ∧
          state.ctx.ioCompleted = 1 ∧
            ∀ finish ∈ state.finished,
              finish.completion.isError = false :=
    Run.exists_of_replay _
      [.submit ⟨0, true, 0, 0⟩,
        .complete 0 ⟨false, 7, [], []⟩ ⟨0, true, 0, 0⟩]
      (by decide +kernel)
  have benchRun :
      ∃ state,
        ClosedLoopEngine.Reachable ClosedLoopEngine.mpOneDriveAppend
            ⟨oneDeep.arbitration, 1, fun _ => oneDeep.entry⟩ [⟨0, []⟩]
            Unrestricted state ∧
          (state.ctx 0).ioCompleted = 1 ∧
            ∀ finish ∈ state.finished,
              finish.completion.isError = false :=
    Run.exists_of_replay _
      [.submit 0 ⟨0, true, 0, 0⟩,
        .complete 0 ⟨false, 7, [], []⟩ ⟨0, true, 0, 0⟩]
      (by decide +kernel)
  rcases verifierRun with ⟨state, reached, counted, successful⟩
  rcases benchRun with
    ⟨benchState, benchReached, benchCounted, benchSuccessful⟩
  have both :=
    counters_count_successes_iff_no_error oneDeep [idleTask] state reached
      ⟨oneDeep.arbitration, 1, fun _ => oneDeep.entry⟩ [⟨0, []⟩]
      benchState benchReached
  exact
    ⟨⟨state, reached, counted, both.1.1 successful⟩,
      benchState, benchReached, benchCounted, both.2.1 benchSuccessful⟩

end ZnsBench.Multipath.CompletionStatus

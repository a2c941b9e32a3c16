import ZnsBench.Multipath.VerifierAccounting
import ZnsBench.Multipath.VerifierHistory

/-!
# The backlog a drained run leaves behind

While the verifier is not draining, every completed append is verified at
once: the completion that queues it also submits its verify read.  Draining
switches that off.  Appends that complete after `is_draining` was set stay in
`pending_reads`, are counted as written and are never read back.

The laws here assume a device that completes every command with success and
submissions that are all accepted.
-/

namespace ZnsBench.Multipath.DrainingBacklog

open ZnsBench.Core.ByteString
open ZnsBench.Core.GuardedRun
open ZnsBench.Multipath.NamespaceRegistration
open ZnsBench.Multipath.SpdkInterface
open ZnsBench.Multipath.VerificationEngine
open ZnsBench.Multipath.VerifierAccounting
open ZnsBench.Multipath.VerifierHistory

/-- No command fails and no submission is rejected. -/
def NoFailures (_ : Verifier) : Event → Prop
  | .submit outcome => outcome.rc = 0
  | .complete _ completion outcome =>
      completion.isError = false ∧ outcome.rc = 0
  | .drain => True

instance (state : Verifier) (event : Event) :
    Decidable (NoFailures state event) :=
  match event with
  | .submit outcome => inferInstanceAs (Decidable (outcome.rc = 0))
  | .complete _ completion outcome =>
      inferInstanceAs
        (Decidable (completion.isError = false ∧ outcome.rc = 0))
  | .drain => isTrue True.intro

/-- The appends that completed while the context was draining. -/
def lateAppends (state : Verifier) : List Finish :=
  (completedAppends state).filter fun finish => finish.draining

/-- The number of verify reads in flight. -/
def readsInFlight (state : Verifier) : Nat :=
  state.inFlight.countP fun task => task.verificationMode

/-- The reads that draining leaves over are those of late appends. -/
structure Backlog (state : Verifier) : Prop where
  queue :
    state.ctx.pendingReads =
      (lateAppends state).map fun finish => taskKey finish.task
  early :
    state.ctx.isDraining = false → lateAppends state = []
  verified :
    state.ctx.writeCompleted =
      state.ctx.readCompleted + UInt64.ofNat (readsInFlight state) +
        UInt64.ofNat (lateAppends state).length

theorem backlog_initial (setup : Setup) (taskPool : List ArbTask) :
    Backlog (initial setup taskPool) where
  queue := rfl
  early := fun _ => rfl
  verified := rfl

/-! ## Counting the reads in flight -/

theorem readsInFlight_submits
    {state next : Verifier} {issue : Issue}
    (submits : Submits state next issue)
    (accepted : issue.rc = 0) :
    readsInFlight next =
      readsInFlight state +
        if issue.task.verificationMode then 1 else 0 := by
  rw [readsInFlight, submits.inFlight, if_pos accepted, List.countP_append,
    List.countP_singleton]
  rfl

theorem readsInFlight_settle
    {state : Verifier} {index : Nat} {task : ArbTask}
    (found : state.inFlight[index]? = some task)
    (completion : Completion) :
    readsInFlight (settle completion index task state) +
        (if task.verificationMode then 1 else 0) =
      readsInFlight state := by
  rcases List.getElem?_eq_some_iff.mp found with ⟨inside, rfl⟩
  have permuted :=
    (List.getElem_cons_eraseIdx_perm inside).countP_eq
      (fun task : ArbTask => task.verificationMode)
  rw [List.countP_cons] at permuted
  exact permuted

@[simp]
theorem lateAppends_settle
    (completion : Completion) (index : Nat) (task : ArbTask)
    (state : Verifier) :
    lateAppends (settle completion index task state) =
      if task.verificationMode = false ∧ state.ctx.isDraining = true then
        lateAppends state ++
          [⟨deliver completion task, completion, state.ctx.isDraining⟩]
      else
        lateAppends state := by
  rw [lateAppends, completedAppends_settle]
  cases mode : task.verificationMode <;>
    cases draining : state.ctx.isDraining <;>
      simp [lateAppends]

/-! ## Steps -/

namespace Backlog

variable {setup : Setup} {state next : Verifier}

theorem submits_append {issue : Issue}
    (backlog : Backlog state)
    (submits : Submits state next issue)
    (accepted : issue.rc = 0)
    (append : issue.task.verificationMode = false) :
    Backlog next := by
  have reads := readsInFlight_submits submits accepted
  rw [append] at reads
  simp only [Bool.false_eq_true, if_false, Nat.add_zero] at reads
  rcases submits.ctx with ⟨_, _, _, ctx⟩
  have late : lateAppends next = lateAppends state := by
    rw [lateAppends, submits.completedAppends_eq]
    rfl
  constructor
  · rw [late, ctx]
    exact backlog.queue
  · rw [late, ctx]
    exact backlog.early
  · rw [late, reads, ctx]
    exact backlog.verified

/-- A completion while draining only adds to the backlog. -/
theorem settle_draining {index : Nat} {task : ArbTask}
    (backlog : Backlog state)
    (draining : state.ctx.isDraining = true)
    (found : state.inFlight[index]? = some task)
    (completion : Completion) :
    Backlog (settle completion index task state) := by
  have reads := readsInFlight_settle found completion
  have verified := backlog.verified
  constructor
  · rw [pendingReads_settle, lateAppends_settle, backlog.queue]
    cases mode : task.verificationMode <;> simp [draining]
  · intro notDraining
    rw [isDraining_settle, draining] at notDraining
    cases notDraining
  · rw [writeCompleted_settle, readCompleted_settle, lateAppends_settle,
      verified]
    cases mode : task.verificationMode with
    | true =>
        rw [mode] at reads
        simp only [if_true] at reads
        rw [← reads, UInt64.ofNat_add]
        simp only [if_true, Bool.true_eq_false, false_and, if_false]
        grind
    | false =>
        rw [mode] at reads
        simp only [Bool.false_eq_true, if_false, Nat.add_zero] at reads
        rw [← reads]
        simp only [draining, and_self, if_true, Bool.false_eq_true,
          if_false, List.length_append, List.length_singleton,
          UInt64.ofNat_add]
        grind

/-- Before draining, a completed read makes room for an append. -/
theorem settle_read {index : Nat} {task : ArbTask}
    (backlog : Backlog state)
    (notDraining : state.ctx.isDraining = false)
    (mode : task.verificationMode = true)
    (found : state.inFlight[index]? = some task)
    (completion : Completion) :
    Backlog (settle completion index task state) := by
  have reads := readsInFlight_settle found completion
  rw [if_pos mode] at reads
  have late := lateAppends_settle completion index task state
  rw [mode] at late
  simp only [Bool.true_eq_false, false_and, if_false] at late
  constructor
  · rw [pendingReads_settle, if_pos mode, late]
    exact backlog.queue
  · intro _
    rw [late]
    exact backlog.early notDraining
  · rw [writeCompleted_settle, readCompleted_settle, late,
      backlog.verified, ← reads, UInt64.ofNat_add]
    simp only [mode, if_true]
    grind

/-- Before draining, a completed append is read back at once. -/
theorem settle_append {index : Nat} {task : ArbTask}
    {completion : Completion} {outcome : SubmitOutcome}
    {total : Nat}
    (backlog : Backlog state)
    (accounting : Accounting setup total state)
    (notDraining : state.ctx.isDraining = false)
    (mode : task.verificationMode = false)
    (found : state.inFlight[index]? = some task)
    (accepted : outcome.rc = 0)
    (refilled :
      refill setup outcome (settle completion index task state) =
        .ok next) :
    Backlog next := by
  have stillEarly := isDraining_settle completion index task state
  rw [notDraining] at stillEarly
  have pending := pendingReads_settle completion index task state
  rw [mode, backlog.queue, backlog.early notDraining] at pending
  simp only [Bool.false_eq_true, if_false, List.map_nil,
    List.nil_append] at pending
  have reads := readsInFlight_settle found completion
  rw [mode] at reads
  simp only [Bool.false_eq_true, if_false, Nat.add_zero] at reads
  have late := lateAppends_settle completion index task state
  rw [notDraining] at late
  simp only [Bool.false_eq_true, and_false, if_false] at late
  -- The depth has just dropped below its limit, so the read is submitted.
  have below := accounting.depth_settle_lt found completion
  rcases refill_cases refilled with
    ⟨draining, _⟩ |
      ⟨verifyLba, expectedData, rest, _, queued, _, submitted⟩ |
        ⟨_, blocked, _⟩
  · rw [stillEarly] at draining
    cases draining
  · rw [pending] at queued
    cases queued
    rcases submits_verifyRead submitted with ⟨stale, submits⟩
    have readsNext := readsInFlight_submits submits accepted
    have lateNext : lateAppends next = lateAppends state := by
      rw [← late, lateAppends, submits.completedAppends_eq]
      rfl
    rcases submits.ctx with ⟨_, _, _, ctx⟩
    constructor
    · rw [lateNext, ctx, backlog.early notDraining]
      rfl
    · intro _
      rw [lateNext]
      exact backlog.early notDraining
    · rw [lateNext, readsNext, ctx]
      have written := writeCompleted_settle completion index task state
      have read := readCompleted_settle completion index task state
      rw [mode] at written read
      simp only [Bool.false_eq_true, if_false] at written read
      have counted :
          readsInFlight
              { settle completion index task state with
                ctx :=
                  { (settle completion index task state).ctx with
                    pendingReads := [] } } =
            readsInFlight state :=
        reads
      rw [counted]
      simp only [readTask, if_true, written, read, backlog.verified,
        UInt64.ofNat_add]
      grind
  · rcases blocked with empty | full
    · rw [pending] at empty
      cases empty
    · exact absurd below full

/-- Every admitted step keeps the laws of the backlog. -/
theorem step {event : Event} {total : Nat}
    (backlog : Backlog state)
    (accounting : Accounting setup total state)
    (noFailures : NoFailures state event)
    (taken : step setup state event = some next) :
    Backlog next := by
  rcases step_cases taken with
    ⟨outcome, rfl, remaining, submitted⟩ |
      ⟨index, completion, outcome, task, rfl, done, found, refilled⟩ |
        ⟨rfl, done, rfl⟩
  · have counted :
        Backlog { state with submitsLeft := state.submitsLeft - 1 } :=
      ⟨backlog.queue, backlog.early, backlog.verified⟩
    rcases VerifierHistory.submits_append submitted with ⟨stale, submits⟩
    exact counted.submits_append submits noFailures rfl
  · cases draining : state.ctx.isDraining with
    | true =>
        rw [eq_settle_of_draining draining refilled]
        exact backlog.settle_draining draining found completion
    | false =>
        cases mode : task.verificationMode with
        | false =>
            exact
              backlog.settle_append accounting draining mode found
                noFailures.2 refilled
        | true =>
            have settled :=
              backlog.settle_read draining mode found completion
            have pending := pendingReads_settle completion index task state
            rw [if_pos mode, backlog.queue, backlog.early draining]
              at pending
            have stillEarly :=
              isDraining_settle completion index task state
            rw [draining] at stillEarly
            rcases refill_cases refilled with
              ⟨isDraining, _⟩ |
                ⟨verifyLba, expectedData, rest, _, queued, _⟩ |
                  ⟨_, _, submitted⟩
            · rw [stillEarly] at isDraining
              cases isDraining
            · rw [pending] at queued
              cases queued
            · rcases VerifierHistory.submits_append submitted with
                ⟨stale, submits⟩
              exact settled.submits_append submits noFailures.2 rfl
  · constructor
    · exact backlog.queue
    · intro notDraining
      cases notDraining
    · exact backlog.verified

end Backlog

theorem backlog_of_reachable
    {setup : Setup} {taskPool : List ArbTask} {state : Verifier}
    (reachable : Reachable setup taskPool NoFailures state) :
    Backlog state := by
  have both :
      Accounting setup taskPool.length state ∧ Backlog state := by
    apply Run.preserves reachable
    · exact
        ⟨accounting_initial setup taskPool,
          backlog_initial setup taskPool⟩
    · rintro before event after ⟨accounting, backlog⟩ noFailures taken
      exact
        ⟨accounting.step taken, backlog.step accounting noFailures taken⟩
  exact both.2

/-! ## The end of a run -/

/--
When `drain_io` returns, `pending_reads` holds exactly the appends that
completed while draining; all other writes were read back and compared.
-/
theorem drained_backlog_is_late_appends
    (setup : Setup) (taskPool : List ArbTask) (state : Verifier)
    (reachable : Reachable setup taskPool NoFailures state)
    (drained : Drained state) :
    state.ctx.pendingReads =
        (lateAppends state).map (fun finish => taskKey finish.task) ∧
      state.ctx.writeCompleted =
        state.ctx.readCompleted +
          UInt64.ofNat (lateAppends state).length ∧
      state.ctx.readCompleted =
        state.ctx.verificationPassed + state.ctx.verificationFailed := by
  have accounting := accounting_of_reachable reachable
  have backlog := backlog_of_reachable reachable
  refine ⟨backlog.queue, ?_, accounting.reads⟩
  have none : readsInFlight state = 0 := by
    rw [readsInFlight, accounting.inFlight_eq_nil_of_drained drained]
    rfl
  have verified := backlog.verified
  rw [none] at verified
  simpa using verified

/--
A run with one append in flight when draining starts ends with that append
counted as written and never read back.
-/
theorem late_append_is_never_read_back :
    ∃ state,
      Reachable oneDeep [idleTask] NoFailures state ∧
        Drained state ∧
          state.ctx.pendingReads ≠ [] ∧
            state.ctx.writeCompleted = 1 ∧
              state.ctx.readCompleted = 0 :=
  Run.exists_of_replay _
    [.submit ⟨0, true, 0, 0⟩, .drain,
      .complete 0 ⟨false, 7, [], []⟩ ⟨0, true, 0, 0⟩]
    (by decide +kernel)

/-- An append read back before draining and one that completes too late. -/
theorem drained_backlog_is_late_appends_two_appends :
    ∃ state,
      Reachable oneDeep [idleTask] NoFailures state ∧
        (lateAppends state).length = 1 ∧
          state.ctx.readCompleted = 1 ∧
            state.ctx.writeCompleted = 1 + UInt64.ofNat 1 := by
  have replayed :
      ∃ state,
        Reachable oneDeep [idleTask] NoFailures state ∧
          Drained state ∧
            (lateAppends state).length = 1 ∧
              state.ctx.readCompleted = 1 :=
    Run.exists_of_replay _
      [.submit ⟨0, true, 0, 0⟩,
        .complete 0 ⟨false, 7, [], []⟩ ⟨0, true, 0, 0⟩,
        .complete 0 ⟨false, 0, block oneDeep (dataPattern 0), []⟩
          ⟨0, true, 0, 0⟩,
        .drain,
        .complete 0 ⟨false, 8, [], []⟩ ⟨0, true, 0, 0⟩]
      (by decide +kernel)
  rcases replayed with ⟨state, reached, drained, late, read⟩
  have counted :=
    (drained_backlog_is_late_appends oneDeep [idleTask] state reached
      drained).2.1
  rw [late, read] at counted
  exact ⟨state, reached, late, read, counted⟩

end ZnsBench.Multipath.DrainingBacklog

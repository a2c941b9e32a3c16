import ZnsBench.Multipath.VerifierAccounting
import ZnsBench.Multipath.VerifierHistory

/-!
# The backlog of the verifier

A completion takes one command out of the flight, so that the depth is below
its limit when `task_complete` looks at it: the entry that a completed append
has just queued is popped in the same callback.  Before draining nothing is
left in `pending_reads` between two callbacks, whatever the submissions
return.

Draining switches the submissions off.  From then on every append that
completes adds one entry, and together with the commands still in flight the
entries never exceed the queue depth.
-/

namespace ZnsBench.Multipath.ImmediateVerification

open ZnsBench.Core.GuardedRun
open ZnsBench.Core.ByteString
open ZnsBench.Multipath.NamespaceRegistration
open ZnsBench.Multipath.SpdkInterface
open ZnsBench.Multipath.VerificationEngine
open ZnsBench.Multipath.VerifierAccounting
open ZnsBench.Multipath.VerifierHistory

/-- Before draining no read is left over, and afterwards few are. -/
structure Immediate (setup : Setup) (state : Verifier) : Prop where
  early :
    state.ctx.isDraining = false → state.ctx.pendingReads = []
  late :
    state.ctx.isDraining = true →
      state.ctx.pendingReads.length + state.inFlight.length ≤
        setup.arbitration.submitIterations

theorem immediate_initial (setup : Setup) (taskPool : List ArbTask) :
    Immediate setup (initial setup taskPool) where
  early := fun _ => rfl
  late := by
    intro draining
    cases draining

/-! ## Steps -/

/-- The entry that an event adds to the backlog of a draining context. -/
def lateEntry (state : Verifier) : Event → List (UInt64 × Bytes)
  | .complete index completion _ =>
      match state.inFlight[index]? with
      | some task =>
          if task.verificationMode then
            []
          else
            [(completion.cdw0.toUInt64, task.expectedData)]
      | none => []
  | _ => []

section Step

variable {setup : Setup} {total : Nat} {state next : Verifier}

/-- The LBA of a completed append is the one its completion reports. -/
theorem taskKey_deliver_append
    (completion : Completion) {task : ArbTask}
    (mode : task.verificationMode = false) :
    taskKey (deliver completion task) =
      (completion.cdw0.toUInt64, task.expectedData) := by
  rw [taskKey, deliver_expectedData, deliver,
    if_neg (by rw [mode]; exact Bool.false_ne_true)]

/-- Before draining, a completed append is read back in its callback. -/
theorem submits_read_of_append
    {index : Nat} {task : ArbTask} {completion : Completion}
    {outcome : SubmitOutcome}
    (immediate : Immediate setup state)
    (accounting : Accounting setup total state)
    (notDraining : state.ctx.isDraining = false)
    (mode : task.verificationMode = false)
    (found : state.inFlight[index]? = some task)
    (refilled :
      refill setup outcome (settle completion index task state) =
        .ok next) :
    ∃ stale,
      Submits
        { settle completion index task state with
          ctx :=
            { (settle completion index task state).ctx with
              pendingReads := [] } }
        next
        ⟨readTask setup stale completion.cdw0.toUInt64 task.expectedData,
          .read completion.cdw0.toUInt64 setup.entry.ioSizeBlocks,
          outcome.rc⟩ := by
  have stillEarly := isDraining_settle completion index task state
  rw [notDraining] at stillEarly
  have pending := pendingReads_settle completion index task state
  rw [if_neg (by rw [mode]; exact Bool.false_ne_true),
    immediate.early notDraining, taskKey_deliver_append completion mode]
    at pending
  rcases refill_cases refilled with
    ⟨draining, _⟩ | ⟨verifyLba, expectedData, rest, _, queued, _, submitted⟩ |
      ⟨_, blocked, _⟩
  · rw [stillEarly] at draining
    cases draining
  · rw [pending] at queued
    cases queued
    exact submits_verifyRead submitted
  · rcases blocked with empty | full
    · rw [pending] at empty
      cases empty
    · exact absurd (accounting.depth_settle_lt found completion) full

/-- Before draining, a completed read leaves the queue empty. -/
theorem submits_append_of_read
    {index : Nat} {task : ArbTask} {completion : Completion}
    {outcome : SubmitOutcome}
    (immediate : Immediate setup state)
    (notDraining : state.ctx.isDraining = false)
    (mode : task.verificationMode = true)
    (refilled :
      refill setup outcome (settle completion index task state) =
        .ok next) :
    next.ctx.isDraining = false ∧ next.ctx.pendingReads = [] := by
  have stillEarly := isDraining_settle completion index task state
  rw [notDraining] at stillEarly
  have pending := pendingReads_settle completion index task state
  rw [if_pos mode, immediate.early notDraining] at pending
  rcases refill_cases refilled with
    ⟨draining, _⟩ | ⟨verifyLba, expectedData, rest, _, queued, _⟩ |
      ⟨_, _, submitted⟩
  · rw [stillEarly] at draining
    cases draining
  · rw [pending] at queued
    cases queued
  · rcases submits_append submitted with ⟨stale, submits⟩
    rcases submits.ctx with ⟨_, _, _, ctx⟩
    rw [ctx]
    exact ⟨stillEarly, pending⟩

theorem Immediate.step
    {event : Event}
    (immediate : Immediate setup state)
    (accounting : Accounting setup total state)
    (taken : step setup state event = some next) :
    Immediate setup next := by
  rcases step_cases taken with
    ⟨outcome, rfl, remaining, submitted⟩ |
      ⟨index, completion, outcome, task, rfl, done, found, refilled⟩ |
        ⟨rfl, done, rfl⟩
  · rcases submits_append submitted with ⟨stale, submits⟩
    rcases submits.ctx with ⟨_, _, _, ctx⟩
    constructor
    · intro notDraining
      rw [ctx] at notDraining ⊢
      exact immediate.early notDraining
    · intro draining
      rw [ctx] at draining
      exact absurd (accounting.draining draining) remaining
  · cases draining : state.ctx.isDraining with
    | true =>
        have settled := eq_settle_of_draining draining refilled
        subst settled
        have bounded := immediate.late draining
        rcases List.getElem?_eq_some_iff.mp found with ⟨inside, _⟩
        have shorter :
            (state.inFlight.eraseIdx index).length + 1 =
              state.inFlight.length := by
          rw [List.length_eraseIdx_of_lt inside]
          omega
        constructor
        · intro notDraining
          rw [isDraining_settle, draining] at notDraining
          cases notDraining
        · intro _
          rw [pendingReads_settle]
          change _ + (state.inFlight.eraseIdx index).length ≤ _
          split
          · omega
          · rw [List.length_append, List.length_singleton]
            omega
    | false =>
        have kept :
            next.ctx.isDraining = false ∧ next.ctx.pendingReads = [] := by
          cases mode : task.verificationMode with
          | true =>
              exact submits_append_of_read immediate draining mode refilled
          | false =>
              rcases
                  submits_read_of_append immediate accounting draining mode
                    found refilled with
                ⟨stale, submits⟩
              rcases submits.ctx with ⟨_, _, _, ctx⟩
              rw [ctx]
              refine ⟨?_, rfl⟩
              exact
                (isDraining_settle completion index task state).trans
                  draining
        constructor
        · intro _
          exact kept.2
        · intro isDraining
          rw [kept.1] at isDraining
          cases isDraining
  · constructor
    · intro notDraining
      cases notDraining
    · intro _
      cases draining : state.ctx.isDraining with
      | true => exact immediate.late draining
      | false =>
          have bounded := accounting.bounded
          dsimp only
          rw [immediate.early draining, List.length_nil]
          omega

/-- A draining context adds the entry of an append that completes. -/
theorem pendingReads_of_draining
    {event : Event}
    (accounting : Accounting setup total state)
    (draining : state.ctx.isDraining = true)
    (taken : VerificationEngine.step setup state event = some next) :
    next.ctx.pendingReads =
      state.ctx.pendingReads ++ lateEntry state event := by
  rcases step_cases taken with
    ⟨outcome, rfl, remaining, submitted⟩ |
      ⟨index, completion, outcome, task, rfl, done, found, refilled⟩ |
        ⟨rfl, done, rfl⟩
  · exact absurd (accounting.draining draining) remaining
  · rw [eq_settle_of_draining draining refilled, pendingReads_settle,
      lateEntry, found]
    dsimp only
    split
    · rw [List.append_nil]
    · rename_i mode
      rw [taskKey_deliver_append completion (by simpa using mode)]
  · exact (List.append_nil _).symm

end Step

/-! ## Runs -/

theorem immediate_of_reachable
    {setup : Setup} {taskPool : List ArbTask}
    {allowed : Verifier → Event → Prop} {state : Verifier}
    (reachable : Reachable setup taskPool allowed state) :
    Immediate setup state := by
  refine
    Run.preserves_along reachable (immediate_initial setup taskPool) ?_
  intro before event after reached immediate _ taken
  exact immediate.step (accounting_of_reachable reached) taken

/--
In every state of every run, whatever the submissions return: before draining
nothing is pending, and a completed append is read back in its callback; while
draining at most `queue_depth` appends are pending, and a step adds the one
that it completes.
-/
theorem verification_is_immediate
    (setup : Setup) (taskPool : List ArbTask) (state : Verifier)
    (depth : 1 ≤ setup.arbitration.queueDepth.toInt)
    (reachable : Reachable setup taskPool Unrestricted state) :
    (state.ctx.isDraining = false →
        state.ctx.pendingReads = [] ∧
          ∀ index completion outcome task next,
            state.inFlight[index]? = some task →
              task.verificationMode = false →
                step setup state (.complete index completion outcome) =
                    some next →
                  ∃ issue,
                    next.issued = state.issued ++ [issue] ∧
                      issue.task.verificationMode = true ∧
                        issue.task.expectedData = task.expectedData ∧
                          issue.command =
                            .read completion.cdw0.toUInt64
                              setup.entry.ioSizeBlocks) ∧
      (state.ctx.isDraining = true →
        (state.ctx.pendingReads.length : Int) ≤
            setup.arbitration.queueDepth.toInt ∧
          ∀ event next,
            step setup state event = some next →
              next.ctx.isDraining = true ∧
                next.ctx.pendingReads =
                  state.ctx.pendingReads ++ lateEntry state event) := by
  have accounting := accounting_of_reachable reachable
  have immediate := immediate_of_reachable reachable
  constructor
  · intro notDraining
    refine ⟨immediate.early notDraining, ?_⟩
    intro index completion outcome task next found mode taken
    rcases
        submits_read_of_append immediate accounting notDraining mode found
          (refill_of_complete found taken) with
      ⟨stale, submits⟩
    exact ⟨_, submits.issued, rfl, rfl, rfl⟩
  · intro draining
    have bounded := immediate.late draining
    constructor
    · unfold ArbContext.submitIterations at bounded
      omega
    · intro event next taken
      exact
        ⟨(accounting.issued_eq_of_draining draining taken).2,
          pendingReads_of_draining accounting draining taken⟩

/-- Two appends complete out of order while the context drains. -/
theorem verification_is_immediate_two_deep :
    ∃ state,
      Reachable ⟨⟨2, 512, false, 1, 1⟩, ⟨1, 1024⟩⟩ [idleTask, idleTask]
          Unrestricted state ∧
        state.ctx.isDraining = true ∧
          state.ctx.writeCompleted = 2 ∧
            (state.ctx.pendingReads.length : Int) ≤ 2 := by
  have replayed :
      ∃ state,
        Reachable ⟨⟨2, 512, false, 1, 1⟩, ⟨1, 1024⟩⟩
            [idleTask, idleTask] Unrestricted state ∧
          state.ctx.isDraining = true ∧ state.ctx.writeCompleted = 2 :=
    Run.exists_of_replay _
      [.submit ⟨0, true, 0, 0⟩, .submit ⟨0, true, 0, 0⟩, .drain,
        .complete 1 ⟨false, 8, [], []⟩ ⟨0, true, 0, 0⟩,
        .complete 0 ⟨false, 7, [], []⟩ ⟨0, true, 0, 0⟩]
      (by decide +kernel)
  rcases replayed with ⟨state, reached, draining, written⟩
  exact
    ⟨state, reached, draining, written,
      ((verification_is_immediate _ _ state (by decide) reached).2
        draining).1⟩

end ZnsBench.Multipath.ImmediateVerification

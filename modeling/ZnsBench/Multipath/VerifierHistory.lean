import ZnsBench.Multipath.VerificationEngine

/-!
# What the verifier remembers of its appends

The LBA and the pattern of an append travel from its task through
`pending_reads` into the task of a verify read, while other commands complete
in any order and tasks are recycled.  The laws of this module follow them in
every run, without any assumption on the device:

* the verify reads issued so far, followed by `pending_reads`, are the
  completed appends in completion order;
* a task in flight either writes the pattern of some counter value or carries
  the LBA and the pattern of a completed append;
* the completion counters count the completions delivered, of whatever
  status.
-/

namespace ZnsBench.Multipath.VerifierHistory

open ZnsBench.Core.ByteString
open ZnsBench.Core.GuardedRun
open ZnsBench.Multipath.NamespaceRegistration
open ZnsBench.Multipath.SpdkInterface
open ZnsBench.Multipath.VerificationEngine

/-- The completions of appends, in completion order. -/
def completedAppends (state : Verifier) : List Finish :=
  state.finished.filter fun finish => !finish.task.verificationMode

/-- The verify reads handed to SPDK, in order, accepted or not. -/
def verifyReads (state : Verifier) : List Issue :=
  state.issued.filter fun issue => issue.task.verificationMode

/-- The LBA and the data a task stands for. -/
def taskKey (task : ArbTask) : UInt64 × Bytes :=
  (task.lba, task.expectedData)

/-- The task of an append writes the pattern of one counter value. -/
def Writes (setup : Setup) (task : ArbTask) : Prop :=
  ∃ count,
    task.expectedData = dataPattern count ∧
      task.buf = some (block setup (dataPattern count))

/-- What a state says of the commands submitted and completed so far. -/
structure History (setup : Setup) (state : Verifier) : Prop where
  queue :
    (verifyReads state).map (fun issue => taskKey issue.task) ++
        state.ctx.pendingReads =
      (completedAppends state).map fun finish => taskKey finish.task
  completions :
    state.ctx.ioCompleted = UInt64.ofNat state.finished.length
  writes :
    state.ctx.writeCompleted =
      UInt64.ofNat (completedAppends state).length
  appended :
    ∀ finish ∈ completedAppends state,
      Writes setup finish.task ∧
        finish.task.lba = finish.completion.cdw0.toUInt64
  appending :
    ∀ task ∈ state.inFlight,
      task.verificationMode = false → Writes setup task
  reading :
    ∀ task ∈ state.inFlight,
      task.verificationMode = true →
        ∃ finish ∈ completedAppends state,
          taskKey finish.task = taskKey task
  commands :
    ∀ issue ∈ verifyReads state,
      issue.command = .read issue.task.lba setup.entry.ioSizeBlocks

theorem history_initial (setup : Setup) (taskPool : List ArbTask) :
    History setup (initial setup taskPool) where
  queue := rfl
  completions := rfl
  writes := rfl
  appended := by
    intro finish member
    cases member
  appending := by
    intro task member
    cases member
  reading := by
    intro task member
    cases member
  commands := by
    intro issue member
    cases member

/-! ## Submissions -/

/--
The effect of a submission on everything but the pool: one more issued
command, which joins the flight when SPDK accepted it.
-/
structure Submits (state next : Verifier) (issue : Issue) : Prop where
  finished : next.finished = state.finished
  issued : next.issued = state.issued ++ [issue]
  inFlight :
    next.inFlight =
      if issue.rc = 0 then
        state.inFlight ++ [issue.task]
      else
        state.inFlight
  ctx :
    ∃ depth offset count,
      next.ctx =
        { state.ctx with
          currentQueueDepth := depth
          offsetInIos := offset
          count := count }

theorem submits_startIo
    (rc : Int) (task : ArbTask) (command : Command) (state : Verifier) :
    Submits state (startIo rc task command state) ⟨task, command, rc⟩ := by
  unfold startIo
  split
  · rename_i rejected
    exact ⟨rfl, rfl, (if_neg rejected).symm, ⟨_, _, _, rfl⟩⟩
  · rename_i accepted
    exact
      ⟨rfl, rfl, (if_pos (not_ne_iff.mp accepted)).symm,
        ⟨_, _, _, rfl⟩⟩

theorem submits_append
    {setup : Setup} {state next : Verifier} {outcome : SubmitOutcome}
    (submitted : submitSingleIo setup outcome .append state = .ok next) :
    ∃ stale,
      Submits state next
        ⟨appendTask setup stale state.ctx.count,
          .zoneAppend zslba setup.entry.ioSizeBlocks
            (block setup (dataPattern state.ctx.count)),
          outcome.rc⟩ := by
  rcases submitSingleIo_append_ok submitted with
    ⟨stale, pool, _, rfl⟩
  rcases
      advanceOffset_eq setup
        { state.ctx with count := state.ctx.count + 1 } with
    ⟨offset, advanced⟩
  rw [advanced]
  rcases submits_startIo outcome.rc _ _ _ with
    ⟨finished, issued, inFlight, depth, _, _, ctx⟩
  exact ⟨stale, finished, issued, inFlight, depth, _, _, ctx⟩

theorem submits_verifyRead
    {setup : Setup} {state next : Verifier} {outcome : SubmitOutcome}
    {verifyLba : UInt64} {expectedData : Bytes}
    (submitted :
      submitSingleIo setup outcome (.verifyRead verifyLba expectedData)
        state = .ok next) :
    ∃ stale,
      Submits state next
        ⟨readTask setup stale verifyLba expectedData,
          .read verifyLba setup.entry.ioSizeBlocks, outcome.rc⟩ := by
  rcases submitSingleIo_verifyRead_ok submitted with
    ⟨stale, pool, _, rfl⟩
  rcases submits_startIo outcome.rc _ _ _ with
    ⟨finished, issued, inFlight, ctx⟩
  exact ⟨stale, finished, issued, inFlight, ctx⟩

namespace Submits

variable {state next : Verifier} {issue : Issue}

theorem completedAppends_eq (submits : Submits state next issue) :
    completedAppends next = completedAppends state := by
  rw [completedAppends, submits.finished]
  rfl

theorem verifyReads_eq (submits : Submits state next issue) :
    verifyReads next =
      if issue.task.verificationMode then
        verifyReads state ++ [issue]
      else
        verifyReads state := by
  rw [verifyReads, submits.issued, List.filter_append]
  split <;> simp_all [verifyReads]

theorem mem_inFlight {task : ArbTask}
    (submits : Submits state next issue)
    (member : task ∈ next.inFlight) :
    task ∈ state.inFlight ∨ task = issue.task := by
  rw [submits.inFlight] at member
  split at member
  · rcases List.mem_append.mp member with old | new
    · exact Or.inl old
    · exact Or.inr (List.mem_singleton.mp new)
  · exact Or.inl member

end Submits

/-- Submitting an append adds a task that writes its pattern. -/
theorem History.append
    {setup : Setup} {state next : Verifier} {outcome : SubmitOutcome}
    (history : History setup state)
    (submitted : submitSingleIo setup outcome .append state = .ok next) :
    History setup next := by
  rcases submits_append submitted with ⟨stale, submits⟩
  have reads : verifyReads next = verifyReads state :=
    submits.verifyReads_eq
  rcases submits.ctx with ⟨_, _, _, ctx⟩
  constructor
  · rw [reads, submits.completedAppends_eq, ctx]
    exact history.queue
  · rw [submits.finished, ctx]
    exact history.completions
  · rw [submits.completedAppends_eq, ctx]
    exact history.writes
  · rw [submits.completedAppends_eq]
    exact history.appended
  · intro task member mode
    rcases submits.mem_inFlight member with old | rfl
    · exact history.appending task old mode
    · exact ⟨state.ctx.count, rfl, rfl⟩
  · intro task member mode
    rw [submits.completedAppends_eq]
    rcases submits.mem_inFlight member with old | rfl
    · exact history.reading task old mode
    · cases mode
  · rw [reads]
    exact history.commands

/-- A verify read takes over the oldest entry of `pending_reads`. -/
theorem History.verifyRead
    {setup : Setup} {state next : Verifier} {outcome : SubmitOutcome}
    {verifyLba : UInt64} {expectedData : Bytes}
    {rest : List (UInt64 × Bytes)}
    (history : History setup state)
    (pending : state.ctx.pendingReads = (verifyLba, expectedData) :: rest)
    (submitted :
      submitSingleIo setup outcome (.verifyRead verifyLba expectedData)
          { state with ctx := { state.ctx with pendingReads := rest } } =
        .ok next) :
    History setup next := by
  rcases submits_verifyRead submitted with ⟨stale, submits⟩
  have appends : completedAppends next = completedAppends state :=
    submits.completedAppends_eq
  have reads :
      verifyReads next =
        verifyReads state ++
          [⟨readTask setup stale verifyLba expectedData,
            .read verifyLba setup.entry.ioSizeBlocks, outcome.rc⟩] :=
    submits.verifyReads_eq
  rcases submits.ctx with ⟨_, _, _, ctx⟩
  have queue := history.queue
  rw [pending] at queue
  constructor
  · rw [reads, appends, ctx, ← queue]
    simp [verifyReads, taskKey, readTask]
  · rw [submits.finished, ctx]
    exact history.completions
  · rw [appends, ctx]
    exact history.writes
  · rw [appends]
    exact history.appended
  · intro task member mode
    rcases submits.mem_inFlight member with old | rfl
    · exact history.appending task old mode
    · cases mode
  · intro task member mode
    rw [appends]
    rcases submits.mem_inFlight member with old | rfl
    · exact history.reading task old mode
    · have entry :
          (verifyLba, expectedData) ∈
            (completedAppends state).map
              fun finish => taskKey finish.task := by
        rw [← queue]
        simp
      rcases List.mem_map.mp entry with ⟨finish, found, equal⟩
      exact ⟨finish, found, equal⟩
  · intro issue member
    rw [reads] at member
    rcases List.mem_append.mp member with old | new
    · exact history.commands issue old
    · rw [List.mem_singleton] at new
      subst new
      rfl

/-! ## Completions -/

/-- A completion of a read leaves the list of completed appends alone. -/
@[simp]
theorem completedAppends_settle
    (completion : Completion) (index : Nat) (task : ArbTask)
    (state : Verifier) :
    completedAppends (settle completion index task state) =
      if task.verificationMode then
        completedAppends state
      else
        completedAppends state ++
          [⟨deliver completion task, completion,
            state.ctx.isDraining⟩] := by
  unfold completedAppends settle
  rw [List.filter_append]
  split <;> simp_all

@[simp]
theorem pendingReads_settle
    (completion : Completion) (index : Nat) (task : ArbTask)
    (state : Verifier) :
    (settle completion index task state).ctx.pendingReads =
      if task.verificationMode then
        state.ctx.pendingReads
      else
        state.ctx.pendingReads ++ [taskKey (deliver completion task)] := by
  cases mode : task.verificationMode with
  | true =>
      rw [ctx_settle_read _ _ _ _ mode]
      rfl
  | false =>
      rw [ctx_settle_append _ _ _ _ mode]
      simp [taskKey]

/-- A completion moves its task into the history. -/
theorem History.settle
    {setup : Setup} {state : Verifier} {index : Nat} {task : ArbTask}
    (history : History setup state)
    (found : state.inFlight[index]? = some task)
    (completion : Completion) :
    History setup (settle completion index task state) := by
  have inFlight : task ∈ state.inFlight := List.mem_of_getElem? found
  have remaining :
      ∀ other ∈ (VerificationEngine.settle completion index task
          state).inFlight,
        other ∈ state.inFlight := by
    intro other member
    exact List.mem_of_mem_eraseIdx member
  have counted :
      (VerificationEngine.settle completion index task
          state).ctx.ioCompleted =
        UInt64.ofNat
          (VerificationEngine.settle completion index task
            state).finished.length := by
    rw [ioCompleted_settle, history.completions]
    simp only [VerificationEngine.settle, List.length_append,
      UInt64.ofNat_add]
    rfl
  have writes := history.writes
  cases mode : task.verificationMode with
  | true =>
      have appends :
          completedAppends
              (VerificationEngine.settle completion index task state) =
            completedAppends state := by
        rw [completedAppends_settle, if_pos mode]
      constructor
      · rw [appends, pendingReads_settle, if_pos mode]
        exact history.queue
      · exact counted
      · rw [appends, writeCompleted_settle, if_pos mode]
        simpa using writes
      · rw [appends]
        exact history.appended
      · intro other member
        exact history.appending other (remaining other member)
      · intro other member
        rw [appends]
        exact history.reading other (remaining other member)
      · exact history.commands
  | false =>
      have appends :
          completedAppends
              (VerificationEngine.settle completion index task state) =
            completedAppends state ++
              [⟨deliver completion task, completion,
                state.ctx.isDraining⟩] := by
        rw [completedAppends_settle, mode]
        rfl
      constructor
      · rw [appends, pendingReads_settle, mode, List.map_append,
          ← history.queue, List.append_assoc]
        rfl
      · exact counted
      · rw [appends, writeCompleted_settle, writes, mode,
          List.length_append, UInt64.ofNat_add]
        rfl
      · intro finish member
        rw [appends] at member
        rcases List.mem_append.mp member with old | new
        · exact history.appended finish old
        · rw [List.mem_singleton] at new
          subst new
          rcases history.appending task inFlight mode with
            ⟨count, expected, buffer⟩
          simp only [Writes, deliver, mode, Bool.false_eq_true, if_false]
          exact ⟨⟨count, expected, buffer⟩, trivial⟩
      · intro other member
        exact history.appending other (remaining other member)
      · intro other member otherMode
        rcases history.reading other (remaining other member) otherMode with
          ⟨finish, completed, equal⟩
        rw [appends]
        exact ⟨finish, List.mem_append_left _ completed, equal⟩
      · exact history.commands

/-! ## Runs -/

/-- Every step keeps the laws of the history. -/
theorem History.step
    {setup : Setup} {state next : Verifier} {event : Event}
    (history : History setup state)
    (taken : step setup state event = some next) :
    History setup next := by
  rcases step_cases taken with
    ⟨outcome, rfl, remaining, submitted⟩ |
      ⟨index, completion, outcome, task, rfl, done, found, refilled⟩ |
        ⟨rfl, done, rfl⟩
  · have counted :
        History setup
          { state with submitsLeft := state.submitsLeft - 1 } :=
      { history with }
    exact counted.append submitted
  · have settled := history.settle found completion
    rcases refill_cases refilled with
      ⟨_, idle⟩ |
        ⟨verifyLba, expectedData, rest, _, pending, _, submitted⟩ |
          ⟨_, _, submitted⟩
    · cases idle
      exact settled
    · exact settled.verifyRead pending submitted
    · exact settled.append submitted
  · exact
      ⟨history.queue, history.completions, history.writes,
        history.appended, history.appending, history.reading,
        history.commands⟩

/-- The laws of the history hold in every state of every run. -/
theorem history_of_reachable
    {setup : Setup} {taskPool : List ArbTask}
    {allowed : Verifier → Event → Prop} {state : Verifier}
    (reachable : Reachable setup taskPool allowed state) :
    History setup state :=
  reachable.preserves (history_initial setup taskPool)
    (fun _ _ _ history _ taken => history.step taken)

end ZnsBench.Multipath.VerifierHistory

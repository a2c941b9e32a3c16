import ZnsBench.Multipath.ClosedLoopEngine
import Mathlib.Algebra.BigOperators.Group.Finset.Piecewise

/-!
# The benchmark engines under interleaved workers

The contexts of a benchmark belong to workers that run on their own cores and
share one task pool.  A callback returns its task to the pool and then takes
a task for the next command; other workers may use the pool in between.  The
steps here split a callback at that point: `retire` runs it up to the return
of the task, and the submission it still owes is a step of its own, like an
iteration of `submit_io`.

Every run of `ClosedLoopEngine`, where callbacks are atomic, is a run here.
The laws of this module hold in every state of every interleaving: they count
the tasks and the buffers of the commands that SPDK rejected, which no code
gives back.
-/

namespace ZnsBench.Multipath.WorkerInterleaving

open ZnsBench.Core.GuardedRun
open ZnsBench.Multipath.NamespaceRegistration
open ZnsBench.Multipath.SpdkInterface
open ZnsBench.Multipath.ClosedLoopEngine

/-! ## Steps -/

/-- The turns of the workers, with callbacks cut in two. -/
inductive Event where
  /-- One call of `submit_single_io` for a context. -/
  | submit (index : Nat) (outcome : SubmitOutcome)
  /-- A callback up to the point where its task is back in the pool. -/
  | retire (position : Nat) (completion : Completion)
  | drain (index : Nat)
  deriving DecidableEq, Repr

/-- A callback owes a submission unless its context is draining. -/
def retireOwing (completion : Completion) (task : ArbTask)
    (state : Bench) : Bench :=
  if (state.ctx task.nsCtx).isDraining then
    retire completion task state
  else
    { retire completion task state with
      submitsLeft :=
        Function.update state.submitsLeft task.nsCtx
          (state.submitsLeft task.nsCtx + 1) }

/--
The reaction to an event.  A context whose submissions are not all made is
inside `submit_io` or inside a callback, and its worker does not poll.
-/
def react (variant : Variant) (setup : Setup) (state : Bench) :
    Event → Option (Except Exit Bench)
  | .submit index outcome =>
      ClosedLoopEngine.react variant setup state (.submit index outcome)
  | .retire position completion =>
      match state.inFlight[position]? with
      | none => none
      | some task =>
          if state.submitsLeft task.nsCtx = 0 then
            some
              (.ok
                (retireOwing completion task
                  { state with
                    inFlight := state.inFlight.eraseIdx position }))
          else
            none
  | .drain index =>
      ClosedLoopEngine.react variant setup state (.drain index)

/-- A turn of a process that does not end. -/
def step (variant : Variant) (setup : Setup) (state : Bench)
    (event : Event) : Option Bench :=
  match react variant setup state event with
  | some (.ok next) => some next
  | _ => none

/-- The states of the runs whose turns are all allowed. -/
def Reachable (variant : Variant) (setup : Setup)
    (taskPool : List ArbTask) (allowed : Bench → Event → Prop)
    (state : Bench) : Prop :=
  Run (step variant setup) allowed (initial setup taskPool) state

theorem step_cases
    {variant : Variant} {setup : Setup} {state next : Bench}
    {event : Event}
    (taken : step variant setup state event = some next) :
    (∃ index outcome,
      event = .submit index outcome ∧
        state.submitsLeft index ≠ 0 ∧
          submitSingleIo variant setup outcome index
              { state with
                submitsLeft :=
                  Function.update state.submitsLeft index
                    (state.submitsLeft index - 1) } =
            .ok next) ∨
      (∃ position completion task,
        event = .retire position completion ∧
          state.inFlight[position]? = some task ∧
            state.submitsLeft task.nsCtx = 0 ∧
              next =
                retireOwing completion task
                  { state with
                    inFlight := state.inFlight.eraseIdx position }) ∨
        (∃ index,
          event = .drain index ∧
            state.submitsLeft index = 0 ∧
              next =
                { state with
                  ctx :=
                    Function.update state.ctx index
                      { state.ctx index with isDraining := true } }) := by
  unfold step at taken
  split at taken
  · rename_i reached reaction
    cases taken
    cases event with
    | submit index outcome =>
        left
        simp only [react, ClosedLoopEngine.react] at reaction
        split at reaction
        · cases reaction
        · rename_i remaining
          exact ⟨index, outcome, rfl, remaining, Option.some.inj reaction⟩
    | retire position completion =>
        right
        left
        simp only [react] at reaction
        split at reaction
        · cases reaction
        · rename_i task found
          split at reaction
          · rename_i submitted
            cases reaction
            exact ⟨position, completion, task, rfl, found, submitted, rfl⟩
          · cases reaction
    | drain index =>
        right
        right
        simp only [react, ClosedLoopEngine.react] at reaction
        split at reaction
        · rename_i submitted
          cases reaction
          exact ⟨index, rfl, submitted, rfl⟩
        · cases reaction
  · cases taken

/-! ## Atomic callbacks are a special case -/

/-- After `retire`, the rest of a callback is the submission it owes. -/
theorem run_of_ioComplete
    {variant : Variant} {setup : Setup} {state next : Bench}
    {completion : Completion} {outcome : SubmitOutcome} {task : ArbTask}
    (completed :
      ioComplete variant setup outcome completion task state = .ok next) :
    Run (step variant setup) Unrestricted
      (retireOwing completion task state) next := by
  have same :
      ((retire completion task state).ctx task.nsCtx).isDraining =
        (state.ctx task.nsCtx).isDraining := by
    simp [retire]
  rw [ioComplete, same] at completed
  split at completed
  · rename_i draining
    cases completed
    rw [retireOwing, if_pos draining]
    exact .refl
  · rename_i running
    have restored :
        Function.update
            (Function.update state.submitsLeft task.nsCtx
              (state.submitsLeft task.nsCtx + 1))
            task.nsCtx (state.submitsLeft task.nsCtx) =
          state.submitsLeft := by
      rw [Function.update_idem, Function.update_eq_self]
    have stepped :
        step variant setup (retireOwing completion task state)
            (.submit task.nsCtx outcome) =
          some next := by
      simp only [step, react, ClosedLoopEngine.react, retireOwing,
        if_neg running, Function.update_self, Nat.succ_ne_zero, if_false,
        Nat.add_sub_cancel, restored]
      rw [show { retire completion task state with
            submitsLeft := state.submitsLeft } =
          retire completion task state from rfl, completed]
    exact .tail .refl True.intro stepped

/-- An atomic callback is a `retire` and the submission it owes. -/
theorem run_of_callback
    {variant : Variant} {setup : Setup} {state next : Bench}
    {event : ClosedLoopEngine.Event}
    (taken : ClosedLoopEngine.step variant setup state event = some next) :
    Run (step variant setup) Unrestricted state next := by
  rcases ClosedLoopEngine.step_cases taken with
    ⟨index, outcome, rfl, remaining, submitted⟩ |
      ⟨position, completion, outcome, task, rfl, found, done,
        completed⟩ |
        ⟨index, rfl, done, rfl⟩
  · have stepped :
        step variant setup state (.submit index outcome) = some next := by
      simp only [step, react, ClosedLoopEngine.react, if_neg remaining,
        submitted]
    exact .tail .refl True.intro stepped
  · have retired :
        step variant setup state (.retire position completion) =
          some
            (retireOwing completion task
              { state with
                inFlight := state.inFlight.eraseIdx position }) := by
      simp only [step, react, found, if_pos done]
    have first : Run (step variant setup) Unrestricted state _ :=
      .tail .refl True.intro retired
    exact first.trans (run_of_ioComplete completed)
  · have stepped :
        step variant setup state (.drain index) =
          some
            { state with
              ctx :=
                Function.update state.ctx index
                  { state.ctx index with isDraining := true } } := by
      simp only [step, react, ClosedLoopEngine.react, if_pos done]
    exact .tail .refl True.intro stepped

/-- Runs with atomic callbacks are runs of the interleaved workers. -/
theorem reachable_of_callbacks
    {variant : Variant} {setup : Setup} {taskPool : List ArbTask}
    {state : Bench}
    (reachable :
      ClosedLoopEngine.Reachable variant setup taskPool Unrestricted
        state) :
    Reachable variant setup taskPool Unrestricted state := by
  refine reachable.preserves .refl ?_
  intro before event next reached _ taken
  exact reached.trans (run_of_callback taken)

/-! ## Conservation -/

/-- The submissions that SPDK rejected. -/
def rejected (state : Bench) : List (Nat × Command × Int) :=
  state.issued.filter fun issue => issue.2.2 ≠ 0

/-- The commands of one context in flight. -/
def flightOf (state : Bench) (index : Nat) : Nat :=
  state.inFlight.countP fun task => task.nsCtx == index

/-- The submissions that the contexts are still to make. -/
def owed (contexts : Nat) (submitsLeft : Nat → Nat) : Nat :=
  ∑ index ∈ Finset.range contexts, submitsLeft index

theorem owed_update
    {contexts index : Nat} (inside : index < contexts)
    (submitsLeft : Nat → Nat) (value : Nat) :
    owed contexts (Function.update submitsLeft index value) +
        submitsLeft index =
      owed contexts submitsLeft + value := by
  have member : index ∈ Finset.range contexts := Finset.mem_range.mpr inside
  have before :=
    Finset.sum_erase_add (Finset.range contexts) submitsLeft member
  unfold owed
  rw [Finset.sum_update_of_mem member, Finset.sdiff_singleton_eq_erase,
    ← before]
  omega

/-- At first every context owes all its submissions. -/
@[simp]
theorem owed_initial (setup : Setup) (taskPool : List ArbTask) :
    owed setup.contexts (initial setup taskPool).submitsLeft =
      setup.contexts * setup.arbitration.submitIterations := by
  rw [owed, Finset.sum_const_nat, Finset.card_range]
  intro index member
  exact if_pos (Finset.mem_range.mp member)

/--
The laws of a pool that held `total` tasks at the start.  `demand` bounds
what the contexts take from the pool, now and in what they still submit.
-/
structure Conserved (setup : Setup) (total : Nat) (state : Bench) :
    Prop where
  pool :
    state.taskPool.length + state.inFlight.length +
        (rejected state).length = total
  buffers :
    state.liveBuffers = state.inFlight.length + (rejected state).length
  depth :
    ∀ index,
      (state.ctx index).currentQueueDepth.toNat = flightOf state index
  share :
    ∀ index,
      flightOf state index + state.submitsLeft index ≤
        setup.arbitration.submitIterations
  owners : ∀ task ∈ state.inFlight, task.nsCtx < setup.contexts
  idle : ∀ index, setup.contexts ≤ index → state.submitsLeft index = 0
  demand :
    state.inFlight.length + (rejected state).length +
        owed setup.contexts state.submitsLeft ≤
      setup.contexts * setup.arbitration.submitIterations

theorem conserved_initial (setup : Setup) (taskPool : List ArbTask) :
    Conserved setup taskPool.length (initial setup taskPool) where
  pool := by simp [initial, rejected]
  buffers := rfl
  depth := fun _ => rfl
  share := by
    intro index
    simp only [initial, flightOf, List.countP_nil, Nat.zero_add]
    split
    · exact le_refl _
    · exact Nat.zero_le _
  owners := by
    intro task member
    cases member
  idle := by
    intro index outside
    simp [initial, not_lt.mpr outside]
  demand := by
    rw [owed_initial]
    simp [initial, rejected]

/-- The depth of a context stays far below the range of `uint64_t`. -/
theorem Conserved.flightOf_lt
    {setup : Setup} {total : Nat} {state : Bench}
    (conserved : Conserved setup total state) (index : Nat) :
    flightOf state index < 2 ^ 31 := by
  have share := conserved.share index
  have range := setup.arbitration.queueDepth.toInt_lt
  unfold ArbContext.submitIterations at share
  omega

/-- The effect of a submission on what the laws count. -/
structure Submits (index : Nat) (rc : Int) (state next : Bench) :
    Prop where
  pool : next.taskPool.length + 1 = state.taskPool.length
  buffers : next.liveBuffers = state.liveBuffers + 1
  submitsLeft : next.submitsLeft = state.submitsLeft
  flight :
    ∃ task : ArbTask,
      task.nsCtx = index ∧
        next.inFlight =
          state.inFlight ++ if rc = 0 then [task] else []
  rejected :
    (rejected next).length =
      (rejected state).length + if rc = 0 then 0 else 1
  depth :
    ∀ other,
      (next.ctx other).currentQueueDepth =
        (state.ctx other).currentQueueDepth +
          if other = index ∧ rc = 0 then 1 else 0

theorem submits_of_submitSingleIo
    {variant : Variant} {setup : Setup} {index : Nat}
    {state next : Bench} {outcome : SubmitOutcome}
    (submitted :
      submitSingleIo variant setup outcome index state = .ok next) :
    Submits index outcome.rc state next := by
  rcases submitSingleIo_ok submitted with
    ⟨stale, pool, chosen, buffer, offset, taken, rfl⟩
  have shorter := length_of_mempoolGet taken
  by_cases ok : outcome.rc = 0
  · simp only [startIo, ne_eq, ok, not_true_eq_false, if_false]
    refine
      ⟨shorter, rfl, rfl, ⟨⟨index, buffer⟩, rfl, by simp⟩,
        by simp [rejected], ?_⟩
    intro other
    by_cases equal : other = index
    · subst other
      simp
    · simp [equal]
  · simp only [startIo, ne_eq, ok, not_false_eq_true, if_true]
    refine
      ⟨shorter, rfl, rfl, ⟨⟨index, buffer⟩, rfl, by simp [ok]⟩,
        by simp [rejected, ok], ?_⟩
    intro other
    by_cases equal : other = index
    · subst other
      simp [ok]
    · simp [equal]

/-- A submission takes a task and a buffer, for the flight or for good. -/
theorem Conserved.submit
    {variant : Variant} {setup : Setup} {total index : Nat}
    {state next : Bench} {outcome : SubmitOutcome}
    (conserved : Conserved setup total state)
    (remaining : state.submitsLeft index ≠ 0)
    (submitted :
      submitSingleIo variant setup outcome index
          { state with
            submitsLeft :=
              Function.update state.submitsLeft index
                (state.submitsLeft index - 1) } =
        .ok next) :
    Conserved setup total next := by
  rcases submits_of_submitSingleIo submitted with
    ⟨pool, buffers, submitsLeft, ⟨task, owner, flight⟩, refused, depth⟩
  dsimp only at pool buffers submitsLeft flight depth
  change (rejected next).length = (rejected state).length + _ at refused
  have inside : index < setup.contexts := by
    by_contra outside
    exact remaining (conserved.idle _ (not_lt.mp outside))
  have fewer :=
    owed_update inside state.submitsLeft (state.submitsLeft index - 1)
  rw [← submitsLeft] at fewer
  have length :
      next.inFlight.length =
        state.inFlight.length + if outcome.rc = 0 then 1 else 0 := by
    rw [flight, List.length_append]
    split
    · rfl
    · rfl
  have counted :
      ∀ other,
        flightOf next other =
          flightOf state other +
            if other = index ∧ outcome.rc = 0 then 1 else 0 := by
    intro other
    rw [flightOf, flight, List.countP_append, ← owner]
    by_cases ok : outcome.rc = 0
    · by_cases equal : other = task.nsCtx
      · simp [ok, equal, flightOf]
      · simp [ok, equal, Ne.symm equal, flightOf]
    · simp [ok, flightOf]
  have oldPool := conserved.pool
  have oldBuffers := conserved.buffers
  have oldDemand := conserved.demand
  constructor
  · rw [length, refused]
    split
    · omega
    · omega
  · rw [buffers, oldBuffers, length, refused]
    split
    · omega
    · omega
  · intro other
    have small := conserved.flightOf_lt other
    rw [depth, counted, UInt64.toNat_add, conserved.depth]
    split
    · rw [UInt64.toNat_one]
      omega
    · rw [UInt64.toNat_zero]
      omega
  · intro other
    have share := conserved.share other
    rw [counted, submitsLeft]
    by_cases equal : other = index
    · subst other
      rw [Function.update_self]
      split
      · omega
      · omega
    · rw [Function.update_of_ne equal, if_neg (fun both => equal both.1)]
      exact share
  · intro other member
    rw [flight] at member
    rcases List.mem_append.mp member with old | new
    · exact conserved.owners other old
    · split at new
      · rw [List.mem_singleton.mp new, owner]
        exact inside
      · cases new
  · intro other outside
    have different : other ≠ index := by omega
    rw [submitsLeft, Function.update_of_ne different]
    exact conserved.idle other outside
  · rw [length, refused]
    split
    · omega
    · omega

/-- The effect of a retired callback on what the laws count. -/
structure Retires (task : ArbTask) (state next : Bench) : Prop where
  pool : next.taskPool.length = state.taskPool.length + 1
  buffers : next.liveBuffers = state.liveBuffers - 1
  flight : next.inFlight = state.inFlight
  issued : next.issued = state.issued
  submitsLeft :
    ∃ more ≤ 1,
      next.submitsLeft =
        Function.update state.submitsLeft task.nsCtx
          (state.submitsLeft task.nsCtx + more)
  depth :
    ∀ other,
      (next.ctx other).currentQueueDepth =
        (state.ctx other).currentQueueDepth -
          if other = task.nsCtx then 1 else 0

theorem retires_retireOwing
    (completion : Completion) (task : ArbTask) (state : Bench) :
    Retires task state (retireOwing completion task state) := by
  have depth :
      ∀ other,
        ((retire completion task state).ctx other).currentQueueDepth =
          (state.ctx other).currentQueueDepth -
            if other = task.nsCtx then 1 else 0 := by
    intro other
    by_cases equal : other = task.nsCtx
    · subst other
      simp [retire]
    · simp [retire, equal]
  rw [retireOwing]
  split
  · refine ⟨rfl, rfl, rfl, rfl, ⟨0, Nat.zero_le _, ?_⟩, depth⟩
    rw [Nat.add_zero, Function.update_eq_self]
    rfl
  · exact ⟨rfl, rfl, rfl, rfl, ⟨1, le_refl _, rfl⟩, depth⟩

theorem flightOf_eraseIdx
    {state : Bench} {position : Nat} {task : ArbTask}
    (found : state.inFlight[position]? = some task) (index : Nat) :
    (state.inFlight.eraseIdx position).countP
          (fun task => task.nsCtx == index) +
        (if index = task.nsCtx then 1 else 0) =
      flightOf state index := by
  rcases List.getElem?_eq_some_iff.mp found with ⟨inside, rfl⟩
  have permuted :=
    (List.getElem_cons_eraseIdx_perm inside).countP_eq
      (fun task : ArbTask => task.nsCtx == index)
  rw [List.countP_cons] at permuted
  by_cases equal : index = state.inFlight[position].nsCtx
  · rw [if_pos equal]
    rw [if_pos (beq_iff_eq.mpr equal.symm)] at permuted
    exact permuted
  · rw [if_neg equal]
    rw [if_neg (fun same => equal (beq_iff_eq.mp same).symm)] at permuted
    exact permuted

/-- A retired callback gives its task and its buffer back. -/
theorem Conserved.retire
    {setup : Setup} {total position : Nat} {state : Bench}
    {task : ArbTask}
    (conserved : Conserved setup total state)
    (found : state.inFlight[position]? = some task)
    (done : state.submitsLeft task.nsCtx = 0)
    (completion : Completion) :
    Conserved setup total
      (retireOwing completion task
        { state with inFlight := state.inFlight.eraseIdx position }) := by
  rcases
      retires_retireOwing completion task
        { state with inFlight := state.inFlight.eraseIdx position } with
    ⟨pool, buffers, flight, issued, ⟨more, small, submitsLeft⟩, depth⟩
  generalize
    retireOwing completion task
      { state with inFlight := state.inFlight.eraseIdx position } = next
    at *
  dsimp only at pool buffers flight issued submitsLeft depth
  rw [done, Nat.zero_add] at submitsLeft
  rcases List.getElem?_eq_some_iff.mp found with ⟨bound, _⟩
  have inside : task.nsCtx < setup.contexts :=
    conserved.owners task (List.mem_of_getElem? found)
  have length : next.inFlight.length + 1 = state.inFlight.length := by
    rw [flight, List.length_eraseIdx_of_lt bound]
    omega
  have same : rejected next = rejected state := by
    rw [rejected, issued]
    rfl
  have counted :
      ∀ other,
        flightOf next other + (if other = task.nsCtx then 1 else 0) =
          flightOf state other := by
    intro other
    rw [flightOf, flight]
    exact flightOf_eraseIdx found other
  have added := owed_update inside state.submitsLeft more
  rw [← submitsLeft, done, Nat.add_zero] at added
  have oldPool := conserved.pool
  have oldBuffers := conserved.buffers
  have oldDemand := conserved.demand
  constructor
  · rw [same]
    omega
  · rw [same]
    omega
  · intro other
    have now := counted other
    rw [depth]
    split
    · rename_i own
      rw [if_pos own] at now
      have present : 1 ≤ (state.ctx other).currentQueueDepth := by
        rw [UInt64.le_iff_toNat_le, conserved.depth, UInt64.toNat_one]
        omega
      rw [UInt64.toNat_sub_of_le _ _ present, conserved.depth,
        UInt64.toNat_one]
      omega
    · rename_i foreign
      rw [if_neg foreign, Nat.add_zero] at now
      rw [UInt64.sub_zero, conserved.depth, now]
  · intro other
    have share := conserved.share other
    have now := counted other
    rw [submitsLeft]
    by_cases equal : other = task.nsCtx
    · subst other
      rw [Function.update_self]
      rw [if_pos rfl] at now
      omega
    · rw [Function.update_of_ne equal]
      rw [if_neg equal] at now
      omega
  · intro other member
    rw [flight] at member
    exact conserved.owners other (List.mem_of_mem_eraseIdx member)
  · intro other outside
    have different : other ≠ task.nsCtx := by omega
    rw [submitsLeft, Function.update_of_ne different]
    exact conserved.idle other outside
  · rw [same]
    omega

/-- Every step of every interleaving keeps the laws. -/
theorem Conserved.step
    {variant : Variant} {setup : Setup} {total : Nat}
    {state next : Bench} {event : Event}
    (conserved : Conserved setup total state)
    (taken : step variant setup state event = some next) :
    Conserved setup total next := by
  rcases step_cases taken with
    ⟨index, outcome, rfl, remaining, submitted⟩ |
      ⟨position, completion, task, rfl, found, done, rfl⟩ |
        ⟨index, rfl, done, rfl⟩
  · exact conserved.submit remaining submitted
  · exact conserved.retire found done completion
  · refine
      { conserved with
        depth := ?_ }
    intro other
    have depth := conserved.depth other
    by_cases equal : other = index
    · subst other
      simpa [flightOf] using depth
    · simpa [flightOf, equal] using depth

theorem conserved_of_reachable
    {variant : Variant} {setup : Setup} {taskPool : List ArbTask}
    {allowed : Bench → Event → Prop} {state : Bench}
    (reachable : Reachable variant setup taskPool allowed state) :
    Conserved setup taskPool.length state :=
  reachable.preserves (conserved_initial setup taskPool)
    (fun _ _ _ conserved _ taken => conserved.step taken)

/-- A pool as large as the demand is never found empty. -/
theorem Conserved.react_ne_taskPoolEmpty
    {variant : Variant} {setup : Setup} {total : Nat} {state : Bench}
    (conserved : Conserved setup total state)
    (enough :
      setup.contexts * setup.arbitration.submitIterations ≤ total)
    (event : Event) :
    react variant setup state event ≠ some (.error .taskPoolEmpty) := by
  intro exited
  cases event with
  | submit index outcome =>
      simp only [react, ClosedLoopEngine.react] at exited
      split at exited
      · cases exited
      · rename_i remaining
        have empty :=
          taskPool_eq_nil_of_submitSingleIo (Option.some.inj exited)
        have inside : index < setup.contexts := by
          by_contra outside
          exact remaining (conserved.idle _ (not_lt.mp outside))
        -- The pending submission is part of the demand.
        have pending := owed_update inside state.submitsLeft 0
        have pool := conserved.pool
        have demand := conserved.demand
        rw [show state.taskPool = [] from empty, List.length_nil] at pool
        omega
  | retire position completion =>
      simp only [react] at exited
      split at exited
      · cases exited
      · split at exited <;> cases exited
  | drain index =>
      simp only [react, ClosedLoopEngine.react] at exited
      split at exited <;> cases exited

end ZnsBench.Multipath.WorkerInterleaving

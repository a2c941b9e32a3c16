import ZnsBench.Nvmf.GivenUp

/-!
# Targets that no signal reaches

The flag `g_intr_received` is set before the request is sent and never
cleared.  A request whose message is refused is therefore not made again:
when no other handler is past its test, a target that has come up stays up as
long as every library call succeeds.
-/

namespace ZnsBench.Nvmf.TargetLifecycle

open ZnsBench.Core.GuardedRun

variable {config : Config} {quiet : Prop} {target next : Target}

/-! ## Events of an obliging library -/

theorem obliging_start (subsystem : Nat) :
    obliging.start subsystem ≠ .immediate := by
  rw [show obliging.start subsystem = .later from rfl]
  decide

/-- The library calls of an event all succeed, after a while. -/
def Obliged (_ : Target) (event : Event) : Prop :=
  (∀ library ∈ event.library?, library = obliging) ∧
    event ≠ .signalSend false

theorem obliged_initMessage : Obliged target (.initMessage obliging) := by
  refine ⟨fun _ given => (Option.some.inj given).symm, fun same => ?_⟩
  cases same

theorem obliged_groupMessage (pg : Nat) (message : GroupMessage) :
    Obliged target (.groupMessage pg message obliging) := by
  refine ⟨fun _ given => (Option.some.inj given).symm, fun same => ?_⟩
  cases same

theorem obliged_callback (call : Pending) :
    Obliged target (.callback call obliging) := by
  refine ⟨fun _ given => (Option.some.inj given).symm, fun same => ?_⟩
  cases same

theorem Obliged.firstStartsLater
    {event : Event} (obliged : Obliged target event) :
    FirstStartsLater target event := by
  intro library given subsystem _
  subst given
  rw [obliged.1 library rfl]
  exact obliging_start subsystem

/-- A chain of starts waits for its first subsystem or the target runs. -/
theorem starting_obliging (rest : List Nat) (target : Target) :
    (∃ subsystem more, rest = subsystem :: more ∧
        starting config obliging rest target =
          (target.calling (.subsystemStart subsystem)).await
            (.start subsystem)) ∨
      rest = [] ∧
        starting config obliging rest target =
          runningTarget config target := by
  cases rest with
  | nil => exact Or.inr ⟨rfl, rfl⟩
  | cons subsystem more => exact Or.inl ⟨subsystem, more, rfl, rfl⟩

/-- The target comes up as far as the threads of its poll groups. -/
theorem bringingUp_obliging (target : Target) :
    (bringingUp config obliging target).targetState = .initPollGroups ∧
      (bringingUp config obliging target).failed = target.failed ∧
      (bringingUp config obliging target).lost = target.lost := by
  simp [bringingUp, obliging, nvmfCreateNvmfTgt, nvmfPollGroupsCreate,
    createThreads_eq, Target.calling, Target.moveTo]

/-! ## A request that was lost -/

/-- The flag is up, and nothing will tell the target, which is not down. -/
structure Deaf (target : Target) : Prop where
  flag : target.intrReceived = true
  tested : target.tested = 0
  raised : target.raised = 0
  silent : shutdowns target = 0
  early : target.targetState.rank ≤ TargetState.running.rank

/-- A handler that comes now finds the flag up. -/
theorem Deaf.sameRequests
    (deaf : Deaf target) (turn : Turn config quiet target next) :
    SameRequests target next := by
  have queued {rest : List InitMessage}
      (queue : target.initQueue = .shutdownCb :: rest) : False := by
    have parts := shutdowns_dequeued queue
    rw [if_pos rfl, deaf.silent] at parts
    omega
  cases requestMove_of_turn turn with
  | none same => exact same
  | noticed down => exact absurd (down.symm.trans deaf.flag) nofun
  | made some => exact absurd deaf.tested some.ne'
  | sent some => exact absurd deaf.raised some.ne'
  | unsent some => exact absurd deaf.raised some.ne'
  | mislaid queue => exact (queued queue).elim
  | taken queue => exact (queued queue).elim

/-- As long as no request is lost, a target that could hear still can. -/
theorem not_deaf_of_turn
    (phase : Phase config target) (turn : Turn config quiet target next)
    (kept : next.lost = target.lost) (awake : ¬ Deaf target) :
    ¬ Deaf next := by
  intro deaf
  have early : target.targetState.rank ≤ TargetState.running.rank := by
    by_contra high
    exact absurd (late_of_turn phase turn (Nat.lt_of_not_le high))
      (Nat.not_lt.mpr deaf.early)
  cases requestMove_of_turn turn with
  | none same =>
      exact awake
        { flag := same.intrReceived ▸ deaf.flag
          tested := same.tested ▸ deaf.tested
          raised := same.raised ▸ deaf.raised
          silent := same.shutdowns ▸ deaf.silent
          early := early }
  | noticed down same =>
      have tested : next.tested = target.tested + 1 := same.tested
      exact absurd (tested.symm.trans deaf.tested) (Nat.succ_ne_zero _)
  | made some same =>
      have raised : next.raised = target.raised + 1 := same.raised
      exact absurd (raised.symm.trans deaf.raised) (Nat.succ_ne_zero _)
  | sent some same =>
      have waits : shutdowns next = shutdowns target + 1 :=
        same.shutdowns.trans (shutdowns_append target)
      exact absurd (waits.symm.trans deaf.silent) (Nat.succ_ne_zero _)
  | unsent some same =>
      have lost : next.lost = target.lost + 1 := same.lost
      exact absurd (lost.symm.trans kept) (Nat.succ_ne_self _)
  | mislaid queue same =>
      have lost : next.lost = target.lost + 1 := same.lost
      exact absurd (lost.symm.trans kept) (Nat.succ_ne_self _)
  | taken queue late => exact absurd late (Nat.not_lt.mpr deaf.early)

/-! ## The target stays up -/

/-- A message moves a target that no request reaches towards `running`. -/
theorem Deaf.early_of_initMessage
    (deaf : Deaf target) (phase : Phase config target)
    {message : InitMessage} {rest : List InitMessage}
    (queue : target.initQueue = message :: rest) :
    (runInitMessage config obliging (target.dequeued rest)
      message).targetState.rank ≤ TargetState.running.rank := by
  cases message with
  | appStart =>
      rw [runInitMessage, nvmfTargetAppStart_eq]
      exact show 0 ≤ 4 by decide
  | createPollGroupsDone pg =>
      rw [runInitMessage, nvmfTgtCreatePollGroupsDone]
      simp only
      split
      · rw [advance_initStartSubsystems (fun _ _ => obliging_start _) rfl]
        rcases starting_obliging target.subsystems
            ((inserting pg (target.dequeued rest)).moveTo
              .initStartSubsystems) with
          ⟨_, _, _, waits⟩ | ⟨_, runs⟩
        · exact (congrArg (fun state => state.targetState.rank) waits).le.trans
            (show 3 ≤ 4 by decide)
        · exact (congrArg (fun state => state.targetState.rank) runs).le.trans
            (by rw [runningTarget_targetState])
      · exact deaf.early
  | destroyPollGroupsDone =>
      have early := deaf.early
      rw [(phase.lost queue).1] at early
      exact absurd early (by decide)
  | shutdownCb =>
      have parts := shutdowns_dequeued queue
      rw [if_pos rfl, deaf.silent] at parts
      omega

theorem Deaf.early_of_callback
    (deaf : Deaf target) (phase : Phase config target)
    {call : Pending} (waiting : call ∈ target.pending) :
    (runCallback config obliging (target.answered call)
      call).targetState.rank ≤ TargetState.running.rank := by
  have state := (phase.of_pending waiting).1
  have early := deaf.early
  rw [state] at early
  cases call with
  | subsystemInit =>
      rw [runCallback, nvmfSubsystemInitDone_eq, (bringingUp_obliging _).1]
      decide
  | start subsystem =>
      rw [runCallback, nvmfTgtSubsystemStartNext, startFrom_eq]
      rcases starting_obliging
          ((target.answered (.start subsystem)).subsystems.filter
            (subsystem < ·))
          (target.answered (.start subsystem)) with
        ⟨_, _, _, waits⟩ | ⟨_, runs⟩
      · rw [waits]
        exact deaf.early
      · rw [runs, runningTarget_targetState]
  | stop subsystem => exact absurd early (show ¬ 5 ≤ 4 by decide)
  | pollGroupDestroy pg => exact absurd early (show ¬ 6 ≤ 4 by decide)
  | tgtDestroy => exact absurd early (by decide)
  | subsystemFini => exact absurd early (by decide)

@[simp]
theorem nvmfShutdownCb_targetState (target : Target) :
    (nvmfShutdownCb target).targetState = target.targetState := by
  rw [nvmfShutdownCb]
  split
  · rfl
  · rfl

@[simp]
theorem nvmfShutdownCbSend_targetState (sent : Bool) (target : Target) :
    (nvmfShutdownCbSend sent target).targetState = target.targetState := by
  cases sent
  · rfl
  · rfl

@[simp]
theorem runGroupMessage_targetState
    (library : Library) (pg : Nat) (target : Target)
    (message : GroupMessage) :
    (runGroupMessage library pg target message).targetState =
      target.targetState := by
  cases message with
  | createPollGroup =>
      rw [runGroupMessage, nvmfTgtCreatePollGroup]
      split
      · rfl
      · rfl
  | destroyPollGroup => rfl
  | migrate => rfl

theorem Deaf.early_of_step
    (deaf : Deaf target) (phase : Phase config target)
    {event : Event} (obliged : Obliged target event)
    (taken : step config target event = some next) :
    next.targetState.rank ≤ TargetState.running.rank := by
  cases event with
  | signal =>
      cases taken
      rw [nvmfShutdownCb_targetState]
      exact deaf.early
  | initMessage library =>
      cases obliged.1 library rfl
      rw [step] at taken
      split at taken
      · cases taken
      · rename_i message rest queue
        cases taken
        exact deaf.early_of_initMessage phase queue
  | groupMessage pg message library =>
      rw [step] at taken
      split at taken
      · cases taken
        rw [runGroupMessage_targetState]
        exact deaf.early
      · cases taken
  | callback call library =>
      cases obliged.1 library rfl
      rw [step] at taken
      split at taken
      · rename_i waiting
        cases taken
        exact deaf.early_of_callback phase waiting
      · cases taken
  | signalSend sent =>
      rw [step] at taken
      split at taken
      · cases taken
        rw [nvmfShutdownCbSend_targetState]
        exact deaf.early
      · cases taken
  | _ =>
      rw [step] at taken
      split at taken
      · cases taken
        exact deaf.early
      · cases taken

theorem deaf_of_step
    (deaf : Deaf target) (phase : Phase config target)
    {event : Event} (obliged : Obliged target event)
    (taken : step config target event = some next) :
    Deaf next := by
  have turn : Turn config False target next :=
    turn_of_step obliged.firstStartsLater (fun never => never.elim) taken
  have same := deaf.sameRequests turn
  exact
    { flag := same.intrReceived.trans deaf.flag
      tested := same.tested.trans deaf.tested
      raised := same.raised.trans deaf.raised
      silent := same.shutdowns.trans deaf.silent
      early := deaf.early_of_step phase obliged taken }

/-- The reactors of a target that is not down stay. -/
theorem reactorsExit_of_early
    (phase : Phase config target)
    (early : target.targetState.rank ≤ TargetState.running.rank) :
    target.reactorsExit = false := by
  rw [Phase] at phase
  cases state : target.targetState with
  | initSubsystem =>
      simp only [state] at phase
      exact phase.1.stays
  | initTarget => simp only [state] at phase
  | initPollGroups =>
      simp only [state] at phase
      exact phase.1.stays
  | initStartSubsystems =>
      simp only [state] at phase
      exact phase.1.stays
  | running =>
      simp only [state] at phase
      exact phase.1.stays
  | _ =>
      rw [state] at early
      exact absurd early (by decide)

theorem Obliged.reachable
    (reached : Reachable config target)
    (run : Run (step config) Obliged target next) :
    Reachable config next :=
  reached.trans (run.relax fun _ _ obliged => obliged.firstStartsLater)

theorem reactorsExit_of_deaf
    (reached : Reachable config target) (deaf : Deaf target)
    (run : Run (step config) Obliged target next) :
    next.reactorsExit = false := by
  have stays : Deaf next :=
    run.preserves_along deaf fun _ _ _ before holds obliged taken =>
      deaf_of_step holds
        (phase_of_reachable (Obliged.reachable reached before))
        obliged taken
  exact reactorsExit_of_early
    (phase_of_reachable (Obliged.reachable reached run)) stays.early

end ZnsBench.Nvmf.TargetLifecycle

import ZnsBench.Nvmf.LifecycleTurns

/-!
# A census of the poll groups

`g_num_poll_groups` decides when the target starts its subsystems and when it
may be destroyed.  The poll groups that are asked for, made, listed, asked to
go, going and gone are counted where they are, and each state of the target
has its own equation between these counts, the counter and the number of
cores.
-/

namespace ZnsBench.Nvmf.TargetLifecycle

variable {config : Config} {target next : Target}

/-- Poll groups whose thread has still to create them. -/
def creates (target : Target) : Nat :=
  target.groupQueue.countP fun entry => entry.2 = .createPollGroup

/-- Poll groups asked to go whose thread has not heard of it. -/
def destroys (target : Target) : Nat :=
  target.groupQueue.countP fun entry => entry.2 = .destroyPollGroup

/-- The message tells of a new poll group. -/
def InitMessage.isCreated : InitMessage → Bool
  | .createPollGroupsDone _ => true
  | _ => false

/-- The call destroys a poll group. -/
def Pending.isDestroy : Pending → Bool
  | .pollGroupDestroy _ => true
  | _ => false

/-- Poll groups that exist and are not listed yet. -/
def created (target : Target) : Nat :=
  target.initQueue.countP InitMessage.isCreated

/-- Poll groups on their way out. -/
def destroying (target : Target) : Nat :=
  target.pending.countP Pending.isDestroy

/-- Poll groups that are gone and still counted. -/
def gone (target : Target) : Nat :=
  target.initQueue.count .destroyPollGroupsDone

/-- Threads that have told of their poll group's end. -/
def left (target : Target) : Nat :=
  target.exiting.length + target.exited.length

/-- Messages that start the application. -/
def launches (target : Target) : Nat :=
  target.initQueue.count .appStart

/-! ## The phases -/

/-- No poll group has been asked for. -/
structure Untouched (target : Target) : Prop where
  threads : target.threads = 0
  counter : target.numPollGroups = 0
  queue : target.groupQueue = []
  listed : target.pollGroups = []
  failed : target.failed = []
  left : left target = 0
  created : created target = 0
  gone : gone target = 0
  stays : target.reactorsExit = false

/-- Poll groups come up one by one, and some are missing. -/
structure Gathering (config : Config) (target : Target) : Prop where
  threads : target.threads = config.cores.length
  counter : target.numPollGroups = target.pollGroups.length
  total :
    creates target + created target + target.failed.length +
      target.numPollGroups = config.cores.length
  missing : target.numPollGroups < config.cores.length
  destroys : destroys target = 0
  left : left target = 0
  gone : gone target = 0
  launches : launches target = 0
  tgt : target.tgt = true
  stays : target.reactorsExit = false

/-- Every core has its poll group. -/
structure Full (config : Config) (target : Target) : Prop where
  threads : target.threads = config.cores.length
  counter : target.numPollGroups = config.cores.length
  listed : target.pollGroups.length = config.cores.length
  creates : creates target = 0
  created : created target = 0
  failed : target.failed = []
  destroys : destroys target = 0
  left : left target = 0
  gone : gone target = 0
  launches : launches target = 0
  tgt : target.tgt = true
  stays : target.reactorsExit = false

/-- Poll groups go one by one, and some are still counted. -/
structure Leaving (config : Config) (target : Target) : Prop where
  threads : target.threads = config.cores.length
  counter :
    target.numPollGroups =
      destroys target + destroying target + gone target
  some : 0 < target.numPollGroups
  total :
    destroys target + destroying target + left target =
      config.cores.length
  heard : gone target ≤ left target
  listed : target.pollGroups = []
  creates : creates target = 0
  created : created target = 0
  failed : target.failed = []
  pending : target.pending.length = destroying target
  launches : launches target = 0
  tgt : target.tgt = true
  stays : target.reactorsExit = false

/-- No poll group is left. -/
structure Emptied (target : Target) : Prop where
  counter : target.numPollGroups = 0
  total : left target = target.threads
  listed : target.pollGroups = []
  creates : creates target = 0
  created : created target = 0
  failed : target.failed = []
  destroys : destroys target = 0
  gone : gone target = 0
  launches : launches target = 0

/-- What holds in each state between two steps. -/
def Phase (config : Config) (target : Target) : Prop :=
  match target.targetState with
  | .initSubsystem =>
      Untouched target ∧
        (launches target = 1 ∧ target.pending = [] ∨
          launches target = 0 ∧
            (target.pending = [.subsystemInit] ∨ target.pending = []))
  | .initTarget => False
  | .initPollGroups => Gathering config target ∧ target.pending = []
  | .initStartSubsystems =>
      Full config target ∧ ∃ subsystem, target.pending = [.start subsystem]
  | .running => Full config target ∧ target.pending = []
  | .finiStopSubsystems =>
      Full config target ∧ ∃ subsystem, target.pending = [.stop subsystem]
  | .finiPollGroups => Leaving config target
  | .finiTarget =>
      Emptied target ∧ target.pending = [.tgtDestroy] ∧
        target.reactorsExit = false
  | .finiSubsystem =>
      Emptied target ∧
        (target.pending = [.subsystemFini] ∧ target.reactorsExit = false ∨
          target.pending = [] ∧ target.reactorsExit = true)

theorem phase_initial : Phase config initial :=
  ⟨⟨rfl, rfl, rfl, rfl, rfl, rfl, rfl, rfl, rfl⟩, Or.inl ⟨rfl, rfl⟩⟩

/-! ## Frames -/

/-- The poll groups are where they were. -/
structure SameCensus (target next : Target) : Prop where
  tgt : next.tgt = target.tgt
  threads : next.threads = target.threads
  counter : next.numPollGroups = target.numPollGroups
  listed : next.pollGroups = target.pollGroups
  failed : next.failed = target.failed
  left : left next = left target
  stays : next.reactorsExit = target.reactorsExit
  destroying : destroying next = destroying target
  creates : creates next = creates target
  destroys : destroys next = destroys target
  created : created next = created target
  gone : gone next = gone target
  launches : launches next = launches target
  empty : target.pollGroups = [] → target.groupQueue = [] →
    next.groupQueue = []

theorem SameCensus.trans
    {middle : Target}
    (first : SameCensus target middle) (second : SameCensus middle next) :
    SameCensus target next where
  tgt := second.tgt.trans first.tgt
  threads := second.threads.trans first.threads
  counter := second.counter.trans first.counter
  listed := second.listed.trans first.listed
  failed := second.failed.trans first.failed
  left := second.left.trans first.left
  stays := second.stays.trans first.stays
  destroying := second.destroying.trans first.destroying
  creates := second.creates.trans first.creates
  destroys := second.destroys.trans first.destroys
  created := second.created.trans first.created
  gone := second.gone.trans first.gone
  launches := second.launches.trans first.launches
  empty := fun listed queue =>
    second.empty (first.listed.trans listed) (first.empty listed queue)

theorem Untouched.congr
    (same : SameCensus target next) (untouched : Untouched target) :
    Untouched next where
  threads := same.threads.trans untouched.threads
  counter := same.counter.trans untouched.counter
  queue := same.empty untouched.listed untouched.queue
  listed := same.listed.trans untouched.listed
  failed := same.failed.trans untouched.failed
  left := same.left.trans untouched.left
  created := same.created.trans untouched.created
  gone := same.gone.trans untouched.gone
  stays := same.stays.trans untouched.stays

theorem Gathering.congr
    (same : SameCensus target next) (gathering : Gathering config target) :
    Gathering config next where
  threads := same.threads.trans gathering.threads
  counter := by rw [same.counter, same.listed, gathering.counter]
  total := by
    rw [same.creates, same.created, same.failed, same.counter,
      gathering.total]
  missing := by
    rw [same.counter]
    exact gathering.missing
  destroys := same.destroys.trans gathering.destroys
  left := same.left.trans gathering.left
  gone := same.gone.trans gathering.gone
  launches := same.launches.trans gathering.launches
  tgt := same.tgt.trans gathering.tgt
  stays := same.stays.trans gathering.stays

theorem Full.congr
    (same : SameCensus target next) (full : Full config target) :
    Full config next where
  threads := same.threads.trans full.threads
  counter := same.counter.trans full.counter
  listed := by rw [same.listed, full.listed]
  creates := same.creates.trans full.creates
  created := same.created.trans full.created
  failed := same.failed.trans full.failed
  destroys := same.destroys.trans full.destroys
  left := same.left.trans full.left
  gone := same.gone.trans full.gone
  launches := same.launches.trans full.launches
  tgt := same.tgt.trans full.tgt
  stays := same.stays.trans full.stays

theorem Leaving.congr
    (same : SameCensus target next)
    (pending : next.pending = target.pending)
    (leaving : Leaving config target) :
    Leaving config next where
  threads := same.threads.trans leaving.threads
  counter := by
    rw [same.counter, same.destroys, same.destroying, same.gone,
      leaving.counter]
  some := by
    rw [same.counter]
    exact leaving.some
  total := by
    rw [same.destroys, same.destroying, same.left, leaving.total]
  heard := by
    rw [same.gone, same.left]
    exact leaving.heard
  listed := same.listed.trans leaving.listed
  creates := same.creates.trans leaving.creates
  created := same.created.trans leaving.created
  failed := same.failed.trans leaving.failed
  pending := by rw [pending, same.destroying, leaving.pending]
  launches := same.launches.trans leaving.launches
  tgt := same.tgt.trans leaving.tgt
  stays := same.stays.trans leaving.stays

theorem Emptied.congr
    (same : SameCensus target next) (emptied : Emptied target) :
    Emptied next where
  counter := same.counter.trans emptied.counter
  total := by rw [same.left, same.threads, emptied.total]
  listed := same.listed.trans emptied.listed
  creates := same.creates.trans emptied.creates
  created := same.created.trans emptied.created
  failed := same.failed.trans emptied.failed
  destroys := same.destroys.trans emptied.destroys
  gone := same.gone.trans emptied.gone
  launches := same.launches.trans emptied.launches

theorem Phase.congr
    (same : SameCensus target next)
    (targetState : next.targetState = target.targetState)
    (pending : next.pending = target.pending)
    (phase : Phase config target) :
    Phase config next := by
  rw [Phase] at phase ⊢
  rw [targetState]
  cases state : target.targetState with
  | initSubsystem =>
      simp only [state] at phase ⊢
      rw [same.launches, pending]
      exact ⟨phase.1.congr same, phase.2⟩
  | initTarget => simp only [state] at phase
  | initPollGroups =>
      simp only [state] at phase ⊢
      exact ⟨phase.1.congr same, pending.trans phase.2⟩
  | initStartSubsystems =>
      simp only [state] at phase ⊢
      rw [pending]
      exact ⟨phase.1.congr same, phase.2⟩
  | running =>
      simp only [state] at phase ⊢
      exact ⟨phase.1.congr same, pending.trans phase.2⟩
  | finiStopSubsystems =>
      simp only [state] at phase ⊢
      rw [pending]
      exact ⟨phase.1.congr same, phase.2⟩
  | finiPollGroups =>
      simp only [state] at phase ⊢
      exact phase.congr same pending
  | finiTarget =>
      simp only [state] at phase ⊢
      rw [pending, same.stays]
      exact ⟨phase.1.congr same, phase.2⟩
  | finiSubsystem =>
      simp only [state] at phase ⊢
      rw [pending, same.stays]
      exact ⟨phase.1.congr same, phase.2⟩

/-- The fields that only say what has been called do not matter. -/
theorem sameCensus_of_eq
    (tgt : next.tgt = target.tgt)
    (threads : next.threads = target.threads)
    (counter : next.numPollGroups = target.numPollGroups)
    (listed : next.pollGroups = target.pollGroups)
    (failed : next.failed = target.failed)
    (left : left next = left target)
    (stays : next.reactorsExit = target.reactorsExit)
    (groupQueue : next.groupQueue = target.groupQueue)
    (initQueue : next.initQueue = target.initQueue)
    (pending : destroying next = destroying target) :
    SameCensus target next where
  tgt := tgt
  threads := threads
  counter := counter
  listed := listed
  failed := failed
  left := left
  stays := stays
  destroying := pending
  creates := by rw [creates, creates, groupQueue]
  destroys := by rw [destroys, destroys, groupQueue]
  created := by rw [created, created, initQueue]
  gone := by rw [gone, gone, initQueue]
  launches := by rw [launches, launches, initQueue]
  empty := fun _ queue => groupQueue.trans queue

theorem sameCensus_calling (target : Target) (call : LibraryCall) :
    SameCensus target (target.calling call) :=
  sameCensus_of_eq rfl rfl rfl rfl rfl rfl rfl rfl rfl rfl

theorem sameCensus_logging (target : Target) (calls : List LibraryCall) :
    SameCensus target (target.logging calls) :=
  sameCensus_of_eq rfl rfl rfl rfl rfl rfl rfl rfl rfl rfl

theorem sameCensus_moveTo (target : Target) (state : TargetState) :
    SameCensus target (target.moveTo state) :=
  sameCensus_of_eq rfl rfl rfl rfl rfl rfl rfl rfl rfl rfl

theorem sameCensus_registerPoller (target : Target) :
    SameCensus target (registerPoller target) :=
  sameCensus_of_eq rfl rfl rfl rfl rfl rfl rfl rfl rfl rfl

theorem sameCensus_unregisterPoller (target : Target) :
    SameCensus target (unregisterPoller target) :=
  sameCensus_of_eq rfl rfl rfl rfl rfl rfl rfl rfl rfl rfl

/-- Signal handlers and requests move no poll group. -/
theorem sameCensus_requests
    (target : Target) (intrReceived : Bool)
    (tested raised requests lost : Nat) :
    SameCensus target
      { target with
        intrReceived := intrReceived
        tested := tested
        raised := raised
        requests := requests
        lost := lost } :=
  sameCensus_of_eq rfl rfl rfl rfl rfl rfl rfl rfl rfl rfl

theorem sameCensus_await
    (target : Target) {call : Pending} (other : call.isDestroy = false) :
    SameCensus target (target.await call) := by
  refine sameCensus_of_eq rfl rfl rfl rfl rfl rfl rfl rfl rfl ?_
  simp only [destroying, Target.await, List.countP_append,
    List.countP_singleton, other]
  rfl

theorem sameCensus_answered
    (target : Target) {call : Pending} (other : call.isDestroy = false) :
    SameCensus target (target.answered call) := by
  refine sameCensus_of_eq rfl rfl rfl rfl rfl rfl rfl rfl rfl ?_
  simp only [destroying, Target.answered]
  by_cases waiting : call ∈ target.pending
  · rw [(List.perm_cons_erase waiting).countP_eq, List.countP_cons, other]
    rfl
  · rw [List.erase_of_not_mem waiting]

/-! ## Where the loop stops, a phase holds -/

theorem phase_finishing
    (emptied : Emptied target)
    (pending : target.pending = [])
    (stays : target.reactorsExit = false)
    (state : target.targetState = .finiSubsystem) :
    Phase config (finishing target) := by
  have same : SameCensus target (finishing target) :=
    sameCensus_of_eq rfl rfl rfl rfl rfl rfl rfl rfl rfl
      (sameCensus_await target rfl).destroying
  have final : (finishing target).targetState = .finiSubsystem := state
  simp only [Phase, final]
  refine ⟨emptied.congr same, Or.inl ⟨?_, stays⟩⟩
  simp only [finishing, Target.await, Target.calling, pending,
    List.nil_append]

theorem phase_destroyingTarget
    (emptied : Emptied target)
    (pending : target.pending = [])
    (stays : target.reactorsExit = false)
    (state : target.targetState = .finiTarget) :
    Phase config (destroyingTarget target) := by
  rw [destroyingTarget]
  split
  · have same :
        SameCensus target ((target.calling .tgtDestroy).await .tgtDestroy) :=
      sameCensus_of_eq rfl rfl rfl rfl rfl rfl rfl rfl rfl
        (sameCensus_await target rfl).destroying
    simp only [Phase, await_targetState, calling_targetState, state]
    refine ⟨emptied.congr same, ?_, stays⟩
    simp only [Target.await, Target.calling, pending, List.nil_append]
  · exact phase_finishing (emptied.congr (sameCensus_moveTo _ _)) pending
      stays rfl

theorem phase_running
    (full : Full config target)
    (pending : target.pending = []) :
    Phase config (runningTarget config target) := by
  rw [runningTarget]
  split
  · simp only [Phase, registerPoller_targetState, moveTo_targetState]
    exact
      ⟨(full.congr (sameCensus_moveTo _ _)).congr
        (sameCensus_registerPoller _), pending⟩
  · simp only [Phase, moveTo_targetState]
    exact ⟨full.congr (sameCensus_moveTo _ _), pending⟩

@[simp]
theorem countP_map_destroy (groups : List Nat) :
    (groups.map fun pg => (pg, GroupMessage.destroyPollGroup)).countP
        (fun entry => entry.2 = .destroyPollGroup) = groups.length := by
  rw [List.countP_map]
  exact List.countP_eq_length.mpr fun pg _ => by simp

/-- All listed poll groups are asked to go. -/
theorem leaving_nvmfPollGroupsDestroy
    (full : Full config target)
    (pending : target.pending = []) :
    Leaving config (nvmfPollGroupsDestroy target) := by
  have asked :
      destroys (nvmfPollGroupsDestroy target) = config.cores.length := by
    have before := full.destroys
    rw [destroys] at before
    rw [destroys, nvmfPollGroupsDestroy, List.countP_append, before,
      countP_map_destroy, full.listed, Nat.zero_add]
  have none : destroying (nvmfPollGroupsDestroy target) = 0 := by
    rw [destroying, nvmfPollGroupsDestroy, pending]
    rfl
  have creates : creates (nvmfPollGroupsDestroy target) = 0 := by
    have before := full.creates
    rw [TargetLifecycle.creates] at before
    rw [TargetLifecycle.creates, nvmfPollGroupsDestroy, List.countP_append,
      before, List.countP_map, List.countP_eq_zero.mpr]
    intro pg _
    simp
  have stillGone : gone (nvmfPollGroupsDestroy target) = 0 := full.gone
  have cores := List.length_pos_iff.mpr config.cores_nonempty
  have counter : (nvmfPollGroupsDestroy target).numPollGroups =
      config.cores.length := full.counter
  have stillHere : left (nvmfPollGroupsDestroy target) = 0 := full.left
  exact
    { threads := full.threads
      counter := by omega
      some := by omega
      total := by omega
      heard := by omega
      listed := rfl
      creates := creates
      created := full.created
      failed := full.failed
      pending := by
        rw [none]
        exact List.length_eq_zero_iff.mpr pending
      launches := full.launches
      tgt := full.tgt
      stays := full.stays }

theorem phase_stopped
    (full : Full config target)
    (pending : target.pending = [])
    (state : target.targetState = .finiStopSubsystems)
    {rest : List Nat} (stops : Stopped rest target next) :
    Phase config next := by
  cases stops with
  | @waits made subsystem begins =>
      simp only [Phase, await_targetState, logging_targetState, state]
      refine
        ⟨(full.congr (sameCensus_logging _ _)).congr
          (sameCensus_await _ rfl), subsystem, ?_⟩
      simp only [Target.await, Target.logging, pending, List.nil_append]
  | passes =>
      have reached (called : Target) :
          (nvmfPollGroupsDestroy
            (called.moveTo .finiPollGroups)).targetState =
              .finiPollGroups := rfl
      simp only [Phase, reached]
      exact leaving_nvmfPollGroupsDestroy
        ((full.congr (sameCensus_logging _ _)).congr
          (sameCensus_moveTo _ _)) pending

theorem phase_started
    (full : Full config target)
    (pending : target.pending = [])
    (state : target.targetState = .initStartSubsystems)
    {rest : List Nat} (starts : Started config rest target next) :
    Phase config next := by
  cases starts with
  | runs =>
      exact phase_running (full.congr (sameCensus_logging _ _)) pending
  | @waits made subsystem begins =>
      simp only [Phase, await_targetState, logging_targetState, state]
      refine
        ⟨(full.congr (sameCensus_logging _ _)).congr
          (sameCensus_await _ rfl), subsystem, ?_⟩
      simp only [Target.await, Target.logging, pending, List.nil_append]
  | refused begins stops =>
      exact phase_stopped
        (((full.congr (sameCensus_logging _ _)).congr
          (sameCensus_moveTo _ _)).congr (sameCensus_unregisterPoller _))
        pending rfl stops

/-- A target without poll groups has lost them all. -/
theorem Untouched.emptied
    (untouched : Untouched target) (launched : launches target = 0) :
    Emptied target where
  counter := untouched.counter
  total := untouched.left.trans untouched.threads.symm
  listed := untouched.listed
  creates := by
    rw [creates, untouched.queue]
    rfl
  created := untouched.created
  failed := untouched.failed
  destroys := by
    rw [destroys, untouched.queue]
    rfl
  gone := untouched.gone
  launches := launched

/-- The census of a target that has asked for its poll groups. -/
theorem gathering_of_asked
    (untouched : Untouched target)
    (launched : launches target = 0)
    (log : List LibraryCall) (subsystems : List Nat)
    (state : TargetState) :
    Gathering config
      { target.logging log with
        targetState := state
        tgt := true
        subsystems := subsystems
        threads := target.threads + config.cores.length
        groupQueue :=
          target.groupQueue ++
            (List.range' target.threads config.cores.length).map
              fun pg => (pg, .createPollGroup) } := by
  have cores := List.length_pos_iff.mpr config.cores_nonempty
  have asked :
      ((List.range' 0 config.cores.length).map fun pg =>
        (pg, GroupMessage.createPollGroup)).countP
          (fun entry => entry.2 = .createPollGroup) =
        config.cores.length := by
    rw [List.countP_map,
      List.countP_eq_length.mpr fun pg _ => by simp, List.length_range']
  have kept :
      ((List.range' 0 config.cores.length).map fun pg =>
        (pg, GroupMessage.createPollGroup)).countP
          (fun entry => entry.2 = .destroyPollGroup) = 0 := by
    rw [List.countP_map]
    exact List.countP_eq_zero.mpr fun pg _ => by simp
  have noneCreated := untouched.created
  rw [created] at noneCreated
  exact
    { threads := by simp only [untouched.threads, Nat.zero_add]
      counter := by
        simp only [Target.logging, untouched.counter, untouched.listed,
          List.length_nil]
      total := by
        simp only [creates, created, Target.logging, untouched.queue,
          untouched.threads, untouched.failed, untouched.counter,
          List.nil_append, asked, noneCreated, List.length_nil,
          Nat.add_zero]
      missing := by
        simp only [Target.logging, untouched.counter]
        exact cores
      destroys := by
        simp only [destroys, untouched.queue, untouched.threads,
          List.nil_append, kept]
      left := untouched.left
      gone := untouched.gone
      launches := launched
      tgt := rfl
      stays := untouched.stays }

theorem phase_broughtUp
    (untouched : Untouched target)
    (launched : launches target = 0)
    (pending : target.pending = [])
    (state : target.targetState = .initSubsystem)
    (up : BroughtUp config target next) :
    Phase config next := by
  have emptied := untouched.emptied launched
  cases up with
  | withoutRpc =>
      simp only [Phase, logging_targetState, state]
      exact
        ⟨untouched.congr (sameCensus_logging _ _),
          Or.inr ⟨launched, Or.inr pending⟩⟩
  | withoutTarget =>
      refine
        ⟨⟨emptied.counter, emptied.total, emptied.listed, emptied.creates,
          emptied.created, emptied.failed, emptied.destroys, emptied.gone,
          emptied.launches⟩, Or.inl ⟨?_, untouched.stays⟩⟩
      simp only [pending, List.nil_append]
  | withoutDiscovery =>
      refine
        ⟨⟨emptied.counter, emptied.total, emptied.listed, emptied.creates,
          emptied.created, emptied.failed, emptied.destroys, emptied.gone,
          emptied.launches⟩, ?_, untouched.stays⟩
      simp only [pending, List.nil_append]
  | asksForGroups =>
      exact ⟨gathering_of_asked untouched launched _ _ _, pending⟩

theorem phase_launched
    (untouched : Untouched target)
    (launched : launches target = 0)
    (pending : target.pending = [])
    (launch : Launched config target next) :
    Phase config next := by
  have called :
      Untouched
        ((target.moveTo .initSubsystem).calling .subsystemInit) :=
    (untouched.congr (sameCensus_moveTo _ _)).congr
      (sameCensus_calling _ _)
  cases launch with
  | goesOn up => exact phase_broughtUp called launched pending rfl up
  | waits =>
      simp only [Phase, await_targetState, calling_targetState,
        moveTo_targetState]
      refine
        ⟨called.congr (sameCensus_await _ rfl),
          Or.inr ⟨launched, Or.inl ?_⟩⟩
      simp only [Target.await, Target.calling, Target.moveTo, pending,
        List.nil_append]

end ZnsBench.Nvmf.TargetLifecycle

import ZnsBench.Nvmf.PollGroupCensus

/-!
# The census over whole runs

Every turn of the target takes the census of one state to that of the next.
So in every state reached the counter is the number of poll groups that are
up, and the assertions next to it hold whenever the code gets there.
-/

namespace ZnsBench.Nvmf.TargetLifecycle

variable {config : Config} {quiet : Prop} {target next : Target}

/-! ## Which phase a message or a callback comes in -/

theorem Phase.of_launches
    (phase : Phase config target) (some : 0 < launches target) :
    target.targetState = .initSubsystem ∧ Untouched target ∧
      launches target = 1 ∧ target.pending = [] := by
  rw [Phase] at phase
  cases state : target.targetState with
  | initSubsystem =>
      simp only [state] at phase
      rcases phase with ⟨untouched, ⟨one, pending⟩ | ⟨none, _⟩⟩
      · exact ⟨rfl, untouched, one, pending⟩
      · omega
  | initTarget => simp only [state] at phase
  | initPollGroups =>
      simp only [state] at phase
      exact absurd phase.1.launches some.ne'
  | initStartSubsystems =>
      simp only [state] at phase
      exact absurd phase.1.launches some.ne'
  | running =>
      simp only [state] at phase
      exact absurd phase.1.launches some.ne'
  | finiStopSubsystems =>
      simp only [state] at phase
      exact absurd phase.1.launches some.ne'
  | finiPollGroups =>
      simp only [state] at phase
      exact absurd phase.launches some.ne'
  | finiTarget =>
      simp only [state] at phase
      exact absurd phase.1.launches some.ne'
  | finiSubsystem =>
      simp only [state] at phase
      exact absurd phase.1.launches some.ne'

/-- A poll group that is new or still to be made is missing. -/
theorem Phase.of_creates
    (phase : Phase config target)
    (some : 0 < creates target + created target) :
    target.targetState = .initPollGroups ∧ Gathering config target ∧
      target.pending = [] := by
  rw [Phase] at phase
  cases state : target.targetState with
  | initSubsystem =>
      simp only [state] at phase
      have queue := phase.1.queue
      have none : creates target = 0 := by
        rw [creates, queue]
        rfl
      have created := phase.1.created
      omega
  | initTarget => simp only [state] at phase
  | initPollGroups =>
      simp only [state] at phase
      exact ⟨rfl, phase⟩
  | initStartSubsystems =>
      simp only [state] at phase
      have creates := phase.1.creates
      have created := phase.1.created
      omega
  | running =>
      simp only [state] at phase
      have creates := phase.1.creates
      have created := phase.1.created
      omega
  | finiStopSubsystems =>
      simp only [state] at phase
      have creates := phase.1.creates
      have created := phase.1.created
      omega
  | finiPollGroups =>
      simp only [state] at phase
      have creates := phase.creates
      have created := phase.created
      omega
  | finiTarget =>
      simp only [state] at phase
      have creates := phase.1.creates
      have created := phase.1.created
      omega
  | finiSubsystem =>
      simp only [state] at phase
      have creates := phase.1.creates
      have created := phase.1.created
      omega

/-- A poll group is going only while poll groups are destroyed. -/
theorem Phase.of_destroys
    (phase : Phase config target)
    (some : 0 < destroys target + destroying target + gone target) :
    target.targetState = .finiPollGroups ∧ Leaving config target := by
  have alone {call : Pending} (other : call.isDestroy = false)
      (pending : target.pending = [call]) : destroying target = 0 := by
    rw [destroying, pending, List.countP_singleton, other]
    rfl
  have idle (pending : target.pending = []) : destroying target = 0 := by
    rw [destroying, pending]
    rfl
  rw [Phase] at phase
  cases state : target.targetState with
  | initSubsystem =>
      simp only [state] at phase
      have queue := phase.1.queue
      have none : destroys target = 0 := by
        rw [destroys, queue]
        rfl
      have gone := phase.1.gone
      rcases phase.2 with ⟨_, pending⟩ | ⟨_, pending | pending⟩
      · have going := idle pending
        omega
      · have going := alone rfl pending
        omega
      · have going := idle pending
        omega
  | initTarget => simp only [state] at phase
  | initPollGroups =>
      simp only [state] at phase
      have destroys := phase.1.destroys
      have gone := phase.1.gone
      have going := idle phase.2
      omega
  | initStartSubsystems =>
      simp only [state] at phase
      rcases phase with ⟨full, subsystem, pending⟩
      have destroys := full.destroys
      have gone := full.gone
      have going := alone rfl pending
      omega
  | running =>
      simp only [state] at phase
      have destroys := phase.1.destroys
      have gone := phase.1.gone
      have going := idle phase.2
      omega
  | finiStopSubsystems =>
      simp only [state] at phase
      rcases phase with ⟨full, subsystem, pending⟩
      have destroys := full.destroys
      have gone := full.gone
      have going := alone rfl pending
      omega
  | finiPollGroups =>
      simp only [state] at phase
      exact ⟨rfl, phase⟩
  | finiTarget =>
      simp only [state] at phase
      have destroys := phase.1.destroys
      have gone := phase.1.gone
      have going := alone rfl phase.2.1
      omega
  | finiSubsystem =>
      simp only [state] at phase
      have destroys := phase.1.destroys
      have gone := phase.1.gone
      rcases phase.2 with ⟨pending, _⟩ | ⟨pending, _⟩
      · have going := alone rfl pending
        omega
      · have going := idle pending
        omega

/-- While poll groups go, nothing else is under way. -/
theorem Leaving.isDestroy_of_mem
    (leaving : Leaving config target)
    {call : Pending} (waiting : call ∈ target.pending) :
    call.isDestroy = true :=
  List.countP_eq_length.mp leaving.pending.symm call waiting

/-- The state that goes with a call in flight. -/
def Pending.stateOf : Pending → TargetState
  | .subsystemInit => .initSubsystem
  | .start _ => .initStartSubsystems
  | .stop _ => .finiStopSubsystems
  | .pollGroupDestroy _ => .finiPollGroups
  | .tgtDestroy => .finiTarget
  | .subsystemFini => .finiSubsystem

theorem Phase.of_pending
    (phase : Phase config target)
    {call : Pending} (waiting : call ∈ target.pending) :
    target.targetState = call.stateOf ∧
      (call.isDestroy = false → target.pending = [call]) := by
  have alone {other : Pending} (pending : target.pending = [other]) :
      call = other := by
    rw [pending] at waiting
    exact List.mem_singleton.mp waiting
  have idle (pending : target.pending = []) : False := by
    rw [pending] at waiting
    exact List.not_mem_nil waiting
  rw [Phase] at phase
  cases state : target.targetState with
  | initSubsystem =>
      simp only [state] at phase
      rcases phase.2 with ⟨_, pending⟩ | ⟨_, pending | pending⟩
      · exact (idle pending).elim
      · cases alone pending
        exact ⟨rfl, fun _ => pending⟩
      · exact (idle pending).elim
  | initTarget => simp only [state] at phase
  | initPollGroups =>
      simp only [state] at phase
      exact (idle phase.2).elim
  | initStartSubsystems =>
      simp only [state] at phase
      rcases phase.2 with ⟨subsystem, pending⟩
      cases alone pending
      exact ⟨rfl, fun _ => pending⟩
  | running =>
      simp only [state] at phase
      exact (idle phase.2).elim
  | finiStopSubsystems =>
      simp only [state] at phase
      rcases phase.2 with ⟨subsystem, pending⟩
      cases alone pending
      exact ⟨rfl, fun _ => pending⟩
  | finiPollGroups =>
      simp only [state] at phase
      have going := phase.isDestroy_of_mem waiting
      cases call with
      | pollGroupDestroy pg =>
          exact ⟨rfl, fun other => Bool.noConfusion other⟩
      | _ => cases going
  | finiTarget =>
      simp only [state] at phase
      cases alone phase.2.1
      exact ⟨rfl, fun _ => phase.2.1⟩
  | finiSubsystem =>
      simp only [state] at phase
      rcases phase.2 with ⟨pending, _⟩ | ⟨pending, _⟩
      · cases alone pending
        exact ⟨rfl, fun _ => pending⟩
      · exact (idle pending).elim

/-! ## The census over one turn -/

theorem created_dequeued
    {message : InitMessage} {rest : List InitMessage}
    (queue : target.initQueue = message :: rest) :
    created target =
      created (target.dequeued rest) +
        if message.isCreated then 1 else 0 := by
  rw [created, created, queue, Target.dequeued, List.countP_cons]

theorem gone_dequeued
    {message : InitMessage} {rest : List InitMessage}
    (queue : target.initQueue = message :: rest) :
    gone target =
      gone (target.dequeued rest) +
        if message = .destroyPollGroupsDone then 1 else 0 := by
  rw [gone, gone, queue, Target.dequeued, List.count_cons]
  simp only [beq_iff_eq]

theorem launches_dequeued
    {message : InitMessage} {rest : List InitMessage}
    (queue : target.initQueue = message :: rest) :
    launches target =
      launches (target.dequeued rest) +
        if message = .appStart then 1 else 0 := by
  rw [launches, launches, queue, Target.dequeued, List.count_cons]
  simp only [beq_iff_eq]

theorem mem_of_nextGroupMessage
    {queue : List (Nat × GroupMessage)} {pg : Nat} {message : GroupMessage}
    (next : nextGroupMessage queue pg = some message) :
    (pg, message) ∈ queue := by
  rw [nextGroupMessage] at next
  rcases Option.map_eq_some_iff.mp next with ⟨⟨owner, sent⟩, found, same⟩
  have owned : owner = pg := by
    simpa using List.find?_some found
  cases owned
  cases same
  exact List.mem_of_find?_eq_some found

theorem creates_received
    {pg : Nat} {message : GroupMessage}
    (member : (pg, message) ∈ target.groupQueue) :
    creates target =
      creates (target.received pg message) +
        if message = .createPollGroup then 1 else 0 := by
  rw [creates, creates, (List.perm_cons_erase member).countP_eq,
    Target.received, List.countP_cons]
  simp only [decide_eq_true_eq]

theorem destroys_received
    {pg : Nat} {message : GroupMessage}
    (member : (pg, message) ∈ target.groupQueue) :
    destroys target =
      destroys (target.received pg message) +
        if message = .destroyPollGroup then 1 else 0 := by
  rw [destroys, destroys, (List.perm_cons_erase member).countP_eq,
    Target.received, List.countP_cons]
  simp only [decide_eq_true_eq]

/-- A message that tells of no poll group is neither here nor there. -/
theorem sameCensus_dequeued
    {rest : List InitMessage}
    (queue : target.initQueue = .shutdownCb :: rest) :
    SameCensus target (target.dequeued rest) where
  tgt := rfl
  threads := rfl
  counter := rfl
  listed := rfl
  failed := rfl
  left := rfl
  stays := rfl
  destroying := rfl
  creates := rfl
  destroys := rfl
  created := (created_dequeued queue).symm
  gone := (gone_dequeued queue).symm
  launches := (launches_dequeued queue).symm
  empty := fun _ empty => empty

/-- A request tells of no poll group either. -/
theorem sameCensus_shutdownCb (target : Target) :
    SameCensus target
      (target.dequeued (target.initQueue ++ [.shutdownCb])) where
  tgt := rfl
  threads := rfl
  counter := rfl
  listed := rfl
  failed := rfl
  left := rfl
  stays := rfl
  destroying := rfl
  creates := rfl
  destroys := rfl
  created := by
    rw [created, created, Target.dequeued, List.countP_append]
    rfl
  gone := by
    rw [gone, gone, Target.dequeued, List.count_append]
    rfl
  launches := by
    rw [launches, launches, Target.dequeued, List.count_append]
    rfl
  empty := fun _ empty => empty

/-- A request is put off. -/
theorem sameCensus_deferred
    {rest : List InitMessage}
    (queue : target.initQueue = .shutdownCb :: rest) :
    SameCensus target (target.dequeued (rest ++ [.shutdownCb])) :=
  (sameCensus_dequeued queue).trans
    (sameCensus_shutdownCb (target.dequeued rest))

/-- A thread that leaves has told of it before. -/
theorem sameCensus_threadExit
    {pg : Nat} (going : pg ∈ target.exiting) :
    SameCensus target (threadExit pg target) := by
  refine sameCensus_of_eq rfl rfl rfl rfl rfl ?_ rfl rfl rfl rfl
  have some := List.length_pos_of_mem going
  simp only [left, threadExit, List.length_erase_of_mem going,
    List.length_append, List.length_singleton]
  omega

theorem sameCensus_migrated
    {pg : Nat} (member : (pg, .migrate) ∈ target.groupQueue) :
    SameCensus target (target.received pg .migrate) where
  tgt := rfl
  threads := rfl
  counter := rfl
  listed := rfl
  failed := rfl
  left := rfl
  stays := rfl
  destroying := rfl
  creates := (creates_received member).symm
  destroys := (destroys_received member).symm
  created := rfl
  gone := rfl
  launches := rfl
  empty := fun _ empty => by
    rw [Target.received, empty]
    rfl

theorem sameCensus_polled (target : Target) :
    SameCensus target (migratePollGroupsByRr target) where
  tgt := rfl
  threads := rfl
  counter := rfl
  listed := rfl
  failed := rfl
  left := rfl
  stays := rfl
  destroying := rfl
  creates := by
    rw [creates, creates, migratePollGroupsByRr, List.countP_append,
      List.countP_map]
    exact Nat.add_eq_left.mpr (List.countP_eq_zero.mpr fun pg _ => by simp)
  destroys := by
    rw [destroys, destroys, migratePollGroupsByRr, List.countP_append,
      List.countP_map]
    exact Nat.add_eq_left.mpr (List.countP_eq_zero.mpr fun pg _ => by simp)
  created := rfl
  gone := rfl
  launches := rfl
  empty := fun listed empty => by
    rw [migratePollGroupsByRr, listed, empty]
    rfl

/-- The counter does not wrap while a poll group is missing. -/
theorem Gathering.counter_succ (gathering : Gathering config target) :
    (target.numPollGroups + 1) % 2 ^ 32 = target.numPollGroups + 1 := by
  have missing := gathering.missing
  have cores := config.cores_count
  exact Nat.mod_eq_of_lt (by omega)

/-- The counter does not wrap while a poll group is counted. -/
theorem Leaving.counter_pred (leaving : Leaving config target) :
    decremented target.numPollGroups = target.numPollGroups - 1 :=
  if_neg leaving.some.ne'

/-- The poll group that a message tells of is listed. -/
theorem created_of_queue
    {pg : Nat} {rest : List InitMessage}
    (queue : target.initQueue = .createPollGroupsDone pg :: rest) :
    created target = created (target.dequeued rest) + 1 ∧
      gone target = gone (target.dequeued rest) ∧
      launches target = launches (target.dequeued rest) :=
  ⟨created_dequeued queue, gone_dequeued queue, launches_dequeued queue⟩

theorem Gathering.counted
    (gathering : Gathering config target)
    {pg : Nat} {rest : List InitMessage}
    (queue : target.initQueue = .createPollGroupsDone pg :: rest)
    (missing :
      (target.numPollGroups + 1) % 2 ^ 32 ≠ config.cores.length) :
    Gathering config (inserting pg (target.dequeued rest)) := by
  rcases created_of_queue queue with ⟨created, gone, launches⟩
  have counter := gathering.counter_succ
  rw [counter] at missing
  have below := gathering.missing
  have total := gathering.total
  have listed := gathering.counter
  have same :
      (inserting pg (target.dequeued rest)).numPollGroups =
        target.numPollGroups + 1 := counter
  exact
    { threads := gathering.threads
      counter := by
        rw [same, listed]
        simp only [inserting, Target.dequeued, List.length_append,
          List.length_singleton]
      total := by
        rw [same]
        change
          creates target + TargetLifecycle.created (target.dequeued rest) +
            target.failed.length + (target.numPollGroups + 1) = _
        omega
      missing := by
        simp only [inserting, Target.dequeued, counter]
        omega
      destroys := gathering.destroys
      left := gathering.left
      gone := gone.symm.trans gathering.gone
      launches := launches.symm.trans gathering.launches
      tgt := gathering.tgt
      stays := gathering.stays }

/-- With the last poll group every core has one. -/
theorem Gathering.complete
    (gathering : Gathering config target)
    {pg : Nat} {rest : List InitMessage}
    (queue : target.initQueue = .createPollGroupsDone pg :: rest)
    (last :
      (target.numPollGroups + 1) % 2 ^ 32 = config.cores.length) :
    Full config (inserting pg (target.dequeued rest)) := by
  rcases created_of_queue queue with ⟨created, gone, launches⟩
  have counter := gathering.counter_succ
  rw [counter] at last
  have total := gathering.total
  have listed := gathering.counter
  have noFailure : target.failed.length = 0 := by omega
  exact
    { threads := gathering.threads
      counter := counter.trans last
      listed := by
        simp only [inserting, Target.dequeued, List.length_append,
          List.length_singleton]
        omega
      creates := by
        change creates target = 0
        omega
      created := by
        change TargetLifecycle.created (target.dequeued rest) = 0
        omega
      failed := List.length_eq_zero_iff.mp noFailure
      destroys := gathering.destroys
      left := gathering.left
      gone := gone.symm.trans gathering.gone
      launches := launches.symm.trans gathering.launches
      tgt := gathering.tgt
      stays := gathering.stays }

theorem gone_of_queue
    {rest : List InitMessage}
    (queue : target.initQueue = .destroyPollGroupsDone :: rest) :
    gone target = gone (target.dequeued rest) + 1 ∧
      created target = created (target.dequeued rest) ∧
      launches target = launches (target.dequeued rest) :=
  ⟨gone_dequeued queue, created_dequeued queue, launches_dequeued queue⟩

theorem Leaving.removed
    (leaving : Leaving config target)
    {rest : List InitMessage}
    (queue : target.initQueue = .destroyPollGroupsDone :: rest)
    (left : decremented target.numPollGroups ≠ 0) :
    Leaving config (removing (target.dequeued rest)) := by
  rcases gone_of_queue queue with ⟨gone, created, launches⟩
  have counter := leaving.counter_pred
  rw [counter] at left
  have census := leaving.counter
  have heard := leaving.heard
  have counted :
      (removing (target.dequeued rest)).numPollGroups =
        target.numPollGroups - 1 := counter
  exact
    { threads := leaving.threads
      counter := by
        rw [counted]
        change
          _ = destroys target + destroying target +
            TargetLifecycle.gone (target.dequeued rest)
        omega
      some := by omega
      total := leaving.total
      heard := by
        change
          TargetLifecycle.gone (target.dequeued rest) ≤
            TargetLifecycle.left target
        omega
      listed := leaving.listed
      creates := leaving.creates
      created := created.symm.trans leaving.created
      failed := leaving.failed
      pending := leaving.pending
      launches := launches.symm.trans leaving.launches
      tgt := leaving.tgt
      stays := leaving.stays }

/-- When the counter comes to zero, every thread has left. -/
theorem Leaving.emptied
    (leaving : Leaving config target)
    {rest : List InitMessage}
    (queue : target.initQueue = .destroyPollGroupsDone :: rest)
    (last : decremented target.numPollGroups = 0) :
    Emptied (removing (target.dequeued rest)) ∧ target.pending = [] := by
  rcases gone_of_queue queue with ⟨gone, created, launches⟩
  have counter := leaving.counter_pred
  rw [counter] at last
  have census := leaving.counter
  have total := leaving.total
  have threads := leaving.threads
  have pending := leaving.pending
  refine
    ⟨{ counter := counter.trans last
       total := ?_
       listed := leaving.listed
       creates := leaving.creates
       created := created.symm.trans leaving.created
       failed := leaving.failed
       destroys := ?_
       gone := ?_
       launches := launches.symm.trans leaving.launches }, ?_⟩
  · change left target = target.threads
    omega
  · change destroys target = 0
    omega
  · change TargetLifecycle.gone (target.dequeued rest) = 0
    omega
  · exact List.length_eq_zero_iff.mp (by omega)

theorem Gathering.groupCreated
    (gathering : Gathering config target) {pg : Nat}
    (member : (pg, .createPollGroup) ∈ target.groupQueue) :
    Gathering config (groupMade pg target) where
  threads := gathering.threads
  counter := gathering.counter
  total := by
    have total := gathering.total
    rw [creates_received member, if_pos rfl] at total
    rw [← total]
    simp only [created, creates, groupMade, Target.calling,
      Target.received, List.countP_append, List.countP_singleton,
      InitMessage.isCreated, ↓reduceIte]
    omega
  missing := gathering.missing
  destroys := (destroys_received member).symm.trans gathering.destroys
  left := gathering.left
  gone := by
    have before := gathering.gone
    rw [TargetLifecycle.gone] at before ⊢
    rw [groupMade, List.count_append, before]
    rfl
  launches := by
    have before := gathering.launches
    rw [TargetLifecycle.launches] at before ⊢
    rw [groupMade, List.count_append, before]
    rfl
  tgt := gathering.tgt
  stays := gathering.stays

theorem Gathering.groupFailed
    (gathering : Gathering config target) {pg : Nat}
    (member : (pg, .createPollGroup) ∈ target.groupQueue) :
    Gathering config (groupMissed pg target) where
  threads := gathering.threads
  counter := gathering.counter
  total := by
    have total := gathering.total
    rw [creates_received member, if_pos rfl] at total
    rw [← total]
    simp only [created, creates, groupMissed, Target.calling,
      Target.received, List.length_append, List.length_singleton]
    omega
  missing := gathering.missing
  destroys := (destroys_received member).symm.trans gathering.destroys
  left := gathering.left
  gone := gathering.gone
  launches := gathering.launches
  tgt := gathering.tgt
  stays := gathering.stays

theorem Leaving.groupLeaving
    (leaving : Leaving config target) {pg : Nat}
    (member : (pg, .destroyPollGroup) ∈ target.groupQueue) :
    Leaving config (groupDropped pg target) := by
  have heard := destroys_received member
  rw [if_pos rfl] at heard
  have going :
      destroying (groupDropped pg target) = destroying target + 1 := by
    rw [destroying, destroying]
    simp only [groupDropped, Target.await, Target.calling,
      Target.received, List.countP_append, List.countP_singleton,
      Pending.isDestroy, ↓reduceIte]
  have counter := leaving.counter
  have total := leaving.total
  have pending := leaving.pending
  exact
    { threads := leaving.threads
      counter := by
        rw [going]
        change
          target.numPollGroups =
            destroys (target.received pg .destroyPollGroup) +
              (destroying target + 1) + gone target
        omega
      some := leaving.some
      total := by
        rw [going]
        change
          destroys (target.received pg .destroyPollGroup) +
            (destroying target + 1) + left target = _
        omega
      heard := leaving.heard
      listed := leaving.listed
      creates := (creates_received member).symm.trans leaving.creates
      created := leaving.created
      failed := leaving.failed
      pending := by
        rw [going]
        simp only [groupDropped, Target.await, Target.calling,
          Target.received, List.length_append, List.length_singleton]
        omega
      launches := leaving.launches
      tgt := leaving.tgt
      stays := leaving.stays }

theorem Leaving.groupGone
    (leaving : Leaving config target) {pg : Nat}
    (waiting : .pollGroupDestroy pg ∈ target.pending) :
    Leaving config
      (pollGroupDestroyed pg
        (target.answered (.pollGroupDestroy pg))) := by
  have going :
      destroying target =
        destroying
          (pollGroupDestroyed pg
            (target.answered (.pollGroupDestroy pg))) + 1 := by
    rw [destroying, destroying, (List.perm_cons_erase waiting).countP_eq,
      List.countP_cons]
    rfl
  have goneOne :
      gone
          (pollGroupDestroyed pg
            (target.answered (.pollGroupDestroy pg))) =
        gone target + 1 := by
    rw [gone, gone]
    simp only [pollGroupDestroyed, Target.answered, List.count_append,
      List.count_singleton_self]
  have leftOne :
      left
          (pollGroupDestroyed pg
            (target.answered (.pollGroupDestroy pg))) =
        left target + 1 := by
    simp only [left, pollGroupDestroyed, Target.answered,
      List.length_append, List.length_singleton]
    omega
  have counter := leaving.counter
  have total := leaving.total
  have heard := leaving.heard
  have pending := leaving.pending
  exact
    { threads := leaving.threads
      counter := by
        rw [goneOne]
        change target.numPollGroups = destroys target + _ + _
        omega
      some := leaving.some
      total := by
        rw [leftOne]
        change destroys target + _ + _ = _
        omega
      heard := by omega
      listed := leaving.listed
      creates := leaving.creates
      created := by
        have before := leaving.created
        rw [TargetLifecycle.created] at before ⊢
        rw [pollGroupDestroyed, Target.answered, List.countP_append,
          before]
        rfl
      failed := leaving.failed
      pending := by
        have shorter :
            (pollGroupDestroyed pg
              (target.answered (.pollGroupDestroy pg))).pending.length =
                target.pending.length - 1 :=
          List.length_erase_of_mem waiting
        omega
      launches := by
        have before := leaving.launches
        rw [TargetLifecycle.launches] at before ⊢
        rw [pollGroupDestroyed, Target.answered, List.count_append,
          before]
        rfl
      tgt := leaving.tgt
      stays := leaving.stays }

/-- The call that a callback answers was the only one. -/
theorem pending_answered
    {call : Pending} (alone : target.pending = [call]) :
    (target.answered call).pending = [] := by
  simp only [Target.answered, alone, List.erase_cons_head]

/-! ### The phase after each kind of turn -/

theorem Phase.launched
    (phase : Phase config target) {rest : List InitMessage}
    (queue : target.initQueue = .appStart :: rest)
    (launch : Launched config (target.dequeued rest) next) :
    Phase config next := by
  have one := launches_dequeued queue
  rw [if_pos rfl] at one
  rcases phase.of_launches (by omega) with ⟨_, untouched, single, pending⟩
  have ready : Untouched (target.dequeued rest) :=
    { untouched with
      created := (created_dequeued queue).symm.trans untouched.created
      gone := (gone_dequeued queue).symm.trans untouched.gone }
  have launched : launches (target.dequeued rest) = 0 := by omega
  exact phase_launched ready launched pending launch

/-- A poll group that is told of is missing until then. -/
theorem Phase.told
    (phase : Phase config target) {pg : Nat} {rest : List InitMessage}
    (queue : target.initQueue = .createPollGroupsDone pg :: rest) :
    target.targetState = .initPollGroups ∧ Gathering config target ∧
      target.pending = [] := by
  have one := (created_of_queue queue).1
  exact phase.of_creates (by omega)

/-- A poll group that is asked for is missing. -/
theorem Phase.asked
    (phase : Phase config target) {pg : Nat}
    (member : (pg, .createPollGroup) ∈ target.groupQueue) :
    target.targetState = .initPollGroups ∧ Gathering config target ∧
      target.pending = [] := by
  have one := creates_received member
  rw [if_pos rfl] at one
  exact phase.of_creates (by omega)

/-- A poll group whose end is told of is still counted. -/
theorem Phase.lost
    (phase : Phase config target) {rest : List InitMessage}
    (queue : target.initQueue = .destroyPollGroupsDone :: rest) :
    target.targetState = .finiPollGroups ∧ Leaving config target := by
  have one := (gone_of_queue queue).1
  exact phase.of_destroys (by omega)

/-- A poll group that is asked to go is still counted. -/
theorem Phase.dropped
    (phase : Phase config target) {pg : Nat}
    (member : (pg, .destroyPollGroup) ∈ target.groupQueue) :
    target.targetState = .finiPollGroups ∧ Leaving config target := by
  have one := destroys_received member
  rw [if_pos rfl] at one
  exact phase.of_destroys (by omega)

/-- The state of a target that gathers its poll groups. -/
theorem Gathering.phase
    (gathering : Gathering config target)
    (state : target.targetState = .initPollGroups)
    (pending : target.pending = []) : Phase config target := by
  simp only [Phase, state]
  exact ⟨gathering, pending⟩

/-- The state of a target that loses its poll groups. -/
theorem Leaving.phase
    (leaving : Leaving config target)
    (state : target.targetState = .finiPollGroups) :
    Phase config target := by
  simp only [Phase, state]
  exact leaving

theorem Phase.complete
    (phase : Phase config target) {pg : Nat} {rest : List InitMessage}
    (queue : target.initQueue = .createPollGroupsDone pg :: rest)
    (last : (target.numPollGroups + 1) % 2 ^ 32 = config.cores.length)
    (starts :
      Started config target.subsystems
        ((inserting pg (target.dequeued rest)).moveTo
          .initStartSubsystems) next) :
    Phase config next := by
  rcases phase.told queue with ⟨_, gathering, pending⟩
  exact phase_started
    ((gathering.complete queue last).congr (sameCensus_moveTo _ _))
    pending rfl starts

theorem Phase.emptied
    (phase : Phase config target) {rest : List InitMessage}
    (queue : target.initQueue = .destroyPollGroupsDone :: rest)
    (last : decremented target.numPollGroups = 0) :
    Phase config
      (destroyingTarget
        ((removing (target.dequeued rest)).moveTo .finiTarget)) := by
  rcases phase.lost queue with ⟨_, leaving⟩
  rcases leaving.emptied queue last with ⟨emptied, pending⟩
  exact phase_destroyingTarget
    (emptied.congr (sameCensus_moveTo _ _)) pending leaving.stays rfl

theorem Phase.shut
    (phase : Phase config target) {rest : List InitMessage}
    (queue : target.initQueue = .shutdownCb :: rest)
    (runs : target.targetState = .running)
    (stops :
      Stopped (chain target.subsystems)
        (unregisterPoller
          ((target.dequeued rest).moveTo .finiStopSubsystems)) next) :
    Phase config next := by
  simp only [Phase, runs] at phase
  exact phase_stopped
    (((phase.1.congr (sameCensus_dequeued queue)).congr
      (sameCensus_moveTo _ _)).congr (sameCensus_unregisterPoller _))
    phase.2 rfl stops

/-- The callback of the library finds a target that has been launched. -/
theorem Phase.of_subsystemInit
    (phase : Phase config target)
    (waiting : .subsystemInit ∈ target.pending) :
    target.targetState = .initSubsystem ∧ Untouched target ∧
      launches target = 0 ∧ target.pending = [.subsystemInit] := by
  rcases phase.of_pending waiting with ⟨state, alone⟩
  have pending := alone rfl
  change target.targetState = .initSubsystem at state
  simp only [Phase, state, pending] at phase
  rcases phase.2 with ⟨_, idle⟩ | ⟨launched, _⟩
  · cases idle
  · exact ⟨state, phase.1, launched, pending⟩

theorem Phase.initialised
    (phase : Phase config target)
    (waiting : .subsystemInit ∈ target.pending)
    (up : BroughtUp config (target.answered .subsystemInit) next) :
    Phase config next := by
  rcases phase.of_subsystemInit waiting with
    ⟨state, untouched, launched, pending⟩
  exact phase_broughtUp
    (untouched.congr (sameCensus_answered target rfl)) launched
    (pending_answered pending) state up

theorem Phase.startedNext
    (phase : Phase config target) {subsystem : Nat}
    (waiting : .start subsystem ∈ target.pending)
    (starts :
      Started config (target.subsystems.filter (subsystem < ·))
        (target.answered (.start subsystem)) next) :
    Phase config next := by
  rcases phase.of_pending waiting with ⟨state, alone⟩
  change target.targetState = .initStartSubsystems at state
  simp only [Phase, state] at phase
  exact phase_started
    (phase.1.congr (sameCensus_answered target rfl))
    (pending_answered (alone rfl)) state starts

theorem Phase.stoppedNext
    (phase : Phase config target) {subsystem : Nat}
    (waiting : .stop subsystem ∈ target.pending)
    (stops :
      Stopped (target.subsystems.filter (subsystem < ·))
        (target.answered (.stop subsystem)) next) :
    Phase config next := by
  rcases phase.of_pending waiting with ⟨state, alone⟩
  change target.targetState = .finiStopSubsystems at state
  simp only [Phase, state] at phase
  exact phase_stopped
    (phase.1.congr (sameCensus_answered target rfl))
    (pending_answered (alone rfl)) state stops

theorem Phase.groupGone
    (phase : Phase config target) {pg : Nat}
    (waiting : .pollGroupDestroy pg ∈ target.pending) :
    Phase config
      (pollGroupDestroyed pg
        (target.answered (.pollGroupDestroy pg))) := by
  have state : target.targetState = .finiPollGroups :=
    (phase.of_pending waiting).1
  simp only [Phase, state] at phase
  exact (phase.groupGone waiting).phase state

theorem Phase.targetGone
    (phase : Phase config target)
    (waiting : .tgtDestroy ∈ target.pending) :
    Phase config
      (finishing
        ((target.answered .tgtDestroy).moveTo .finiSubsystem)) := by
  rcases phase.of_pending waiting with ⟨state, alone⟩
  change target.targetState = .finiTarget at state
  simp only [Phase, state] at phase
  exact phase_finishing
    ((phase.1.congr (sameCensus_answered target rfl)).congr
      (sameCensus_moveTo _ _))
    (pending_answered (alone rfl)) phase.2.2 rfl

theorem Phase.finished
    (phase : Phase config target)
    (waiting : .subsystemFini ∈ target.pending) :
    Phase config
      (nvmfSubsystemFiniDone (target.answered .subsystemFini)) := by
  rcases phase.of_pending waiting with ⟨state, alone⟩
  have same :
      (nvmfSubsystemFiniDone
        (target.answered .subsystemFini)).targetState =
          .finiSubsystem := state
  change target.targetState = .finiSubsystem at state
  simp only [Phase, state] at phase
  have answered : SameCensus target (target.answered .subsystemFini) :=
    sameCensus_answered target rfl
  have emptied := phase.1.congr answered
  simp only [Phase, same]
  exact
    ⟨⟨emptied.counter, emptied.total, emptied.listed, emptied.creates,
      emptied.created, emptied.failed, emptied.destroys, emptied.gone,
      emptied.launches⟩,
      Or.inr ⟨pending_answered (alone rfl), rfl⟩⟩

theorem phase_of_turn
    (phase : Phase config target) (turn : Turn config quiet target next) :
    Phase config next := by
  cases turn with
  | ignored => exact phase
  | noticed down =>
      exact phase.congr (sameCensus_requests target _ _ _ _ _) rfl rfl
  | requested some =>
      exact phase.congr (sameCensus_requests target _ _ _ _ _) rfl rfl
  | sent some =>
      have asked := sameCensus_shutdownCb target
      exact phase.congr
        (asked.trans (sameCensus_requests _ _ _ _ _ _)) rfl rfl
  | unsent some =>
      exact phase.congr (sameCensus_requests target _ _ _ _ _) rfl rfl
  | launched queue launch => exact phase.launched queue launch
  | counted queue missing =>
      rcases phase.told queue with ⟨state, gathering, pending⟩
      exact (gathering.counted queue missing).phase state pending
  | complete queue last starts => exact phase.complete queue last starts
  | removed queue left =>
      rcases phase.lost queue with ⟨state, leaving⟩
      exact (leaving.removed queue left).phase state
  | emptied queue last => exact phase.emptied queue last
  | deferred queue early =>
      exact phase.congr (sameCensus_deferred queue) rfl rfl
  | mislaid queue early =>
      exact phase.congr
        ((sameCensus_dequeued queue).trans
          (sameCensus_requests _ _ _ _ _ _)) rfl rfl
  | dropped queue late =>
      exact phase.congr (sameCensus_dequeued queue) rfl rfl
  | shut queue runs stops => exact phase.shut queue runs stops
  | groupCreated next =>
      have member := mem_of_nextGroupMessage next
      rcases phase.asked member with ⟨state, gathering, pending⟩
      exact (gathering.groupCreated member).phase state pending
  | groupFailed next =>
      have member := mem_of_nextGroupMessage next
      rcases phase.asked member with ⟨state, gathering, pending⟩
      exact (gathering.groupFailed member).phase state pending
  | groupLeaving next =>
      have member := mem_of_nextGroupMessage next
      rcases phase.dropped member with ⟨state, leaving⟩
      exact (leaving.groupLeaving member).phase state
  | migrated next =>
      exact phase.congr
        (sameCensus_migrated (mem_of_nextGroupMessage next)) rfl rfl
  | initialised waiting up => exact phase.initialised waiting up
  | startedNext waiting starts => exact phase.startedNext waiting starts
  | stoppedNext waiting stops => exact phase.stoppedNext waiting stops
  | groupGone waiting => exact phase.groupGone waiting
  | threadLeft going =>
      exact phase.congr (sameCensus_threadExit going) rfl rfl
  | targetGone waiting => exact phase.targetGone waiting
  | finished waiting => exact phase.finished waiting
  | polled => exact phase.congr (sameCensus_polled target) rfl rfl
  | @subsystemAdded subsystem made fresh early =>
      have same :
          SameCensus target
            { target with
              subsystems :=
                target.subsystems.orderedInsert (· ≤ ·) subsystem } :=
        sameCensus_of_eq rfl rfl rfl rfl rfl rfl rfl rfl rfl rfl
      exact phase.congr same rfl rfl

theorem phase_of_reachable (reached : Reachable config target) :
    Phase config target :=
  reached.preserves (Phase config) phase_initial fun _ _ phase turn =>
    phase_of_turn phase turn

/-! ## The assertions next to the counter -/

/-- The counter never exceeds the number of cores. -/
theorem numPollGroups_le (phase : Phase config target) :
    target.numPollGroups ≤ config.cores.length := by
  rw [Phase] at phase
  cases state : target.targetState with
  | initSubsystem =>
      simp only [state] at phase
      rw [phase.1.counter]
      exact Nat.zero_le _
  | initTarget => simp only [state] at phase
  | initPollGroups =>
      simp only [state] at phase
      exact phase.1.missing.le
  | initStartSubsystems =>
      simp only [state] at phase
      exact phase.1.counter.le
  | running =>
      simp only [state] at phase
      exact phase.1.counter.le
  | finiStopSubsystems =>
      simp only [state] at phase
      exact phase.1.counter.le
  | finiPollGroups =>
      simp only [state] at phase
      have counter := phase.counter
      have total := phase.total
      have heard := phase.heard
      omega
  | finiTarget =>
      simp only [state] at phase
      rw [phase.1.counter]
      exact Nat.zero_le _
  | finiSubsystem =>
      simp only [state] at phase
      rw [phase.1.counter]
      exact Nat.zero_le _

theorem created_pos
    {pg : Nat} (told : .createPollGroupsDone pg ∈ target.initQueue) :
    0 < created target :=
  List.countP_pos_iff.mpr ⟨_, told, rfl⟩

/--
Whenever a poll group is counted in or out, the assertion of the source next
to the counter holds.  A running target has a poll group for every core, and
when it is destroyed every thread of a poll group has told of the end of its
group, and has exited or is about to.
-/
theorem poll_group_assertions_hold
    (reached : Reachable config target) :
    (∀ pg, .createPollGroupsDone pg ∈ target.initQueue →
        target.numPollGroups < config.cores.length) ∧
      (.destroyPollGroupsDone ∈ target.initQueue →
        0 < target.numPollGroups) ∧
      (target.numPollGroups ≤ config.cores.length) ∧
      (target.targetState = .running →
        target.pollGroups.length = config.cores.length) ∧
      (target.targetState = .finiTarget →
        target.exiting.length + target.exited.length =
          target.threads) := by
  have phase := phase_of_reachable reached
  refine ⟨?_, ?_, numPollGroups_le phase, ?_, ?_⟩
  · intro pg told
    have some := created_pos told
    exact (phase.of_creates (by omega)).2.1.missing
  · intro told
    have some : 0 < gone target := List.count_pos_iff.mpr told
    exact (phase.of_destroys (by omega)).2.some
  · intro runs
    simp only [Phase, runs] at phase
    exact phase.1.listed
  · intro last
    simp only [Phase, last] at phase
    exact phase.1.total

/-- A library that gives everything it is asked for, after a while. -/
def obliging : Library where
  initImmediate := false
  rpcInitialize := true
  tgtCreate := true
  subsystemCreate := true
  pollGroupCreate := true
  start := fun _ => .later
  stop := fun _ => .later
  resend := true

/-- One core, and poll groups that are moved. -/
def oneCore : Config where
  cores := [0]
  migratePgPeriodUs := 1
  cores_nonempty := List.cons_ne_nil 0 []
  cores_nodup := List.nodup_singleton 0
  cores_count := by decide

/-- Events of an obliging library fold to a reachable state. -/
theorem reachable_of_foldlM
    {events : List Event}
    (obliged :
      ∀ event ∈ events, ∀ library ∈ event.library?, library = obliging)
    (folded : events.foldlM (step config) initial = some target) :
    Reachable config target := by
  refine ZnsBench.Core.GuardedRun.Run.of_foldlM ?_ folded
  intro event member _ library given subsystem _
  subst given
  rw [obliged _ member library rfl]
  exact nofun

/-- Bringing a target on one core up. -/
def bootEvents : List Event :=
  [.initMessage obliging, .callback .subsystemInit obliging,
    .groupMessage 0 .createPollGroup obliging, .initMessage obliging,
    .callback (.start 0) obliging]

/-- The target they bring up. -/
def bootedTarget : Target where
  targetState := .running
  tgt := true
  subsystems := [0]
  pollGroups := [0]
  numPollGroups := 1
  migratePgPoller := some 0
  pollers := [0]
  intrReceived := false
  tested := 0
  raised := 0
  requests := 0
  lost := 0
  reactorsExit := false
  initQueue := []
  groupQueue := []
  pending := []
  threads := 1
  failed := []
  exiting := []
  exited := []
  log :=
    [.subsystemInit, .rpcInitialize, .tgtCreate, .subsystemCreate,
      .threadCreate 0, .pollGroupCreate 0, .subsystemStart 0,
      .pollerRegister]

theorem bootEvents_fold :
    bootEvents.foldlM (step oneCore) initial = some bootedTarget := by
  decide +kernel

theorem bootEvents_obliged :
    ∀ event ∈ bootEvents, ∀ library ∈ event.library?,
      library = obliging := by
  simp [bootEvents, Event.library?]

theorem poll_group_assertions_hold_booted :
    Reachable oneCore bootedTarget ∧
      bootedTarget.targetState = .running ∧
      bootedTarget.pollGroups.length = oneCore.cores.length :=
  have reached :=
    reachable_of_foldlM bootEvents_obliged bootEvents_fold
  ⟨reached, rfl, (poll_group_assertions_hold reached).2.2.2.1 rfl⟩

end ZnsBench.Nvmf.TargetLifecycle

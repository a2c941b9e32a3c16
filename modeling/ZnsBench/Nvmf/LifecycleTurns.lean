import ZnsBench.Nvmf.AdvanceState

/-!
# The turns of the target

One relation says what a step of the target can do, with the guard of every
case, so that an invariant is proved case by case without going through the
loop again.
-/

namespace ZnsBench.Nvmf.TargetLifecycle

variable {config : Config} {library : Library} {quiet : Prop}

/-! ## Chains of stops and starts -/

/-- A chain of stops waits for one of its subsystems or comes to its end. -/
inductive Stopped (rest : List Nat) (target : Target) : Target → Prop where
  | waits {made : List Nat} {subsystem : Nat}
      (begins : made ++ [subsystem] <+: rest) :
      Stopped rest target
        ((target.logging
          ((made ++ [subsystem]).map .subsystemStop)).await
            (.stop subsystem))
  | passes :
      Stopped rest target
        (nvmfPollGroupsDestroy
          ((target.logging (rest.map .subsystemStop)).moveTo
            .finiPollGroups))

theorem stopsMade_spec (library : Library) (rest : List Nat) :
    (∃ made subsystem, made ++ [subsystem] <+: rest ∧
        stopsMade library rest = (made ++ [subsystem], some subsystem)) ∨
      stopsMade library rest = (rest, none) := by
  induction rest with
  | nil => exact Or.inr rfl
  | cons subsystem rest induction =>
      have passed (other : library.stop subsystem ≠ .later) :
          stopsMade library (subsystem :: rest) =
            (subsystem :: (stopsMade library rest).1,
              (stopsMade library rest).2) := by
        rw [stopsMade]
        cases answer : library.stop subsystem with
        | later => exact absurd answer other
        | refused => rfl
        | immediate => rfl
      by_cases waits : library.stop subsystem = .later
      · refine Or.inl ⟨[], subsystem, ?_, ?_⟩
        · exact ⟨rest, rfl⟩
        · rw [stopsMade, waits]
          rfl
      · rw [passed waits]
        rcases induction with ⟨made, last, begins, made_eq⟩ | all
        · refine Or.inl ⟨subsystem :: made, last, ?_, ?_⟩
          · exact List.cons_prefix_cons.mpr ⟨rfl, begins⟩
          · rw [made_eq]
            rfl
        · exact Or.inr (by rw [all])

theorem stopped_stopping
    (library : Library) (rest : List Nat) (target : Target) :
    Stopped rest target (stopping library rest target) := by
  rw [stopping]
  rcases stopsMade_spec library rest with ⟨made, last, begins, eq⟩ | eq
  · simp only [eq]
    exact .waits begins
  · simp only [eq]
    exact .passes

/-- A chain of starts waits, is refused, or comes to its end. -/
inductive Started (config : Config) (rest : List Nat) (target : Target) :
    Target → Prop where
  | runs :
      Started config rest target
        (runningTarget config
          (target.logging (rest.map .subsystemStart)))
  | waits {made : List Nat} {subsystem : Nat}
      (begins : made ++ [subsystem] <+: rest) :
      Started config rest target
        ((target.logging
          ((made ++ [subsystem]).map .subsystemStart)).await
            (.start subsystem))
  | refused {made : List Nat} {next : Target}
      (begins : made <+: rest)
      (stops :
        Stopped (chain target.subsystems)
          (unregisterPoller
            ((target.logging (made.map .subsystemStart)).moveTo
              .finiStopSubsystems)) next) :
      Started config rest target next

/-- A subsystem that starts at once is one more call of the same chain. -/
theorem Started.cons
    {subsystem : Nat} {rest : List Nat} {target next : Target}
    (starts :
      Started config rest (target.calling (.subsystemStart subsystem))
        next) :
    Started config (subsystem :: rest) target next := by
  have one (calls : List Nat) :
      (target.calling (.subsystemStart subsystem)).logging
          (calls.map .subsystemStart) =
        target.logging ((subsystem :: calls).map .subsystemStart) :=
    logging_calling _ _ _
  cases starts with
  | runs =>
      rw [one]
      exact .runs
  | @waits made last begins =>
      have longer :
          subsystem :: made ++ [last] <+: subsystem :: rest :=
        List.cons_prefix_cons.mpr ⟨rfl, begins⟩
      rw [one]
      exact .waits longer
  | refused begins stops =>
      rw [one] at stops
      exact .refused (List.cons_prefix_cons.mpr ⟨rfl, begins⟩) stops

theorem started_starting
    (config : Config) (library : Library)
    (rest : List Nat) (target : Target) :
    Started config rest target (starting config library rest target) := by
  induction rest generalizing target with
  | nil =>
      have ends : Started config [] target
          (runningTarget config (target.logging [])) := .runs
      simpa only [starting, logging_nil] using ends
  | cons subsystem more induction =>
      have begins : [subsystem] <+: subsystem :: more := ⟨more, rfl⟩
      rw [starting]
      cases library.start subsystem with
      | later =>
          have first : [] ++ [subsystem] <+: subsystem :: more := begins
          exact .waits first
      | refused => exact .refused begins (stopped_stopping library _ _)
      | immediate => exact (induction _).cons

/-- The message that starts the application waits or brings it up. -/
inductive Launched (config : Config) (target : Target) : Target → Prop where
  | waits :
      Launched config target
        (((target.moveTo .initSubsystem).calling .subsystemInit).await
          .subsystemInit)
  | goesOn {next : Target}
      (up :
        BroughtUp config
          ((target.moveTo .initSubsystem).calling .subsystemInit) next) :
      Launched config target next

theorem launched_launching
    (config : Config) (library : Library) (target : Target) :
    Launched config target (launching config library target) := by
  rw [launching]
  split
  · exact .goesOn (broughtUp_bringingUp config library _)
  · exact .waits

/-! ## Turns -/

/-- What a message about a new poll group does before the count is tested. -/
def inserting (pg : Nat) (target : Target) : Target :=
  { target with
    pollGroups := target.pollGroups ++ [pg]
    numPollGroups := (target.numPollGroups + 1) % 2 ^ 32 }

/-- What a message about a lost poll group does before the count is tested. -/
def removing (target : Target) : Target :=
  { target with numPollGroups := decremented target.numPollGroups }

/-- The queue of the init thread without its first message. -/
def Target.dequeued (target : Target) (rest : List InitMessage) : Target :=
  { target with initQueue := rest }

/-- The queues of the poll groups without a message. -/
def Target.received
    (target : Target) (pg : Nat) (message : GroupMessage) : Target :=
  { target with groupQueue := target.groupQueue.erase (pg, message) }

/-- The calls of the library without one that was answered. -/
def Target.answered (target : Target) (call : Pending) : Target :=
  { target with pending := target.pending.erase call }

/-- A thread has made its poll group and says so. -/
def groupMade (pg : Nat) (target : Target) : Target :=
  { (target.received pg .createPollGroup).calling (.pollGroupCreate pg) with
    initQueue := target.initQueue ++ [.createPollGroupsDone pg] }

/-- A thread could not make its poll group and says nothing. -/
def groupMissed (pg : Nat) (target : Target) : Target :=
  { (target.received pg .createPollGroup).calling (.pollGroupCreate pg) with
    failed := target.failed ++ [pg] }

/-- A thread begins to destroy its poll group. -/
def groupDropped (pg : Nat) (target : Target) : Target :=
  ((target.received pg .destroyPollGroup).calling
    (.pollGroupDestroy pg)).await (.pollGroupDestroy pg)

/--
The steps of a target whose first subsystem starts later.  In a quiet run the
target is given no subsystem once its shutdown has begun.
-/
inductive Turn (config : Config) (quiet : Prop) (target : Target) :
    Target → Prop where
  | ignored : Turn config quiet target target
  | noticed
      (down : target.intrReceived = false) :
      Turn config quiet target { target with tested := target.tested + 1 }
  | requested
      (some : 0 < target.tested) :
      Turn config quiet target (nvmfShutdownCbSet target)
  | sent
      (some : 0 < target.raised) :
      Turn config quiet target
        { target with
          raised := target.raised - 1
          initQueue := target.initQueue ++ [.shutdownCb] }
  | unsent
      (some : 0 < target.raised) :
      Turn config quiet target
        { target with
          raised := target.raised - 1
          lost := target.lost + 1 }
  | launched {rest : List InitMessage} {next : Target}
      (queue : target.initQueue = .appStart :: rest)
      (launch : Launched config (target.dequeued rest) next) :
      Turn config quiet target next
  | counted {pg : Nat} {rest : List InitMessage}
      (queue : target.initQueue = .createPollGroupsDone pg :: rest)
      (missing :
        (target.numPollGroups + 1) % 2 ^ 32 ≠ config.cores.length) :
      Turn config quiet target (inserting pg (target.dequeued rest))
  | complete {pg : Nat} {rest : List InitMessage} {next : Target}
      (queue : target.initQueue = .createPollGroupsDone pg :: rest)
      (last :
        (target.numPollGroups + 1) % 2 ^ 32 = config.cores.length)
      (starts :
        Started config target.subsystems
          ((inserting pg (target.dequeued rest)).moveTo
            .initStartSubsystems) next) :
      Turn config quiet target next
  | removed {rest : List InitMessage}
      (queue : target.initQueue = .destroyPollGroupsDone :: rest)
      (left : decremented target.numPollGroups ≠ 0) :
      Turn config quiet target (removing (target.dequeued rest))
  | emptied {rest : List InitMessage}
      (queue : target.initQueue = .destroyPollGroupsDone :: rest)
      (last : decremented target.numPollGroups = 0) :
      Turn config quiet target
        (destroyingTarget
          ((removing (target.dequeued rest)).moveTo .finiTarget))
  | deferred {rest : List InitMessage}
      (queue : target.initQueue = .shutdownCb :: rest)
      (early : target.targetState.rank < TargetState.running.rank) :
      Turn config quiet target (target.dequeued (rest ++ [.shutdownCb]))
  | mislaid {rest : List InitMessage}
      (queue : target.initQueue = .shutdownCb :: rest)
      (early : target.targetState.rank < TargetState.running.rank) :
      Turn config quiet target
        { target.dequeued rest with lost := target.lost + 1 }
  | dropped {rest : List InitMessage}
      (queue : target.initQueue = .shutdownCb :: rest)
      (late : TargetState.running.rank < target.targetState.rank) :
      Turn config quiet target (target.dequeued rest)
  | shut {rest : List InitMessage} {next : Target}
      (queue : target.initQueue = .shutdownCb :: rest)
      (runs : target.targetState = .running)
      (stops :
        Stopped (chain target.subsystems)
          (unregisterPoller
            ((target.dequeued rest).moveTo .finiStopSubsystems)) next) :
      Turn config quiet target next
  | groupCreated {pg : Nat}
      (next :
        nextGroupMessage target.groupQueue pg = some .createPollGroup) :
      Turn config quiet target (groupMade pg target)
  | groupFailed {pg : Nat}
      (next :
        nextGroupMessage target.groupQueue pg = some .createPollGroup) :
      Turn config quiet target (groupMissed pg target)
  | groupLeaving {pg : Nat}
      (next :
        nextGroupMessage target.groupQueue pg = some .destroyPollGroup) :
      Turn config quiet target (groupDropped pg target)
  | migrated {pg : Nat}
      (next : nextGroupMessage target.groupQueue pg = some .migrate) :
      Turn config quiet target (target.received pg .migrate)
  | initialised {next : Target}
      (waiting : .subsystemInit ∈ target.pending)
      (up : BroughtUp config (target.answered .subsystemInit) next) :
      Turn config quiet target next
  | startedNext {subsystem : Nat} {next : Target}
      (waiting : .start subsystem ∈ target.pending)
      (starts :
        Started config (target.subsystems.filter (subsystem < ·))
          (target.answered (.start subsystem)) next) :
      Turn config quiet target next
  | stoppedNext {subsystem : Nat} {next : Target}
      (waiting : .stop subsystem ∈ target.pending)
      (stops :
        Stopped (target.subsystems.filter (subsystem < ·))
          (target.answered (.stop subsystem)) next) :
      Turn config quiet target next
  | groupGone {pg : Nat}
      (waiting : .pollGroupDestroy pg ∈ target.pending) :
      Turn config quiet target
        (pollGroupDestroyed pg (target.answered (.pollGroupDestroy pg)))
  | threadLeft {pg : Nat}
      (going : pg ∈ target.exiting) :
      Turn config quiet target (threadExit pg target)
  | targetGone
      (waiting : .tgtDestroy ∈ target.pending) :
      Turn config quiet target
        (finishing
          ((target.answered .tgtDestroy).moveTo .finiSubsystem))
  | finished
      (waiting : .subsystemFini ∈ target.pending) :
      Turn config quiet target
        (nvmfSubsystemFiniDone (target.answered .subsystemFini))
  | polled : Turn config quiet target (migratePollGroupsByRr target)
  | subsystemAdded {subsystem : Nat}
      (made : target.tgt = true)
      (fresh : subsystem ∉ target.subsystems)
      (early :
        quiet → target.targetState.rank ≤ TargetState.running.rank) :
      Turn config quiet target
        { target with
          subsystems :=
            target.subsystems.orderedInsert (· ≤ ·) subsystem }

/-- A message of the thread that starts and stops the target. -/
theorem turn_of_initMessage
    {target : Target} {message : InitMessage} {rest : List InitMessage}
    (notAtOnce :
      ∀ subsystem ∈ target.subsystems.head?,
        library.start subsystem ≠ .immediate)
    (queue : target.initQueue = message :: rest) :
    Turn config quiet target
      (runInitMessage config library (target.dequeued rest) message) := by
  cases message with
  | appStart =>
      rw [runInitMessage, nvmfTargetAppStart_eq]
      exact .launched queue (launched_launching config library _)
  | createPollGroupsDone pg =>
      rw [runInitMessage, nvmfTgtCreatePollGroupsDone]
      simp only
      split
      · rename_i last
        have starts :
            nvmfTargetAdvanceState config library
                ((inserting pg (target.dequeued rest)).moveTo
                  .initStartSubsystems) =
              starting config library target.subsystems
                ((inserting pg (target.dequeued rest)).moveTo
                  .initStartSubsystems) :=
          advance_initStartSubsystems notAtOnce rfl
        refine .complete queue last ?_
        exact starts ▸ started_starting config library _ _
      · rename_i missing
        exact .counted queue missing
  | destroyPollGroupsDone =>
      rw [runInitMessage, nvmfTgtDestroyPollGroupsDone]
      simp only
      split
      · rename_i last
        rw [advance_finiTarget rfl]
        exact .emptied queue last
      · rename_i left
        exact .removed queue left
  | shutdownCb =>
      rw [runInitMessage, nvmfShutdown]
      split
      · rename_i early
        split
        · exact .deferred queue early
        · exact .mislaid queue early
      · split
        · rename_i late
          exact .dropped queue late
        · rename_i notEarly notLate
          rw [advance_finiStopSubsystems rfl]
          refine .shut queue ?_ (stopped_stopping library _ _)
          cases state : target.targetState <;>
            simp_all [TargetState.rank, Target.dequeued]

theorem turn_of_groupMessage
    {target : Target} {pg : Nat} {message : GroupMessage}
    (next : nextGroupMessage target.groupQueue pg = some message) :
    Turn config quiet target
      (runGroupMessage library pg (target.received pg message) message) := by
  cases message with
  | createPollGroup =>
      rw [runGroupMessage, nvmfTgtCreatePollGroup]
      split
      · exact .groupCreated next
      · exact .groupFailed next
  | destroyPollGroup => exact .groupLeaving next
  | migrate => exact .migrated next

theorem turn_of_callback
    {target : Target} {call : Pending}
    (waiting : call ∈ target.pending) :
    Turn config quiet target
      (runCallback config library (target.answered call) call) := by
  cases call with
  | subsystemInit =>
      rw [runCallback, nvmfSubsystemInitDone_eq]
      exact .initialised waiting (broughtUp_bringingUp config library _)
  | start subsystem =>
      rw [runCallback, nvmfTgtSubsystemStartNext, startFrom_eq]
      exact .startedNext waiting (started_starting config library _ _)
  | stop subsystem =>
      rw [runCallback, nvmfTgtSubsystemStopNext, stopFrom_eq]
      exact .stoppedNext waiting (stopped_stopping library _ _)
  | pollGroupDestroy pg => exact .groupGone waiting
  | tgtDestroy =>
      rw [runCallback, nvmfTgtDestroyDone, advance_finiSubsystem rfl]
      exact .targetGone waiting
  | subsystemFini => exact .finished waiting

/-- No subsystem is given to a target that is going down. -/
def AddsEarly (target : Target) (event : Event) : Prop :=
  ∀ subsystem, event = .createSubsystem subsystem →
    target.targetState.rank ≤ TargetState.running.rank

/-- A handler that has set the flag sends its request or cannot. -/
theorem turn_of_signalSend
    {target : Target} (some : 0 < target.raised) (sent : Bool) :
    Turn config quiet target (nvmfShutdownCbSend sent target) := by
  cases sent with
  | true => exact .sent some
  | false => exact .unsent some

/-- Every step of a run in which the first subsystem starts later is a turn. -/
theorem turn_of_step
    {target next : Target} {event : Event}
    (admitted : FirstStartsLater target event)
    (early : quiet → AddsEarly target event)
    (taken : step config target event = some next) :
    Turn config quiet target next := by
  cases event with
  | signal =>
      cases taken
      rw [nvmfShutdownCb]
      split
      · exact .ignored
      · rename_i down
        exact .noticed (Bool.eq_false_iff.mpr down)
  | signalSet =>
      rw [step] at taken
      split at taken
      · rename_i some
        cases taken
        exact .requested some
      · cases taken
  | signalSend sent =>
      rw [step] at taken
      split at taken
      · rename_i some
        cases taken
        exact turn_of_signalSend some sent
      · cases taken
  | initMessage library =>
      rw [step] at taken
      split at taken
      · cases taken
      · rename_i message rest queue
        cases taken
        exact turn_of_initMessage (admitted library rfl) queue
  | groupMessage pg message library =>
      rw [step] at taken
      split at taken
      · rename_i enabled
        cases taken
        exact turn_of_groupMessage enabled.1
      · cases taken
  | callback call library =>
      rw [step] at taken
      split at taken
      · rename_i waiting
        cases taken
        exact turn_of_callback waiting
      · cases taken
  | threadExit pg =>
      rw [step] at taken
      split at taken
      · rename_i going
        cases taken
        exact .threadLeft going
      · cases taken
  | poll poller =>
      rw [step] at taken
      split at taken
      · cases taken
        exact .polled
      · cases taken
  | createSubsystem subsystem =>
      rw [step] at taken
      split at taken
      · rename_i enabled
        cases taken
        exact .subsystemAdded enabled.1 enabled.2 fun calm =>
          early calm subsystem rfl
      · cases taken

/-- The invariant rule over turns. -/
theorem Reachable.preserves
    {target : Target}
    (reached : Reachable config target)
    (Invariant : Target → Prop)
    (initially : Invariant initial)
    (preserved :
      ∀ state next, Invariant state → Turn config False state next →
        Invariant next) :
    Invariant target :=
  ZnsBench.Core.GuardedRun.Run.preserves reached initially
    fun state _ next holds admitted taken =>
      preserved state next holds
        (turn_of_step admitted (fun never => never.elim) taken)

/--
The states reached when the first start calls back later and subsystems are
added early.
-/
def QuietlyReachable (config : Config) (target : Target) : Prop :=
  ZnsBench.Core.GuardedRun.Run (step config)
    (fun target event =>
      FirstStartsLater target event ∧ AddsEarly target event)
    initial target

theorem QuietlyReachable.reachable
    {target : Target} (reached : QuietlyReachable config target) :
    Reachable config target :=
  ZnsBench.Core.GuardedRun.Run.relax reached
    fun _ _ admitted => admitted.1

theorem QuietlyReachable.preserves
    {target : Target}
    (reached : QuietlyReachable config target)
    (Invariant : Target → Prop)
    (initially : Invariant initial)
    (preserved :
      ∀ state next, Invariant state → Turn config True state next →
        Invariant next) :
    Invariant target :=
  ZnsBench.Core.GuardedRun.Run.preserves reached initially
    fun state _ next holds admitted taken =>
      preserved state next holds
        (turn_of_step admitted.1 (fun _ => admitted.2) taken)

end ZnsBench.Nvmf.TargetLifecycle

import Mathlib.Algebra.Ring.Nat
import Mathlib.Data.List.Sort
import ZnsBench.Core.GuardedRun

/-!
# The life of the NVMe-oF target

`nvmf.cc` brings a target up and down in nine states.
`nvmf_target_advance_state` does the work of the state it is in and goes on
until a state waits for something; the callback that comes then sets the next
state and calls it again, sometimes from inside the loop that is still
running.

Three kinds of thread take part.  The thread `g_init_thread` runs messages
and the callbacks of the calls in flight, one at a time.  Every poll group
has a thread of its own, which runs the messages sent to it in order.  Signal
handlers run at any time, several of them at once; each tests the flag, sets
it and sends a message, in steps of their own.

The environment chooses what comes next, what the library calls of a step
return, and whether a subsystem changes its state inside the call or calls
back later.  An assertion of the source is not a branch here: a build that
stops at one runs a beginning of these runs.

`spdk_thread_send_msg` can fail for want of memory, and the source looks at
its result nowhere.  A request to shut down may be refused here; the other
messages are taken to be delivered.
-/

namespace ZnsBench.Nvmf.TargetLifecycle

open ZnsBench.Core.GuardedRun

/-- `enum nvmf_target_state`. -/
inductive TargetState where
  | initSubsystem
  | initTarget
  | initPollGroups
  | initStartSubsystems
  | running
  | finiStopSubsystems
  | finiPollGroups
  | finiTarget
  | finiSubsystem
  deriving DecidableEq, Repr

/-- The value of the enumerator, which `_nvmf_shutdown_cb` compares. -/
def TargetState.rank : TargetState → Nat
  | .initSubsystem => 0
  | .initTarget => 1
  | .initPollGroups => 2
  | .initStartSubsystems => 3
  | .running => 4
  | .finiStopSubsystems => 5
  | .finiPollGroups => 6
  | .finiTarget => 7
  | .finiSubsystem => 8

/-- No state has a greater value than the last. -/
theorem TargetState.rank_le (state : TargetState) : state.rank ≤ 8 := by
  cases state <;> decide

/-- The messages sent to `g_init_thread`. -/
inductive InitMessage where
  | appStart
  | createPollGroupsDone (pg : Nat)
  | destroyPollGroupsDone
  | shutdownCb
  deriving DecidableEq, Repr

/-- The messages sent to the thread of a poll group. -/
inductive GroupMessage where
  | createPollGroup
  | destroyPollGroup
  | migrate
  deriving DecidableEq, Repr

/-- Calls that have been accepted and will call back. -/
inductive Pending where
  | subsystemInit
  | start (subsystem : Nat)
  | stop (subsystem : Nat)
  | pollGroupDestroy (pg : Nat)
  | tgtDestroy
  | subsystemFini
  deriving DecidableEq, Repr

/-- The library calls of the program, in the order it makes them. -/
inductive LibraryCall where
  | subsystemInit
  | rpcInitialize
  | appStop
  | tgtCreate
  | subsystemCreate
  | threadCreate (core : Nat)
  | pollGroupCreate (pg : Nat)
  | subsystemStart (subsystem : Nat)
  | pollerRegister
  | pollerUnregister
  | subsystemStop (subsystem : Nat)
  | pollGroupDestroy (pg : Nat)
  | tgtDestroy
  | subsystemFini
  | rpcFinish
  deriving DecidableEq, Repr

/-- What starting or stopping a subsystem comes to. -/
inductive Answer where
  | refused
  | immediate
  | later
  deriving DecidableEq, Repr

/-- What the library calls of one step return. -/
structure Library where
  /-- `spdk_subsystem_init` calls back before it returns. -/
  initImmediate : Bool
  /-- `spdk_rpc_initialize` returns zero. -/
  rpcInitialize : Bool
  /-- `spdk_nvmf_tgt_create` returns a target. -/
  tgtCreate : Bool
  /-- `spdk_nvmf_subsystem_create` returns the discovery subsystem. -/
  subsystemCreate : Bool
  /-- `calloc` and `spdk_nvmf_poll_group_create` return a poll group. -/
  pollGroupCreate : Bool
  /-- What `spdk_nvmf_subsystem_start` comes to for each subsystem. -/
  start : Nat → Answer
  /-- What `spdk_nvmf_subsystem_stop` comes to for each subsystem. -/
  stop : Nat → Answer
  /-- `spdk_thread_send_msg` takes a request that is put off. -/
  resend : Bool

/-- What is fixed before the target starts. -/
structure Config where
  /-- The cores of `SPDK_ENV_FOREACH_CORE`. -/
  cores : List Nat
  /-- `g_migrate_pg_period_us`. -/
  migratePgPeriodUs : Nat
  cores_nonempty : cores ≠ []
  cores_nodup : cores.Nodup
  /-- `spdk_env_get_core_count` is a `uint32_t`. -/
  cores_count : cores.length < 2 ^ 32

/--
The globals of the program, the messages and the calls on their way, and what
has happened to the threads of the poll groups and to the requests so far.
-/
structure Target where
  /-- `g_target_state`. -/
  targetState : TargetState
  /-- `g_nvmf_tgt.tgt` is not null. -/
  tgt : Bool
  /-- The subsystems of the target, by increasing number. -/
  subsystems : List Nat
  /-- `g_poll_groups`; a poll group is known by the number of its thread. -/
  pollGroups : List Nat
  /-- `g_num_poll_groups`. -/
  numPollGroups : Nat
  /-- The poller `g_migrate_pg_poller` points to. -/
  migratePgPoller : Option Nat
  /-- The pollers that are registered. -/
  pollers : List Nat
  /-- `g_intr_received`. -/
  intrReceived : Bool
  /-- Signal handlers that have found the flag down and not yet set it. -/
  tested : Nat
  /-- Signal handlers that have set the flag and not yet sent the message. -/
  raised : Nat
  /-- Requests to shut down that signal handlers have made so far. -/
  requests : Nat
  /-- Requests whose message could not be sent. -/
  lost : Nat
  /-- `g_reactors_exit`. -/
  reactorsExit : Bool
  /-- Messages to `g_init_thread`, the oldest first. -/
  initQueue : List InitMessage
  /-- Messages to the threads of the poll groups, the oldest first. -/
  groupQueue : List (Nat × GroupMessage)
  /-- Calls in flight. -/
  pending : List Pending
  /-- Threads of poll groups made so far. -/
  threads : Nat
  /-- Threads whose poll group could not be created. -/
  failed : List Nat
  /-- Threads that have told of their poll group's end and will now exit. -/
  exiting : List Nat
  /-- Threads that have called `spdk_thread_exit`. -/
  exited : List Nat
  /-- The library calls made so far. -/
  log : List LibraryCall
  deriving DecidableEq, Repr

/-- After `main` has sent the message that starts the application. -/
def initial : Target where
  targetState := .initSubsystem
  tgt := false
  subsystems := []
  pollGroups := []
  numPollGroups := 0
  migratePgPoller := none
  pollers := []
  intrReceived := false
  tested := 0
  raised := 0
  requests := 0
  lost := 0
  reactorsExit := false
  initQueue := [.appStart]
  groupQueue := []
  pending := []
  threads := 0
  failed := []
  exiting := []
  exited := []
  log := []

variable (config : Config) (library : Library)

/-! ## The work of each state -/

/-- A library call is made. -/
def Target.calling (target : Target) (call : LibraryCall) : Target :=
  { target with log := target.log ++ [call] }

/-- A call has been accepted and will call back. -/
def Target.await (target : Target) (call : Pending) : Target :=
  { target with pending := target.pending ++ [call] }

/-- `g_target_state` is set. -/
def Target.moveTo (target : Target) (targetState : TargetState) : Target :=
  { target with targetState := targetState }

/--
`nvmf_create_nvmf_tgt`.  The discovery subsystem has the number 0.
-/
def nvmfCreateNvmfTgt (target : Target) : Target :=
  let called := target.calling .tgtCreate
  if library.tgtCreate then
    let created :=
      { called with tgt := true, subsystems := [] }.calling .subsystemCreate
    if library.subsystemCreate then
      { created with
        subsystems := [0], targetState := .initPollGroups }
    else
      created.moveTo .finiTarget
  else
    { called with tgt := false, targetState := .finiTarget }

/-- The threads that `nvmf_poll_groups_create` makes for the given cores. -/
def createThreads : List Nat → Target → Target
  | [], target => target
  | core :: rest, target =>
      createThreads rest
        { target.calling (.threadCreate core) with
          threads := target.threads + 1
          groupQueue :=
            target.groupQueue ++ [(target.threads, .createPollGroup)] }

/-- Every core of the environment gets a thread for a poll group. -/
def nvmfPollGroupsCreate (target : Target) : Target :=
  createThreads config.cores target

section Chains

-- the nested call of `nvmf_target_advance_state`
variable (advance : Target → Target)

/--
The calls of `nvmf_tgt_subsystem_start_next` on the subsystems that follow,
each from the callback of the one before.
-/
def startFrom : List Nat → Target → Target
  | [], target => advance (target.moveTo .running)
  | subsystem :: rest, target =>
      let called := target.calling (.subsystemStart subsystem)
      match library.start subsystem with
      | .refused => advance (called.moveTo .finiStopSubsystems)
      | .immediate => startFrom rest called
      | .later => called.await (.start subsystem)

/-- The callback of a start goes on after the subsystem it is about. -/
def nvmfTgtSubsystemStartNext (subsystem : Nat) (target : Target) : Target :=
  startFrom library advance
    (target.subsystems.filter (subsystem < ·)) target

/-- A first start that is refused only sets the state. -/
def nvmfTgtStartSubsystems (target : Target) : Target :=
  match target.subsystems with
  | [] => target.moveTo .running
  | subsystem :: _ =>
      let called := target.calling (.subsystemStart subsystem)
      match library.start subsystem with
      | .refused => called.moveTo .finiStopSubsystems
      | .immediate =>
          nvmfTgtSubsystemStartNext library advance subsystem called
      | .later => called.await (.start subsystem)

/--
The calls of `nvmf_tgt_subsystem_stop_next` on the subsystems that follow: a
subsystem that cannot be stopped is passed over.
-/
def stopFrom : List Nat → Target → Target
  | [], target => advance (target.moveTo .finiPollGroups)
  | subsystem :: rest, target =>
      let called := target.calling (.subsystemStop subsystem)
      match library.stop subsystem with
      | .refused => stopFrom rest called
      | .immediate => stopFrom rest called
      | .later => called.await (.stop subsystem)

/-- The callback of a stop goes on after the subsystem it is about. -/
def nvmfTgtSubsystemStopNext (subsystem : Nat) (target : Target) : Target :=
  stopFrom library advance
    (target.subsystems.filter (subsystem < ·)) target

/-- A first stop that is refused goes on as the callback would. -/
def nvmfTgtStopSubsystems (target : Target) : Target :=
  match target.subsystems with
  | [] => target.moveTo .finiPollGroups
  | subsystem :: _ =>
      let called := target.calling (.subsystemStop subsystem)
      match library.stop subsystem with
      | .refused =>
          nvmfTgtSubsystemStopNext library advance subsystem called
      | .immediate =>
          nvmfTgtSubsystemStopNext library advance subsystem called
      | .later => called.await (.stop subsystem)

/-- `nvmf_subsystem_init_done`, the callback of `spdk_subsystem_init`. -/
def nvmfSubsystemInitDone (target : Target) : Target :=
  let called := target.calling .rpcInitialize
  if library.rpcInitialize then
    advance (called.moveTo .initTarget)
  else
    called.calling .appStop

end Chains

/-- `SPDK_POLLER_REGISTER`; pollers are numbered as they are made. -/
def registerPoller (target : Target) : Target :=
  let poller := target.log.count .pollerRegister
  { target.calling .pollerRegister with
    migratePgPoller := some poller
    pollers := target.pollers ++ [poller] }

/-- `spdk_poller_unregister`, which does nothing for a null poller. -/
def unregisterPoller (target : Target) : Target :=
  { target.calling .pollerUnregister with
    migratePgPoller := none
    pollers :=
      match target.migratePgPoller with
      | none => target.pollers
      | some poller => target.pollers.erase poller }

/-- Every poll group leaves the list and its thread is told to destroy it. -/
def nvmfPollGroupsDestroy (target : Target) : Target :=
  { target with
    pollGroups := []
    groupQueue :=
      target.groupQueue ++
        target.pollGroups.map fun pg => (pg, .destroyPollGroup) }

/-- Without a target there is nothing to destroy. -/
def nvmfDestroyNvmfTgt (target : Target) : Target :=
  if target.tgt then
    (target.calling .tgtDestroy).await .tgtDestroy
  else
    target.moveTo .finiSubsystem

/-- The body of the loop in every state but the first. -/
def workOf (advance : Target → Target) (target : Target) : Target :=
  match target.targetState with
  | .initSubsystem => target
  | .initTarget => nvmfCreateNvmfTgt library target
  | .initPollGroups => nvmfPollGroupsCreate config target
  | .initStartSubsystems => nvmfTgtStartSubsystems library advance target
  | .running =>
      if config.migratePgPeriodUs ≠ 0 then registerPoller target else target
  | .finiStopSubsystems =>
      nvmfTgtStopSubsystems library advance (unregisterPoller target)
  | .finiPollGroups => nvmfPollGroupsDestroy target
  | .finiTarget => nvmfDestroyNvmfTgt target
  | .finiSubsystem =>
      (target.calling .subsystemFini).await .subsystemFini

/-- The first state returns; the loop goes on while the state changes. -/
def advanceOnce (advance : Target → Target) (target : Target) : Target :=
  if target.targetState = .initSubsystem then
    let called := target.calling .subsystemInit
    if library.initImmediate then
      nvmfSubsystemInitDone library advance called
    else
      called.await .subsystemInit
  else
    let worked := workOf config library advance target
    if worked.targetState = target.targetState then
      worked
    else
      advance worked

/-- The loop and its nested calls, to a given depth. -/
def advanceWithin : Nat → Target → Target
  | 0, target => target
  | depth + 1, target =>
      advanceOnce config library (advanceWithin depth) target

/--
`nvmf_target_advance_state`.  Every nested call and every further turn of the
loop is in a later state, so the number of states is depth enough.
-/
def nvmfTargetAdvanceState (target : Target) : Target :=
  advanceWithin config library 9 target

/-! ## Messages, callbacks and signals -/

/-- The first message of `g_init_thread`. -/
def nvmfTargetAppStart (target : Target) : Target :=
  nvmfTargetAdvanceState config library (target.moveTo .initSubsystem)

/-- The last poll group lets the subsystems start. -/
def nvmfTgtCreatePollGroupsDone (pg : Nat) (target : Target) : Target :=
  let inserted :=
    { target with
      pollGroups := target.pollGroups ++ [pg]
      numPollGroups := (target.numPollGroups + 1) % 2 ^ 32 }
  if inserted.numPollGroups = config.cores.length then
    nvmfTargetAdvanceState config library
      (inserted.moveTo .initStartSubsystems)
  else
    inserted

/-- The decrement of a `uint32_t`. -/
def decremented (count : Nat) : Nat :=
  if count = 0 then 2 ^ 32 - 1 else count - 1

/-- `_nvmf_tgt_destroy_poll_groups_done`, on the thread that shuts down. -/
def nvmfTgtDestroyPollGroupsDone (target : Target) : Target :=
  let removed :=
    { target with numPollGroups := decremented target.numPollGroups }
  if removed.numPollGroups = 0 then
    nvmfTargetAdvanceState config library (removed.moveTo .finiTarget)
  else
    removed

/-- `_nvmf_shutdown_cb`, which sends itself again during initialisation. -/
def nvmfShutdown (target : Target) : Target :=
  if target.targetState.rank < TargetState.running.rank then
    if library.resend then
      { target with initQueue := target.initQueue ++ [.shutdownCb] }
    else
      { target with lost := target.lost + 1 }
  else if TargetState.running.rank < target.targetState.rank then
    target
  else
    nvmfTargetAdvanceState config library
      (target.moveTo .finiStopSubsystems)

/-- The signal handler `nvmf_shutdown_cb` tests the flag. -/
def nvmfShutdownCb (target : Target) : Target :=
  if target.intrReceived then
    target
  else
    { target with tested := target.tested + 1 }

/-- A signal handler that has found the flag down sets it. -/
def nvmfShutdownCbSet (target : Target) : Target :=
  { target with
    intrReceived := true
    tested := target.tested - 1
    raised := target.raised + 1
    requests := target.requests + 1 }

/-- A signal handler that has set the flag sends the request, or cannot. -/
def nvmfShutdownCbSend (sent : Bool) (target : Target) : Target :=
  let sending := { target with raised := target.raised - 1 }
  if sent then
    { sending with initQueue := target.initQueue ++ [.shutdownCb] }
  else
    { sending with lost := target.lost + 1 }

/-- `g_init_thread` runs a message. -/
def runInitMessage (target : Target) : InitMessage → Target
  | .appStart => nvmfTargetAppStart config library target
  | .createPollGroupsDone pg =>
      nvmfTgtCreatePollGroupsDone config library pg target
  | .destroyPollGroupsDone =>
      nvmfTgtDestroyPollGroupsDone config library target
  | .shutdownCb => nvmfShutdown config library target

/-- `nvmf_tgt_create_poll_group`, on the thread of the poll group. -/
def nvmfTgtCreatePollGroup (pg : Nat) (target : Target) : Target :=
  let called := target.calling (.pollGroupCreate pg)
  if library.pollGroupCreate then
    { called with
      initQueue := called.initQueue ++ [.createPollGroupsDone pg] }
  else
    { called with failed := called.failed ++ [pg] }

/-- The thread of a poll group asks the library to destroy it. -/
def nvmfTgtDestroyPollGroup (pg : Nat) (target : Target) : Target :=
  (target.calling (.pollGroupDestroy pg)).await (.pollGroupDestroy pg)

/-- `migrate_poll_group_by_rr` changes the core of its thread only. -/
def runGroupMessage (pg : Nat) (target : Target) : GroupMessage → Target
  | .createPollGroup => nvmfTgtCreatePollGroup library pg target
  | .destroyPollGroup => nvmfTgtDestroyPollGroup pg target
  | .migrate => target

/--
`nvmf_tgt_destroy_poll_groups_done`, on the thread of the poll group: the
message is sent before the thread exits.
-/
def pollGroupDestroyed (pg : Nat) (target : Target) : Target :=
  { target with
    initQueue := target.initQueue ++ [.destroyPollGroupsDone]
    exiting := target.exiting ++ [pg] }

/-- The call of `spdk_thread_exit` behind it. -/
def threadExit (pg : Nat) (target : Target) : Target :=
  { target with
    exiting := target.exiting.erase pg
    exited := target.exited ++ [pg] }

/-- `nvmf_tgt_destroy_done`, which leaves the library to be taken down. -/
def nvmfTgtDestroyDone (target : Target) : Target :=
  nvmfTargetAdvanceState config library (target.moveTo .finiSubsystem)

/-- With the library gone the reactors may return. -/
def nvmfSubsystemFiniDone (target : Target) : Target :=
  { target.calling .rpcFinish with reactorsExit := true }

/-- The callback of a call in flight. -/
def runCallback (target : Target) : Pending → Target
  | .subsystemInit =>
      nvmfSubsystemInitDone library
        (nvmfTargetAdvanceState config library) target
  | .start subsystem =>
      nvmfTgtSubsystemStartNext library
        (nvmfTargetAdvanceState config library) subsystem target
  | .stop subsystem =>
      nvmfTgtSubsystemStopNext library
        (nvmfTargetAdvanceState config library) subsystem target
  | .pollGroupDestroy pg => pollGroupDestroyed pg target
  | .tgtDestroy => nvmfTgtDestroyDone config library target
  | .subsystemFini => nvmfSubsystemFiniDone target

/-- `migrate_poll_groups_by_rr`. -/
def migratePollGroupsByRr (target : Target) : Target :=
  { target with
    groupQueue :=
      target.groupQueue ++ target.pollGroups.map fun pg => (pg, .migrate) }

/-! ## Runs -/

/-- What happens next. -/
inductive Event where
  /-- A signal comes, and its handler tests the flag. -/
  | signal
  /-- A handler that has found the flag down sets it. -/
  | signalSet
  /-- A handler that has set the flag sends the request, or cannot. -/
  | signalSend (sent : Bool)
  | initMessage (library : Library)
  | groupMessage (pg : Nat) (message : GroupMessage) (library : Library)
  | callback (call : Pending) (library : Library)
  /-- A thread that has told of its poll group's end exits. -/
  | threadExit (pg : Nat)
  | poll (poller : Nat)
  /-- A remote call gives the target a subsystem. -/
  | createSubsystem (subsystem : Nat)

/-- The oldest message for a thread. -/
def nextGroupMessage (queue : List (Nat × GroupMessage)) (pg : Nat) :
    Option GroupMessage :=
  (queue.find? fun entry => entry.1 = pg).map Prod.snd

/--
One event.  A thread that is about to exit is inside the callback that ends
in `spdk_thread_exit` and runs no message in between.
-/
def step (target : Target) : Event → Option Target
  | .signal => some (nvmfShutdownCb target)
  | .signalSet =>
      if 0 < target.tested then some (nvmfShutdownCbSet target) else none
  | .signalSend sent =>
      if 0 < target.raised then
        some (nvmfShutdownCbSend sent target)
      else
        none
  | .initMessage library =>
      match target.initQueue with
      | [] => none
      | message :: rest =>
          some (runInitMessage config library
            { target with initQueue := rest } message)
  | .groupMessage pg message library =>
      if nextGroupMessage target.groupQueue pg = some message ∧
          pg ∉ target.exiting then
        some (runGroupMessage library pg
          { target with
            groupQueue := target.groupQueue.erase (pg, message) } message)
      else
        none
  | .callback call library =>
      if call ∈ target.pending then
        some (runCallback config library
          { target with pending := target.pending.erase call } call)
      else
        none
  | .threadExit pg =>
      if pg ∈ target.exiting then some (threadExit pg target) else none
  | .poll poller =>
      if poller ∈ target.pollers then
        some (migratePollGroupsByRr target)
      else
        none
  | .createSubsystem subsystem =>
      if target.tgt ∧ subsystem ∉ target.subsystems then
        some
          { target with
            subsystems := target.subsystems.orderedInsert (· ≤ ·) subsystem }
      else
        none

/-- The library calls of an event. -/
def Event.library? : Event → Option Library
  | .initMessage library => some library
  | .groupMessage _ _ library => some library
  | .callback _ library => some library
  | _ => none

/--
The first subsystem to be started is the discovery subsystem, which the
program has just made: it is not active yet, and its start calls back later.
The other subsystems may have been started by the remote calls that made
them, and then the library calls back at once.
-/
def FirstStartsLater (target : Target) (event : Event) : Prop :=
  ∀ library, event = .initMessage library →
    ∀ subsystem ∈ target.subsystems.head?,
      library.start subsystem ≠ .immediate

/-- The states reached when the first start calls back later. -/
def Reachable (target : Target) : Prop :=
  Run (step config) FirstStartsLater initial target

end ZnsBench.Nvmf.TargetLifecycle

import Mathlib.Algebra.Order.Group.Nat
import Mathlib.Data.List.Basic
import Mathlib.Logic.Function.Basic
import ZnsBench.Core.GuardedRun

/-!
# The reactors and their lightweight threads

`nvmf.cc` runs one reactor on each core.  A reactor takes the oldest thread
of its ring, polls it, and puts it back, gives it to another reactor, or
destroys it.  Once `g_reactors_exit` is set it goes through its ring until
every thread in it has exited.

The reactors run in parallel.  A ring is only read by its reactor and a
thread that has been taken from a ring is only touched by the reactor that
took it, so a step here is one statement of `nvmf_reactor_run` between two
accesses to what reactors share.  While a thread is polled its own code may
run: it may ask for other cores, make threads, or exit.
-/

namespace ZnsBench.Nvmf.ReactorScheduler

open ZnsBench.Core.GuardedRun

/-- The cores the application runs on, and its own among them. -/
structure Machine where
  /-- The cores of `SPDK_ENV_FOREACH_CORE`, by increasing number. -/
  cores : List Nat
  /-- The position of the core `main` runs on. -/
  main : Nat
  main_lt : main < cores.length
  cores_sorted : cores.Pairwise (· < ·)

/-- What a lightweight thread is to its reactor. -/
structure LwThread where
  /-- The cores set in its mask. -/
  cpumask : List Nat
  resched : Bool
  /-- `spdk_thread_is_exited`. -/
  exited : Bool
  /-- `spdk_thread_is_idle`. -/
  idle : Bool
  deriving DecidableEq, Repr

/-- Where a reactor is in `nvmf_reactor_run`. -/
inductive Place where
  /-- At the head of the first loop. -/
  | top
  | polling (thread : Nat)
  /-- At the test of `g_reactors_exit`. -/
  | test
  /-- At the head of the second loop. -/
  | drain
  | draining (thread : Nat)
  | returned
  deriving DecidableEq, Repr

/-- `struct nvmf_reactor`, with where its thread is in its loop. -/
structure Reactor where
  core : Nat
  /-- The ring of threads, the oldest first. -/
  threads : List Nat
  place : Place
  deriving DecidableEq, Repr

/-- The reactors with the threads they run. -/
structure Scheduler where
  /-- `g_reactors`. -/
  reactors : List Reactor
  /-- The position of `g_next_reactor`, none for a null pointer. -/
  nextReactor : Option Nat
  reactorsExit : Bool
  /-- Threads are numbered as they are made. -/
  created : Nat
  lwThread : Nat → LwThread
  /-- Threads given to `spdk_thread_destroy`. -/
  destroyed : List Nat
  /-- Threads that could not be scheduled when they were made. -/
  refused : List Nat
  /-- Threads that are in no ring though they have not been destroyed. -/
  lost : List Nat
  /-- The threads scheduled so far with the position of their reactor. -/
  placements : List (Nat × Nat)

/-- After the loop of `nvmf_init_threads`. -/
def booted (machine : Machine) : Scheduler where
  reactors := machine.cores.map fun core => ⟨core, [], .top⟩
  nextReactor := some machine.main
  reactorsExit := false
  created := 0
  lwThread := fun _ => ⟨[], false, false, false⟩
  destroyed := []
  refused := []
  lost := []
  placements := []

/-! ## Scheduling -/

/-- A ring made for 1024 elements holds one less. -/
def ringSize : Nat := 1023

/--
`spdk_ring_enqueue` of one thread.  Its result is not looked at, so a thread
that does not fit is in no ring.
-/
def enqueue (position thread : Nat) (scheduler : Scheduler) : Scheduler :=
  match scheduler.reactors[position]? with
  | none => scheduler
  | some reactor =>
      if reactor.threads.length < ringSize then
        { scheduler with
          reactors :=
            scheduler.reactors.set position
              { reactor with threads := reactor.threads ++ [thread] } }
      else
        { scheduler with lost := scheduler.lost ++ [thread] }

/-- `TAILQ_NEXT` for the reactor at a position. -/
def following (reactors : List Reactor) (position : Nat) : Option Nat :=
  if position + 1 < reactors.length then some (position + 1) else none

/--
The loop of `nvmf_schedule_spdk_thread`, with the turns left: the reactor it
finds and the new `g_next_reactor`.
-/
def findReactor (reactors : List Reactor) (cpumask : List Nat) :
    Nat → Option Nat → Option Nat × Option Nat
  | 0, next => (none, next)
  | left + 1, next =>
      let position := next.getD 0
      let after := following reactors position
      match reactors[position]? with
      | none => (none, after)
      | some reactor =>
          if reactor.core ∈ cpumask then
            (some position, after)
          else
            findReactor reactors cpumask left after

/-- The new value of a thread's own memory. -/
def setThread (thread : Nat) (value : LwThread) (scheduler : Scheduler) :
    Scheduler :=
  { scheduler with
    lwThread := Function.update scheduler.lwThread thread value }

/-- `nvmf_schedule_spdk_thread` and whether it returns zero. -/
def nvmfScheduleSpdkThread (thread : Nat) (scheduler : Scheduler) :
    Scheduler × Bool :=
  let lwThread := scheduler.lwThread thread
  let cleared := setThread thread { lwThread with resched := false } scheduler
  let found :=
    findReactor scheduler.reactors lwThread.cpumask
      scheduler.reactors.length scheduler.nextReactor
  let moved := { cleared with nextReactor := found.2 }
  match found.1 with
  | none => (moved, false)
  | some position =>
      (enqueue position thread
        { moved with
          placements := moved.placements ++ [(thread, position)] }, true)

/-- `nvmf_request_spdk_thread_reschedule` -/
def nvmfRequestSpdkThreadReschedule (thread : Nat) (scheduler : Scheduler) :
    Scheduler :=
  setThread thread { scheduler.lwThread thread with resched := true }
    scheduler

/-- The operations of `enum spdk_thread_op` that are supported. -/
inductive ThreadOp where
  | new
  | resched
  deriving DecidableEq, Repr

/-- `nvmf_reactor_thread_op` -/
def nvmfReactorThreadOp (thread : Nat) (scheduler : Scheduler) :
    ThreadOp → Scheduler × Bool
  | .new => nvmfScheduleSpdkThread thread scheduler
  | .resched => (nvmfRequestSpdkThreadReschedule thread scheduler, true)

/-- `spdk_thread_create`, which gives up a thread that is not scheduled. -/
def spdkThreadCreate (cpumask : List Nat) (scheduler : Scheduler) :
    Scheduler :=
  let thread := scheduler.created
  let made :=
    setThread thread ⟨cpumask, false, false, false⟩
      { scheduler with created := scheduler.created + 1 }
  match nvmfReactorThreadOp thread made .new with
  | (placed, true) => placed
  | (missed, false) => { missed with refused := missed.refused ++ [thread] }

/-- `spdk_thread_set_cpumask`, called by the thread itself. -/
def spdkThreadSetCpumask (thread : Nat) (cpumask : List Nat)
    (scheduler : Scheduler) : Scheduler :=
  (nvmfReactorThreadOp thread
    (setThread thread { scheduler.lwThread thread with cpumask := cpumask }
      scheduler) .resched).1

/-! ## Reactors -/

/-- A reactor at its position. -/
def setReactor (position : Nat) (reactor : Reactor) (scheduler : Scheduler) :
    Scheduler :=
  { scheduler with reactors := scheduler.reactors.set position reactor }

/-- After a thread has been polled in the first loop. -/
def afterPoll (position thread : Nat) (scheduler : Scheduler) : Scheduler :=
  let lwThread := scheduler.lwThread thread
  if lwThread.exited && lwThread.idle then
    { scheduler with destroyed := scheduler.destroyed ++ [thread] }
  else if lwThread.resched then
    match nvmfScheduleSpdkThread thread
        (setThread thread { lwThread with resched := false } scheduler) with
    | (placed, true) => placed
    | (missed, false) => { missed with lost := missed.lost ++ [thread] }
  else
    enqueue position thread scheduler

/-- The next statement of the reactor at a position. -/
def nvmfReactorRun (position : Nat) (scheduler : Scheduler) :
    Option Scheduler := do
  let reactor ← scheduler.reactors[position]?
  match reactor.place with
  | .top =>
      match reactor.threads with
      | [] =>
          some (setReactor position { reactor with place := .test } scheduler)
      | thread :: rest =>
          some (setReactor position
            { reactor with threads := rest, place := .polling thread }
            scheduler)
  | .polling thread =>
      some (afterPoll position thread
        (setReactor position { reactor with place := .test } scheduler))
  | .test =>
      some (setReactor position
        { reactor with
          place := if scheduler.reactorsExit then .drain else .top }
        scheduler)
  | .drain =>
      match reactor.threads with
      | [] =>
          some (setReactor position
            { reactor with place := .returned } scheduler)
      | thread :: rest =>
          if (scheduler.lwThread thread).exited then
            some
              { setReactor position { reactor with threads := rest }
                  scheduler with
                destroyed := scheduler.destroyed ++ [thread] }
          else
            -- `spdk_thread_exit` and the poll that follows it
            some (setReactor position
              { reactor with threads := rest, place := .draining thread }
              scheduler)
  | .draining thread =>
      some (enqueue position thread
        (setReactor position { reactor with place := .drain } scheduler))
  | .returned => none

/-- The thread a reactor has taken from its ring. -/
def Place.holding : Place → Option Nat
  | .polling thread => some thread
  | .draining thread => some thread
  | _ => none

/-- The thread whose code runs on a reactor. -/
def runningOn (position : Nat) (scheduler : Scheduler) : Option Nat :=
  scheduler.reactors[position]?.bind fun reactor => reactor.place.holding

/--
The core that `migrate_poll_group_by_rr` asks for: the next one, and the
first one after the last.
-/
def migrationCore (reactors : List Reactor) (position : Nat) : Option Nat :=
  (reactors[(following reactors position).getD 0]?).map Reactor.core

/-- `migrate_poll_group_by_rr`, run by a thread on the given reactor. -/
def migratePollGroupByRr (position thread : Nat) (scheduler : Scheduler) :
    Scheduler :=
  spdkThreadSetCpumask thread
    (migrationCore scheduler.reactors position).toList scheduler

/-! ## Runs -/

/-- What can happen next, on any core. -/
inductive Event where
  | reactor (position : Nat)
  /-- A thread is made, by one that runs or by `nvmf_init_threads`. -/
  | create (cpumask : List Nat)
  /-- The thread that runs on a reactor sets its mask. -/
  | setCpumask (position : Nat) (cpumask : List Nat)
  /-- The thread that runs on a reactor migrates. -/
  | migrate (position : Nat)
  /-- The thread that runs on a reactor has exited, or is idle or not. -/
  | settle (position : Nat) (exited idle : Bool)
  /-- `nvmf_subsystem_fini_done` sets `g_reactors_exit`. -/
  | exit
  deriving DecidableEq, Repr

/-- The transitions of the reactors and of the threads on them. -/
def step (scheduler : Scheduler) : Event → Option Scheduler
  | .reactor position => nvmfReactorRun position scheduler
  | .create cpumask => some (spdkThreadCreate cpumask scheduler)
  | .setCpumask position cpumask =>
      (runningOn position scheduler).map fun thread =>
        spdkThreadSetCpumask thread cpumask scheduler
  | .migrate position =>
      (runningOn position scheduler).map fun thread =>
        migratePollGroupByRr position thread scheduler
  | .settle position exited idle =>
      (runningOn position scheduler).map fun thread =>
        setThread thread
          { scheduler.lwThread thread with exited := exited, idle := idle }
          scheduler
  | .exit => some { scheduler with reactorsExit := true }

/-- The states reached under an assumption about the events. -/
def Reaches (machine : Machine) (allowed : Scheduler → Event → Prop)
    (scheduler : Scheduler) : Prop :=
  Run step allowed (booted machine) scheduler

end ZnsBench.Nvmf.ReactorScheduler

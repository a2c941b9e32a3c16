import Mathlib.Data.List.Rotate
import ZnsBench.Core.RoundRobin
import ZnsBench.Nvmf.ReactorConservation

/-!
# Going round the reactors

`nvmf_schedule_spdk_thread` goes round the reactors with `g_next_reactor`, so
threads that may run on any core, as those of a library may, are dealt out
evenly while no other thread is scheduled.  The poll groups, each
bound to one core, are moved round the cores by `migrate_poll_group_by_rr`.
-/

namespace ZnsBench.Nvmf.ReactorScheduler

open ZnsBench.Core.GuardedRun ZnsBench.Core.RoundRobin

variable {machine : Machine} {scheduler next : Scheduler} {event : Event}

/-! ## Threads that may run anywhere -/

/--
Every thread may run on every core.  The threads that the program makes for
itself are not of this kind: `g_init_thread` and the threads of the poll
groups are each bound to one core.
-/
def Anywhere (machine : Machine) (_ : Scheduler) : Event → Prop
  | .create cpumask => machine.cores ⊆ cpumask
  | .setCpumask _ cpumask => machine.cores ⊆ cpumask
  | .migrate _ => False
  | _ => True

instance (machine : Machine) (scheduler : Scheduler) :
    DecidablePred (Anywhere machine scheduler)
  | .create cpumask =>
      inferInstanceAs (Decidable (machine.cores ⊆ cpumask))
  | .setCpumask _ cpumask =>
      inferInstanceAs (Decidable (machine.cores ⊆ cpumask))
  | .migrate _ => isFalse not_false
  | .reactor _ => isTrue True.intro
  | .settle _ _ _ => isTrue True.intro
  | .exit => isTrue True.intro

/-- The reactors in the order of their turns. -/
def turnsFrom (machine : Machine) : List Nat :=
  (List.range machine.cores.length).rotate machine.main

theorem turnsFrom_getElem?
    (machine : Machine) (turn : Nat) :
    (turnsFrom machine)[turn % (turnsFrom machine).length]? =
      some ((machine.main + turn) % machine.cores.length) := by
  have positive : 0 < machine.cores.length :=
    Nat.zero_lt_of_lt machine.main_lt
  have length : (turnsFrom machine).length = machine.cores.length := by
    rw [turnsFrom, List.length_rotate, List.length_range]
  have inside : turn % machine.cores.length < machine.cores.length :=
    Nat.mod_lt _ positive
  rw [length, turnsFrom, List.getElem?_rotate (by simpa using inside),
    List.length_range, List.getElem?_range (Nat.mod_lt _ positive),
    Nat.mod_add_mod, Nat.add_comm]

/-- The threads have been dealt out in turn. -/
structure Dealt (machine : Machine) (scheduler : Scheduler) : Prop where
  masks :
    ∀ thread < scheduler.created,
      machine.cores ⊆ (scheduler.lwThread thread).cpumask
  aimed :
    scheduler.nextReactor.getD 0 =
      (machine.main + scheduler.placements.length) % machine.cores.length
  dealt :
    DealtFrom (turnsFrom machine) (scheduler.placements.map Prod.snd)

theorem dealt_booted (machine : Machine) :
    Dealt machine (booted machine) where
  masks := fun thread before => absurd before (Nat.not_lt_zero thread)
  aimed := (Nat.mod_eq_of_lt machine.main_lt).symm
  dealt := dealtFrom_nil _

/-- A thread that may run anywhere gets the next reactor. -/
theorem Aligned.reactorFor_of_anywhere
    (aligned : Aligned machine scheduler) {thread : Nat}
    {chosen after : Option Nat}
    (anywhere : machine.cores ⊆ (scheduler.lwThread thread).cpumask)
    (found :
      ReactorScheduler.reactorFor thread scheduler = (chosen, after)) :
    chosen = some (scheduler.nextReactor.getD 0) ∧
      after.getD 0 =
        (scheduler.nextReactor.getD 0 + 1) % machine.cores.length := by
  have inside := aligned.aimed
  rw [← aligned.length_eq] at inside ⊢
  have here := List.getElem?_eq_getElem inside
  have core :
      scheduler.reactors[scheduler.nextReactor.getD 0].core ∈
        (scheduler.lwThread thread).cpumask := by
    refine anywhere ?_
    rw [← aligned.cores]
    exact List.mem_map_of_mem (List.getElem_mem inside)
  have turns :
      scheduler.reactors.length = scheduler.reactors.length - 1 + 1 := by
    omega
  rw [ReactorScheduler.reactorFor, turns, findReactor] at found
  simp only [here, if_pos core] at found
  cases found
  exact ⟨rfl, following_getD inside⟩

theorem Dealt.congr
    (dealt : Dealt machine scheduler) (same : SameRecords scheduler next) :
    Dealt machine next where
  masks := by
    rw [same.created, same.lwThread]
    exact dealt.masks
  aimed := by rw [same.nextReactor, same.placements, dealt.aimed]
  dealt := by
    rw [same.placements]
    exact dealt.dealt

theorem Dealt.placing
    (dealt : Dealt machine scheduler) (aligned : Aligned machine scheduler)
    {thread target : Nat} {after : Option Nat}
    (known : thread < scheduler.created)
    (found : reactorFor thread scheduler = (some target, after)) :
    Dealt machine (placing thread target after scheduler) := by
  rcases aligned.reactorFor_of_anywhere (dealt.masks thread known) found
    with ⟨chosen, follows⟩
  have position :
      target =
        (machine.main + scheduler.placements.length) %
          machine.cores.length := by
    rw [← dealt.aimed]
    exact Option.some.inj chosen
  refine Dealt.congr ?_ (sameRecords_enqueue target thread _)
  refine ⟨?_, ?_, ?_⟩
  · intro other before
    have same :=
      cpumask_setThread
        (show ({ scheduler.lwThread thread with resched := false } :
          LwThread).cpumask = (scheduler.lwThread thread).cpumask from rfl)
        other
    exact same ▸ dealt.masks other before
  · change after.getD 0 = _
    rw [follows, dealt.aimed, Nat.mod_add_mod]
    simp only [List.length_append, List.length_singleton, Nat.add_assoc]
  · simp only [List.map_append, List.map_cons, List.map_nil]
    refine dealt.dealt.append_singleton ?_
    rw [List.length_map, position]
    exact turnsFrom_getElem? machine _

theorem Dealt.making
    (dealt : Dealt machine scheduler) {cpumask : List Nat}
    (anywhere : machine.cores ⊆ cpumask) :
    Dealt machine (making cpumask scheduler) where
  masks := by
    intro thread before
    by_cases new : thread = scheduler.created
    · simp only [ReactorScheduler.making, setThread, new,
        Function.update_self]
      exact anywhere
    · simp only [ReactorScheduler.making, setThread,
        Function.update_of_ne new]
      refine dealt.masks thread ?_
      have bound : thread < scheduler.created + 1 := before
      omega
  aimed := dealt.aimed
  dealt := dealt.dealt

/-- A thread writes a mask with every core. -/
theorem Dealt.setThread
    (dealt : Dealt machine scheduler) {thread : Nat} {value : LwThread}
    (anywhere :
      thread < scheduler.created → machine.cores ⊆ value.cpumask) :
    Dealt machine (setThread thread value scheduler) where
  masks := by
    intro other before
    by_cases same : other = thread
    · simp only [ReactorScheduler.setThread, same, Function.update_self]
      exact anywhere (same ▸ before)
    · simp only [ReactorScheduler.setThread, Function.update_of_ne same]
      exact dealt.masks other before
  aimed := dealt.aimed
  dealt := dealt.dealt

theorem dealt_of_turn
    (placed : Placed scheduler) (aligned : Aligned machine scheduler)
    (dealt : Dealt machine scheduler)
    (anywhere : Anywhere machine scheduler event)
    (turn : Turn scheduler event next) :
    Dealt machine next := by
  cases turn with
  | passed => exact dealt.congr ⟨rfl, rfl, rfl, rfl⟩
  | took => exact dealt.congr ⟨rfl, rfl, rfl, rfl⟩
  | freed => exact dealt.congr ⟨rfl, rfl, rfl, rfl⟩
  | moved here polls asked found =>
      have holds := (congrArg Place.holding polls).trans rfl
      refine Dealt.placing ?_ (aligned.passing here .test)
        (placed.known here holds) found
      exact dealt.congr ⟨rfl, rfl, rfl, rfl⟩
  | mislaid here polls asked found =>
      have holds := (congrArg Place.holding polls).trans rfl
      have all := dealt.masks _ (placed.known here holds)
      have chosen :=
        ((aligned.passing here .test).reactorFor_of_anywhere all found).1
      cases chosen
  | kept here =>
      refine Dealt.congr ?_ (sameRecords_enqueue _ _ _)
      exact dealt.congr ⟨rfl, rfl, rfl, rfl⟩
  | freedLate => exact dealt.congr ⟨rfl, rfl, rfl, rfl⟩
  | keptLate here =>
      refine Dealt.congr ?_ (sameRecords_enqueue _ _ _)
      exact dealt.congr ⟨rfl, rfl, rfl, rfl⟩
  | @made _ _ cpumask found =>
      have grown : Aligned machine (making cpumask scheduler) :=
        aligned.congr rfl aligned.aimed
      exact (dealt.making anywhere).placing grown (Nat.lt_succ_self _) found
  | @refused _ cpumask found =>
      have grown : Aligned machine (making cpumask scheduler) :=
        aligned.congr rfl aligned.aimed
      have all := (dealt.making anywhere).masks _ (Nat.lt_succ_self _)
      have chosen := (grown.reactorFor_of_anywhere all found).1
      cases chosen
  | masked runs cause =>
      rcases cause with rfl | ⟨rfl, _⟩
      · exact dealt.setThread fun _ => anywhere
      · exact anywhere.elim
  | settled runs =>
      exact dealt.setThread fun before => dealt.masks _ before
  | told => exact dealt.congr ⟨rfl, rfl, rfl, rfl⟩

end ZnsBench.Nvmf.ReactorScheduler

import ZnsBench.Core.Exchange
import ZnsBench.Nvmf.ReactorTurns

/-!
# Where the lightweight threads are

Reactors pass threads to each other through their rings.  However their steps
are interleaved, a thread is in one place: in one ring, with one reactor,
destroyed, refused, or lost.  It is lost only when no core of its mask has a
reactor or when a ring is full.
-/

namespace ZnsBench.Nvmf.ReactorScheduler

open ZnsBench.Core.GuardedRun ZnsBench.Core.Exchange

variable {machine : Machine} {scheduler next : Scheduler} {event : Event}

/-- The threads a reactor has, in its ring and in its hands. -/
def Reactor.holds (reactor : Reactor) : List Nat :=
  reactor.threads ++ reactor.place.holding.toList

/-- The threads that some reactor has. -/
def held (scheduler : Scheduler) : List Nat :=
  scheduler.reactors.flatMap Reactor.holds

/-- All threads, wherever they are. -/
def everywhere (scheduler : Scheduler) : List Nat :=
  held scheduler ++ scheduler.destroyed ++ scheduler.refused ++
    scheduler.lost

/-- Every thread made so far is in exactly one place. -/
def Placed (scheduler : Scheduler) : Prop :=
  ∀ thread,
    (everywhere scheduler).count thread =
      if thread < scheduler.created then 1 else 0

/-! ## Counting -/

@[simp]
theorem count_everywhere (scheduler : Scheduler) (thread : Nat) :
    (everywhere scheduler).count thread =
      (held scheduler).count thread + scheduler.destroyed.count thread +
        scheduler.refused.count thread + scheduler.lost.count thread := by
  simp only [everywhere, List.count_append]

@[simp]
theorem setReactor_destroyed
    (position : Nat) (new : Reactor) (scheduler : Scheduler) :
    (setReactor position new scheduler).destroyed =
      scheduler.destroyed := rfl

@[simp]
theorem setReactor_refused
    (position : Nat) (new : Reactor) (scheduler : Scheduler) :
    (setReactor position new scheduler).refused = scheduler.refused := rfl

@[simp]
theorem setReactor_lost
    (position : Nat) (new : Reactor) (scheduler : Scheduler) :
    (setReactor position new scheduler).lost = scheduler.lost := rfl

/-- The new reactor's threads come for the old one's. -/
theorem count_everywhere_setReactor
    {position : Nat} {old : Reactor}
    (here : scheduler.reactors[position]? = some old) (new : Reactor)
    (thread : Nat) :
    (everywhere (setReactor position new scheduler)).count thread +
        old.holds.count thread =
      (everywhere scheduler).count thread + new.holds.count thread := by
  have exchanged := count_flatMap_set here Reactor.holds new thread
  rw [count_everywhere, count_everywhere]
  simp only [held, setReactor_destroyed, setReactor_refused,
    setReactor_lost]
  simp only [setReactor]
  omega

@[simp]
theorem count_holds (reactor : Reactor) (thread : Nat) :
    reactor.holds.count thread =
      reactor.threads.count thread +
        reactor.place.holding.toList.count thread :=
  List.count_append

theorem count_concat (threads : List Nat) (thread other : Nat) :
    (threads ++ [thread]).count other =
      threads.count other + if thread = other then 1 else 0 := by
  rw [List.count_append, List.count_singleton]
  simp only [beq_iff_eq]

/-- One thread more is somewhere. -/
structure Joins (thread : Nat) (scheduler next : Scheduler) : Prop where
  count :
    ∀ other,
      (everywhere next).count other =
        (everywhere scheduler).count other +
          if thread = other then 1 else 0
  created : next.created = scheduler.created

theorem joins_destroyed (thread : Nat) (scheduler : Scheduler) :
    Joins thread scheduler
      { scheduler with destroyed := scheduler.destroyed ++ [thread] } := by
  refine ⟨fun other => ?_, rfl⟩
  rw [count_everywhere, count_everywhere, count_concat]
  simp only [held]
  omega

theorem joins_refused (thread : Nat) (scheduler : Scheduler) :
    Joins thread scheduler
      { scheduler with refused := scheduler.refused ++ [thread] } := by
  refine ⟨fun other => ?_, rfl⟩
  rw [count_everywhere, count_everywhere, count_concat]
  simp only [held]
  omega

theorem joins_lost (thread : Nat) (scheduler : Scheduler) :
    Joins thread scheduler
      { scheduler with lost := scheduler.lost ++ [thread] } := by
  refine ⟨fun other => ?_, rfl⟩
  rw [count_everywhere, count_everywhere, count_concat]
  simp only [held]
  omega

/-- A thread that is put into a ring is there, or it is lost. -/
theorem joins_enqueue
    {position : Nat} (inside : position < scheduler.reactors.length)
    (thread : Nat) :
    Joins thread scheduler (enqueue position thread scheduler) := by
  have here := List.getElem?_eq_getElem inside
  generalize scheduler.reactors[position] = reactor at here
  rw [enqueue, here]
  simp only
  split
  · refine ⟨fun other => ?_, rfl⟩
    have exchanged :=
      count_everywhere_setReactor here
        { reactor with threads := reactor.threads ++ [thread] } other
    rw [count_holds, count_holds, count_concat] at exchanged
    dsimp only at exchanged
    change
      (everywhere (setReactor position _ scheduler)).count other = _
    omega
  · exact joins_lost thread scheduler

/-- What is in a thread's memory does not matter. -/
theorem Joins.congr
    {thread : Nat} {base : Scheduler}
    (joins : Joins thread base next)
    (same : everywhere base = everywhere scheduler)
    (created : base.created = scheduler.created) :
    Joins thread scheduler next where
  count := fun other => by rw [joins.count, same]
  created := joins.created.trans created

theorem joins_placing
    {thread target : Nat} {after : Option Nat}
    (found : reactorFor thread scheduler = (some target, after)) :
    Joins thread scheduler (placing thread target after scheduler) := by
  rcases (findReactor_some found).1 with ⟨reactor, here, _⟩
  refine Joins.congr (joins_enqueue ?_ thread) rfl rfl
  exact (List.getElem?_eq_some_iff.mp here).1

/-- A reactor that lets its thread go. -/
theorem count_everywhere_passing
    {position : Nat} {reactor : Reactor}
    (here : scheduler.reactors[position]? = some reactor)
    {place : Place} (after : place.holding = none) (other : Nat) :
    (everywhere (passing position reactor place scheduler)).count other +
        reactor.place.holding.toList.count other =
      (everywhere scheduler).count other := by
  have exchanged :=
    count_everywhere_setReactor here { reactor with place := place } other
  rw [count_holds, count_holds, after] at exchanged
  rw [passing]
  simp only [Option.toList_none, List.count_nil, Nat.add_zero] at exchanged
  omega

theorem count_holding
    {reactor : Reactor} {thread : Nat}
    (holds : reactor.place.holding = some thread) (other : Nat) :
    reactor.place.holding.toList.count other =
      if thread = other then 1 else 0 := by
  rw [holds, Option.toList_some, List.count_singleton]
  simp only [beq_iff_eq]

theorem inside_passing
    {position : Nat} {reactor : Reactor}
    (here : scheduler.reactors[position]? = some reactor)
    (place : Place) :
    position < (passing position reactor place scheduler).reactors.length := by
  rw [passing, setReactor, List.length_set]
  exact (List.getElem?_eq_some_iff.mp here).1

/-- A thread goes from the hands of a reactor to some other place. -/
theorem Joins.placed
    {position thread : Nat} {reactor : Reactor} {place : Place}
    (joins : Joins thread (passing position reactor place scheduler) next)
    (placed : Placed scheduler)
    (here : scheduler.reactors[position]? = some reactor)
    (holds : reactor.place.holding = some thread)
    (after : place.holding = none) :
    Placed next := by
  intro other
  have counted := count_everywhere_passing here after other
  rw [count_holding holds, placed other] at counted
  rw [joins.count, joins.created, counted]
  rfl

/-- A new thread comes to some place. -/
theorem Joins.placed_making
    {cpumask : List Nat}
    (joins : Joins scheduler.created (making cpumask scheduler) next)
    (placed : Placed scheduler) :
    Placed next := by
  intro other
  have before : (everywhere (making cpumask scheduler)).count other = _ :=
    placed other
  have created : next.created = scheduler.created + 1 := joins.created
  rw [joins.count, before, created]
  split <;> split <;> split <;> omega

/-! ## Apart from each other -/

/-- A thread in the hands of one reactor is nowhere else. -/
theorem Placed.elsewhere
    (placed : Placed scheduler)
    {position thread : Nat} {reactor : Reactor}
    (here : scheduler.reactors[position]? = some reactor)
    (holds : reactor.place.holding = some thread) :
    thread ∉ reactor.threads ∧
      ∀ index other, index ≠ position →
        scheduler.reactors[index]? = some other →
          thread ∉ other.holds := by
  have once : (everywhere scheduler).count thread ≤ 1 := by
    rw [placed thread]
    split <;> omega
  have passed :=
    count_everywhere_passing here (show Place.test.holding = none from rfl)
      thread
  rw [count_holding holds, if_pos rfl] at passed
  -- without the one in the hands there is none left
  have none :
      (everywhere (passing position reactor .test scheduler)).count
        thread = 0 := by
    omega
  have absent :
      thread ∉ held (passing position reactor .test scheduler) := by
    intro member
    refine List.count_eq_zero.mp none ?_
    simp only [everywhere, List.append_assoc]
    exact List.mem_append_left _ member
  constructor
  · intro member
    refine absent (List.mem_flatMap.mpr
      ⟨{ reactor with place := .test }, ?_, ?_⟩)
    · have inside := (List.getElem?_eq_some_iff.mp here).1
      exact List.mem_of_getElem?
        (List.getElem?_set_self inside)
    · exact List.mem_append_left _ member
  · intro index other apart there member
    refine absent (List.mem_flatMap.mpr ⟨other, ?_, member⟩)
    have same :
        (passing position reactor .test scheduler).reactors[index]? =
          some other := by
      rw [← there]
      exact List.getElem?_set_ne (Ne.symm apart)
    exact List.mem_of_getElem? same

/-- A thread that has not been made is nowhere. -/
theorem Placed.fresh
    (placed : Placed scheduler)
    {index : Nat} {reactor : Reactor}
    (here : scheduler.reactors[index]? = some reactor) :
    scheduler.created ∉ reactor.holds := by
  intro member
  have none : (everywhere scheduler).count scheduler.created = 0 := by
    rw [placed, if_neg (Nat.lt_irrefl _)]
  refine List.count_eq_zero.mp none ?_
  simp only [everywhere, List.append_assoc]
  refine List.mem_append_left _ (List.mem_flatMap.mpr ⟨reactor, ?_, member⟩)
  exact List.mem_of_getElem? here

/-! ## One turn -/

theorem placed_booted (machine : Machine) : Placed (booted machine) := by
  intro thread
  have nowhere : everywhere (booted machine) = [] := by
    simp [everywhere, held, booted, Reactor.holds, Place.holding]
  rw [nowhere]
  rfl

theorem placed_of_turn
    (placed : Placed scheduler) (turn : Turn scheduler event next) :
    Placed next := by
  intro other
  have before := placed other
  cases turn with
  | @passed position reactor place here idle after =>
      have counted := count_everywhere_passing here after other
      rw [idle] at counted
      exact (Nat.add_zero _).symm.trans (counted.trans before)
  | @took position thread rest reactor place here ring loop =>
      have exchanged :=
        count_everywhere_setReactor here
          { reactor with threads := rest, place := place } other
      rw [count_holds, count_holds, ring, before] at exchanged
      have created :
          (setReactor position
            { reactor with threads := rest, place := place }
            scheduler).created = scheduler.created := rfl
      rw [created]
      rcases loop with ⟨first, taken⟩ | ⟨first, taken⟩
      · simp only [first, taken, Place.holding, Option.toList_some,
          Option.toList_none, List.count_cons, List.count_nil]
          at exchanged ⊢
        omega
      · simp only [first, taken, Place.holding, Option.toList_some,
          Option.toList_none, List.count_cons, List.count_nil]
          at exchanged ⊢
        omega
  | freed here polls =>
      exact (joins_destroyed _ _).placed placed here
        (by rw [polls]; rfl) rfl other
  | moved here polls asked found =>
      exact (joins_placing found).placed placed here
        (by rw [polls]; rfl) rfl other
  | @mislaid position thread after reactor here polls asked found =>
      have joins :
          Joins thread (passing position reactor .test scheduler)
            { missing thread after
                (passing position reactor .test scheduler) with
              lost := scheduler.lost ++ [thread] } :=
        (joins_lost thread
          (missing thread after
            (passing position reactor .test scheduler))).congr rfl rfl
      exact joins.placed placed here (by rw [polls]; rfl) rfl other
  | @kept position thread reactor here polls content =>
      have joins :=
        joins_enqueue (inside_passing here .test) thread
      exact joins.placed placed here (by rw [polls]; rfl) rfl other
  | @freedLate position thread rest reactor here drains ring =>
      have exchanged :=
        count_everywhere_setReactor here
          { reactor with threads := rest } other
      have joins :=
        joins_destroyed thread
          (setReactor position { reactor with threads := rest } scheduler)
      rw [count_holds, count_holds, ring, before, List.count_cons]
        at exchanged
      simp only [beq_iff_eq] at exchanged
      refine (joins.count other).trans ?_
      change _ = if other < scheduler.created then 1 else 0
      omega
  | @keptLate position thread reactor here drains =>
      have joins :=
        joins_enqueue (inside_passing here .drain) thread
      exact joins.placed placed here (by rw [drains]; rfl) rfl other
  | made found => exact (joins_placing found).placed_making placed other
  | @refused after cpumask found =>
      have joins :
          Joins scheduler.created (making cpumask scheduler)
            { missing scheduler.created after
                (making cpumask scheduler) with
              refused := scheduler.refused ++ [scheduler.created] } :=
        (joins_refused scheduler.created
          (missing scheduler.created after
            (making cpumask scheduler))).congr rfl rfl
      exact joins.placed_making placed other
  | masked => exact before
  | settled => exact before
  | told => exact before

theorem placed_of_reaches
    {allowed : Scheduler → Event → Prop}
    (reached : Reaches machine allowed scheduler) :
    Placed scheduler :=
  reached.preserves Placed (placed_booted machine)
    fun _ _ _ placed _ turn => placed_of_turn placed turn

end ZnsBench.Nvmf.ReactorScheduler

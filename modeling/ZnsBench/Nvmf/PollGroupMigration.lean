import Mathlib.Data.Nat.ModEq
import ZnsBench.Nvmf.ReactorConservation

/-!
# Poll groups that move from core to core

A thread bound to one core asks for the next one whenever it runs
`migrate_poll_group_by_rr`.  The core it counts from is the one it is polled
on, so several of these messages in one poll move it by one core only; but
it comes back to a core only after it has been on all the others.
-/

namespace ZnsBench.Nvmf.ReactorScheduler

open ZnsBench.Core.GuardedRun ZnsBench.Core.Exchange

variable {machine : Machine} {scheduler next : Scheduler} {event : Event}

/-- Threads are bound to one core each and change it by migrating only. -/
def Migrating (machine : Machine) (_ : Scheduler) : Event → Prop
  | .create cpumask => ∃ core ∈ machine.cores, cpumask = [core]
  | .setCpumask _ _ => False
  | _ => True

instance (machine : Machine) (scheduler : Scheduler) :
    DecidablePred (Migrating machine scheduler)
  | .create _ => inferInstanceAs (Decidable (∃ _ ∈ _, _))
  | .setCpumask _ _ => isFalse not_false
  | .reactor _ => isTrue True.intro
  | .migrate _ => isTrue True.intro
  | .settle _ _ _ => isTrue True.intro
  | .exit => isTrue True.intro

/-- The reactors a thread has been put on, in order. -/
def journey (thread : Nat) (scheduler : Scheduler) : List Nat :=
  (scheduler.placements.filter fun entry => entry.1 = thread).map Prod.snd

/-- The positions passed in some hops round the reactors. -/
def circuit (size start hops : Nat) : List Nat :=
  (List.range (hops + 1)).map fun hop => (start + hop) % size

theorem circuit_succ (size start hops : Nat) :
    circuit size start (hops + 1) =
      circuit size start hops ++ [(start + (hops + 1)) % size] := by
  rw [circuit, List.range_succ, List.map_append]
  rfl

/-! ## Who has a thread -/

/-- The reactor at a position has a thread. -/
def HeldAt (scheduler : Scheduler) (position thread : Nat) : Prop :=
  ∃ reactor : Reactor,
    scheduler.reactors[position]? = some reactor ∧ thread ∈ reactor.holds

theorem heldAt_of_setReactor
    {position : Nat} {old new : Reactor}
    (here : scheduler.reactors[position]? = some old)
    (less : new.holds ⊆ old.holds)
    {index thread : Nat}
    (held : HeldAt (setReactor position new scheduler) index thread) :
    HeldAt scheduler index thread := by
  rcases held with ⟨reactor, there, member⟩
  rw [setReactor, List.getElem?_set] at there
  split at there
  · rename_i same
    subst same
    split at there
    · cases there
      exact ⟨old, here, less member⟩
    · cases there
  · exact ⟨reactor, there, member⟩

theorem heldAt_of_passing
    {position : Nat} {reactor : Reactor} {place : Place}
    (here : scheduler.reactors[position]? = some reactor)
    (after : place.holding = none)
    {index thread : Nat}
    (held : HeldAt (passing position reactor place scheduler) index thread) :
    HeldAt scheduler index thread := by
  refine heldAt_of_setReactor here ?_ held
  intro other member
  rw [Reactor.holds, after, Option.toList_none, List.append_nil] at member
  exact List.mem_append_left _ member

theorem heldAt_of_enqueue
    {position thread index other : Nat}
    (held : HeldAt (enqueue position thread scheduler) index other) :
    HeldAt scheduler index other ∨ other = thread ∧ index = position := by
  rw [enqueue] at held
  split at held
  · exact Or.inl held
  · rename_i reactor here
    split at held
    · rcases held with ⟨found, there, member⟩
      rw [List.getElem?_set] at there
      split at there
      · rename_i same
        subst same
        split at there
        · cases there
          rcases List.mem_append.mp member with ring | hand
          · rcases List.mem_append.mp ring with earlier | last
            · exact Or.inl
                ⟨reactor, here, List.mem_append_left _ earlier⟩
            · exact Or.inr ⟨List.mem_singleton.mp last, rfl⟩
          · exact Or.inl ⟨reactor, here, List.mem_append_right _ hand⟩
        · cases there
      · exact Or.inl ⟨found, there, member⟩
    · exact Or.inl held

/-! ## One thread -/

/-- How far a thread has come and where it wants to be. -/
structure OnItsWay (machine : Machine) (scheduler : Scheduler)
    (thread start hops : Nat) : Prop where
  start_lt : start < machine.cores.length
  passed :
    journey thread scheduler = circuit machine.cores.length start hops
  cpumask :
    (scheduler.lwThread thread).cpumask =
      (machine.cores[(start + hops +
          if (scheduler.lwThread thread).resched then 1 else 0) %
        machine.cores.length]?).toList
  held :
    ∀ index, HeldAt scheduler index thread →
      index = (start + hops) % machine.cores.length

/-- Every thread is on its way from where it started. -/
structure Travelling (machine : Machine) (scheduler : Scheduler) : Prop where
  known : ∀ entry ∈ scheduler.placements, entry.1 < scheduler.created
  way :
    ∀ thread < scheduler.created,
      ∃ start hops, OnItsWay machine scheduler thread start hops

theorem OnItsWay.congr
    {thread start hops : Nat}
    (way : OnItsWay machine scheduler thread start hops)
    (passed : journey thread next = journey thread scheduler)
    (cpumask :
      (next.lwThread thread).cpumask =
        (scheduler.lwThread thread).cpumask)
    (resched :
      (next.lwThread thread).resched =
        (scheduler.lwThread thread).resched)
    (held :
      ∀ index, HeldAt next index thread →
        HeldAt scheduler index thread) :
    OnItsWay machine next thread start hops where
  start_lt := way.start_lt
  passed := passed.trans way.passed
  cpumask := by rw [cpumask, resched, way.cpumask]
  held := fun index there => way.held index (held index there)

theorem travelling_booted (machine : Machine) :
    Travelling machine (booted machine) where
  known := fun _ member => absurd member List.not_mem_nil
  way := fun thread before => absurd before (Nat.not_lt_zero thread)

/-- Only where the threads are may have changed, and no thread has moved. -/
theorem Travelling.congr
    (travelling : Travelling machine scheduler)
    (same : SameRecords scheduler next)
    (held :
      ∀ index thread, HeldAt next index thread →
        HeldAt scheduler index thread) :
    Travelling machine next where
  known := by
    rw [same.placements, same.created]
    exact travelling.known
  way := by
    intro thread before
    rw [same.created] at before
    rcases travelling.way thread before with ⟨start, hops, way⟩
    refine ⟨start, hops, way.congr ?_ ?_ ?_ fun index => held index thread⟩
    · rw [journey, same.placements]
      rfl
    · rw [same.lwThread]
    · rw [same.lwThread]

theorem Machine.cores_nodup (machine : Machine) : machine.cores.Nodup :=
  machine.cores_sorted.imp fun less => Nat.ne_of_lt less

theorem Aligned.core_at
    (aligned : Aligned machine scheduler)
    {position : Nat} {reactor : Reactor}
    (here : scheduler.reactors[position]? = some reactor) :
    machine.cores[position]? = some reactor.core := by
  rw [← aligned.cores, List.getElem?_map, here]
  rfl

/-- A thread bound to one core is put on the reactor of that core. -/
theorem Aligned.target_eq
    (aligned : Aligned machine scheduler)
    {thread target wanted : Nat} {after : Option Nat}
    (cpumask :
      (scheduler.lwThread thread).cpumask =
        (machine.cores[wanted]?).toList)
    (found :
      ReactorScheduler.reactorFor thread scheduler =
        (some target, after)) :
    target = wanted := by
  rcases (findReactor_some found).1 with ⟨reactor, here, core⟩
  have there := aligned.core_at here
  rw [cpumask, Option.mem_toList] at core
  have inside := (List.getElem?_eq_some_iff.mp there).1
  exact (List.getElem?_inj inside machine.cores_nodup).mp
    (there.trans core.symm)

theorem journey_append_self
    (thread target : Nat) (placements : List (Nat × Nat)) :
    ((placements ++ [(thread, target)]).filter
        fun entry => entry.1 = thread).map Prod.snd =
      ((placements.filter fun entry => entry.1 = thread).map Prod.snd) ++
        [target] := by
  simp

theorem journey_append_other
    {thread other : Nat} (apart : other ≠ thread) (target : Nat)
    (placements : List (Nat × Nat)) :
    ((placements ++ [(thread, target)]).filter
        fun entry => entry.1 = other).map Prod.snd =
      (placements.filter fun entry => entry.1 = other).map Prod.snd := by
  simp [Ne.symm apart]

@[simp]
theorem placements_placing
    (thread target : Nat) (after : Option Nat) (scheduler : Scheduler) :
    (placing thread target after scheduler).placements =
      scheduler.placements ++ [(thread, target)] :=
  (sameRecords_enqueue target thread _).placements

@[simp]
theorem lwThread_placing
    (thread target : Nat) (after : Option Nat) (scheduler : Scheduler) :
    (placing thread target after scheduler).lwThread =
      Function.update scheduler.lwThread thread
        { scheduler.lwThread thread with resched := false } :=
  (sameRecords_enqueue target thread _).lwThread

/-- What a thread's being put on a reactor means for the others. -/
theorem OnItsWay.placing_other
    {thread other target start hops : Nat} {after : Option Nat}
    (way : OnItsWay machine scheduler other start hops)
    (apart : other ≠ thread) :
    OnItsWay machine (placing thread target after scheduler) other start
      hops := by
  refine way.congr ?_ ?_ ?_ ?_
  · rw [journey, placements_placing, journey_append_other apart]
    rfl
  · rw [lwThread_placing, Function.update_of_ne apart]
  · rw [lwThread_placing, Function.update_of_ne apart]
  · intro index held
    rcases heldAt_of_enqueue held with before | ⟨same, _⟩
    · exact before
    · exact absurd same apart

/-- What it means for the thread itself, which nobody had. -/
theorem onItsWay_placing_self
    {thread target start hops : Nat} {after : Option Nat}
    (inside : start < machine.cores.length)
    (passed :
      journey thread scheduler ++ [target] =
        circuit machine.cores.length start hops)
    (cpumask :
      (scheduler.lwThread thread).cpumask =
        (machine.cores[(start + hops) % machine.cores.length]?).toList)
    (position : target = (start + hops) % machine.cores.length)
    (absent :
      ∀ (index : Nat) (reactor : Reactor),
        scheduler.reactors[index]? = some reactor →
          thread ∉ reactor.holds) :
    OnItsWay machine (placing thread target after scheduler) thread start
      hops where
  start_lt := inside
  passed := by
    rw [journey, placements_placing, journey_append_self]
    exact passed
  cpumask := by
    rw [lwThread_placing, Function.update_self, cpumask]
    rfl
  held := by
    intro index held
    rcases heldAt_of_enqueue held with ⟨reactor, here, member⟩ | ⟨_, same⟩
    · exact absurd member (absent index reactor here)
    · rw [same, position]

/-! ## All threads -/

/-- The mask of a thread on its way has the core of a reactor. -/
theorem OnItsWay.meets
    {thread start hops : Nat}
    (way : OnItsWay machine scheduler thread start hops) :
    ∃ core ∈ machine.cores,
      core ∈ (scheduler.lwThread thread).cpumask := by
  have inside :
      (start + hops +
          if (scheduler.lwThread thread).resched then 1 else 0) %
        machine.cores.length < machine.cores.length :=
    Nat.mod_lt _ (Nat.zero_lt_of_lt machine.main_lt)
  rw [way.cpumask, List.getElem?_eq_getElem inside]
  exact ⟨_, List.getElem_mem inside, List.mem_cons_self⟩

/-- A thread that asked to be moved goes on to the next reactor. -/
theorem Travelling.moved
    (placed : Placed scheduler) (aligned : Aligned machine scheduler)
    (travelling : Travelling machine scheduler)
    {position thread target : Nat} {after : Option Nat}
    {reactor : Reactor}
    (here : scheduler.reactors[position]? = some reactor)
    (polls : reactor.place = .polling thread)
    (asked : (scheduler.lwThread thread).resched = true)
    (found :
      reactorFor thread (passing position reactor .test scheduler) =
        (some target, after)) :
    Travelling machine
      (placing thread target after
        (passing position reactor .test scheduler)) := by
  have holds := (congrArg Place.holding polls).trans rfl
  have known := placed.known here holds
  have created :
      (placing thread target after
        (passing position reactor .test scheduler)).created =
          scheduler.created :=
    (sameRecords_enqueue target thread _).created
  constructor
  · intro entry member
    rw [created]
    rw [placements_placing] at member
    rcases List.mem_append.mp member with earlier | last
    · exact travelling.known entry earlier
    · rw [List.mem_singleton.mp last]
      exact known
  · intro other before
    rw [created] at before
    by_cases same : other = thread
    · subst same
      rcases travelling.way other before with ⟨start, hops, way⟩
      have cpumask := way.cpumask
      rw [asked, if_pos rfl] at cpumask
      have position :=
        (aligned.passing here .test).target_eq cpumask found
      refine ⟨start, hops + 1, ?_⟩
      refine onItsWay_placing_self way.start_lt ?_ cpumask position
        (placed.absent_passing here holds rfl)
      rw [circuit_succ, ← way.passed, position]
      rfl
    · rcases travelling.way other before with ⟨start, hops, way⟩
      refine ⟨start, hops, OnItsWay.placing_other ?_ same⟩
      exact way.congr rfl rfl rfl fun _ held =>
        heldAt_of_passing here rfl held

/-- A new thread begins its way. -/
theorem Travelling.made
    (placed : Placed scheduler) (aligned : Aligned machine scheduler)
    (travelling : Travelling machine scheduler)
    {target core : Nat} {after : Option Nat}
    (bound : core ∈ machine.cores)
    (found :
      reactorFor scheduler.created (making [core] scheduler) =
        (some target, after)) :
    Travelling machine
      (placing scheduler.created target after
        (making [core] scheduler)) := by
  have created :
      (placing scheduler.created target after
        (making [core] scheduler)).created = scheduler.created + 1 :=
    (sameRecords_enqueue target scheduler.created _).created
  have grown : Aligned machine (making [core] scheduler) :=
    aligned.congr rfl aligned.aimed
  constructor
  · intro entry member
    rw [created]
    rw [placements_placing] at member
    rcases List.mem_append.mp member with earlier | last
    · exact (travelling.known entry earlier).trans (Nat.lt_succ_self _)
    · rw [List.mem_singleton.mp last]
      exact Nat.lt_succ_self _
  · intro other before
    rw [created] at before
    by_cases same : other = scheduler.created
    · subst same
      rcases List.mem_iff_getElem?.mp bound with ⟨wanted, there⟩
      have inside := (List.getElem?_eq_some_iff.mp there).1
      have cpumask :
          ((making [core] scheduler).lwThread
            scheduler.created).cpumask =
              (machine.cores[wanted]?).toList := by
        rw [there]
        simp only [making, setThread, Function.update_self,
          Option.toList_some]
      have position := grown.target_eq cpumask found
      have here : (wanted + 0) % machine.cores.length = wanted := by
        rw [Nat.add_zero, Nat.mod_eq_of_lt inside]
      refine ⟨wanted, 0, onItsWay_placing_self inside ?_ ?_ ?_ ?_⟩
      · have empty :
            journey scheduler.created (making [core] scheduler) = [] := by
          have unknown :
              scheduler.placements.filter
                (fun entry => entry.1 = scheduler.created) = [] := by
            refine List.filter_eq_nil_iff.mpr fun entry member => ?_
            have earlier := travelling.known entry member
            simp only [decide_eq_true_eq]
            omega
          simp only [journey, making, setThread, unknown, List.map_nil]
        rw [empty, position, circuit]
        simp only [Nat.zero_add, List.range_one, List.map_cons,
          List.map_nil, here, List.nil_append]
      · rw [here]
        exact cpumask
      · rw [here, position]
      · exact fun _ _ there => placed.fresh there
    · have earlier : other < scheduler.created := by omega
      rcases travelling.way other earlier with ⟨start, hops, way⟩
      refine ⟨start, hops, OnItsWay.placing_other ?_ same⟩
      refine way.congr rfl ?_ ?_ fun _ held => held
      · simp only [making, setThread, Function.update_of_ne same]
      · simp only [making, setThread, Function.update_of_ne same]

theorem Aligned.migrationCore_eq
    (aligned : Aligned machine scheduler)
    {position : Nat} (inside : position < machine.cores.length) :
    ReactorScheduler.migrationCore scheduler.reactors position =
      machine.cores[(position + 1) % machine.cores.length]? := by
  rw [← aligned.length_eq] at inside
  rw [ReactorScheduler.migrationCore, following_getD inside,
    ← List.getElem?_map, aligned.cores, aligned.length_eq]

/-- The thread that runs on a reactor is held there. -/
theorem heldAt_of_runningOn
    {position thread : Nat}
    (runs : runningOn position scheduler = some thread) :
    HeldAt scheduler position thread := by
  rcases Option.bind_eq_some_iff.mp runs with ⟨reactor, here, holds⟩
  refine ⟨reactor, here, List.mem_append_right _ ?_⟩
  rw [holds]
  exact List.mem_cons_self

/-- A thread that migrates wants to be on the reactor after its own. -/
theorem Travelling.migrated
    (aligned : Aligned machine scheduler)
    (travelling : Travelling machine scheduler)
    {position thread : Nat}
    (runs : runningOn position scheduler = some thread) :
    Travelling machine
      (setThread thread
        { scheduler.lwThread thread with
          cpumask :=
            (migrationCore scheduler.reactors position).toList
          resched := true } scheduler) where
  known := travelling.known
  way := by
    intro other before
    rcases travelling.way other before with ⟨start, hops, way⟩
    refine ⟨start, hops, ?_⟩
    by_cases same : other = thread
    · subst same
      have here := way.held position (heldAt_of_runningOn runs)
      have inside : position < machine.cores.length := by
        rw [here]
        exact Nat.mod_lt _ (Nat.zero_lt_of_lt machine.main_lt)
      refine ⟨way.start_lt, way.passed, ?_, way.held⟩
      simp only [setThread, Function.update_self, if_true]
      rw [aligned.migrationCore_eq inside, here, Nat.mod_add_mod]
    · refine way.congr rfl ?_ ?_ fun _ held => held
      · simp only [setThread, Function.update_of_ne same]
      · simp only [setThread, Function.update_of_ne same]

/-- Exiting or idling does not change the way of a thread. -/
theorem Travelling.settled
    (travelling : Travelling machine scheduler)
    {thread : Nat} {value : LwThread}
    (cpumask : value.cpumask = (scheduler.lwThread thread).cpumask)
    (resched : value.resched = (scheduler.lwThread thread).resched) :
    Travelling machine (setThread thread value scheduler) where
  known := travelling.known
  way := by
    intro other before
    rcases travelling.way other before with ⟨start, hops, way⟩
    refine ⟨start, hops, way.congr rfl ?_ ?_ fun _ held => held⟩
    · exact cpumask_setThread cpumask other
    · by_cases same : other = thread
      · simp only [setThread, same, Function.update_self]
        exact resched
      · simp only [setThread, Function.update_of_ne same]

theorem travelling_of_turn
    (placed : Placed scheduler) (aligned : Aligned machine scheduler)
    (travelling : Travelling machine scheduler)
    (migrating : Migrating machine scheduler event)
    (turn : Turn scheduler event next) :
    Travelling machine next := by
  -- a thread goes back into the ring it came from
  have back {position thread : Nat} {reactor : Reactor} {place : Place}
      (here : scheduler.reactors[position]? = some reactor)
      (holds : reactor.place.holding = some thread)
      (after : place.holding = none) :
      Travelling machine
        (enqueue position thread
          (passing position reactor place scheduler)) := by
    have same :=
      sameRecords_enqueue position thread
        (passing position reactor place scheduler)
    refine travelling.congr
      ⟨same.created, same.lwThread, same.placements, same.nextReactor⟩ ?_
    intro index other held
    rcases heldAt_of_enqueue held with before | ⟨rfl, rfl⟩
    · exact heldAt_of_passing here after before
    · refine ⟨reactor, here, List.mem_append_right _ ?_⟩
      rw [holds]
      exact List.mem_cons_self
  cases turn with
  | passed here before after =>
      exact travelling.congr ⟨rfl, rfl, rfl, rfl⟩ fun _ _ held =>
        heldAt_of_passing here after held
  | @took position thread rest reactor place here ring loop =>
      refine travelling.congr ⟨rfl, rfl, rfl, rfl⟩ fun _ _ held =>
        heldAt_of_setReactor here ?_ held
      intro other member
      rcases List.mem_append.mp member with later | hand
      · refine List.mem_append_left _ ?_
        rw [ring]
        exact List.mem_cons_of_mem _ later
      · refine List.mem_append_left _ ?_
        have same : other = thread := by
          rcases loop with ⟨_, taken⟩ | ⟨_, taken⟩
          · rw [taken] at hand
            exact List.mem_singleton.mp hand
          · rw [taken] at hand
            exact List.mem_singleton.mp hand
        rw [ring, same]
        exact List.mem_cons_self
  | freed here =>
      exact travelling.congr ⟨rfl, rfl, rfl, rfl⟩ fun _ _ held =>
        heldAt_of_passing here rfl held
  | moved here polls asked found =>
      exact travelling.moved placed aligned here polls asked found
  | mislaid here polls asked found =>
      have holds := (congrArg Place.holding polls).trans rfl
      rcases travelling.way _ (placed.known here holds) with ⟨_, _, way⟩
      exact absurd found
        ((aligned.passing here .test).reactorFor_ne_none way.meets)
  | kept here polls => exact back here (by rw [polls]; rfl) rfl
  | @freedLate position thread rest reactor here drains ring =>
      refine travelling.congr ⟨rfl, rfl, rfl, rfl⟩ fun _ _ held =>
        heldAt_of_setReactor here ?_ held
      intro other member
      rcases List.mem_append.mp member with later | hand
      · refine List.mem_append_left _ ?_
        rw [ring]
        exact List.mem_cons_of_mem _ later
      · exact List.mem_append_right _ hand
  | keptLate here drains => exact back here (by rw [drains]; rfl) rfl
  | made found =>
      rcases migrating with ⟨core, bound, rfl⟩
      exact travelling.made placed aligned bound found
  | refused found =>
      rcases migrating with ⟨core, bound, rfl⟩
      have grown : Aligned machine (making [core] scheduler) :=
        aligned.congr rfl aligned.aimed
      refine absurd found (grown.reactorFor_ne_none ⟨core, bound, ?_⟩)
      simp only [making, setThread, Function.update_self,
        List.mem_singleton]
  | masked runs cause =>
      rcases cause with rfl | ⟨rfl, rfl⟩
      · exact migrating.elim
      · exact travelling.migrated aligned runs
  | settled => exact travelling.settled rfl rfl
  | told => exact travelling.congr ⟨rfl, rfl, rfl, rfl⟩ fun _ _ held => held

/--
In every interleaving in which threads are bound to one core and change it by
migrating only, each thread has gone round the reactors one after the other
and is on the last one it was put on.  Two threads that began on different
reactors and were moved equally often are never on the same one.
-/
theorem migration_goes_round
    (reached : Reaches machine (Migrating machine) scheduler) :
    (∀ thread < scheduler.created,
        ∃ start hops,
          journey thread scheduler =
              (List.range (hops + 1)).map
                (fun hop => (start + hop) % machine.cores.length) ∧
            ∀ index, HeldAt scheduler index thread →
              index = (start + hops) % machine.cores.length) ∧
      ∀ first < scheduler.created, ∀ second < scheduler.created,
        (journey first scheduler).length =
            (journey second scheduler).length →
          (journey first scheduler).head? ≠
              (journey second scheduler).head? →
            ∀ index, HeldAt scheduler index first →
              ¬ HeldAt scheduler index second := by
  have all :=
    reached.preserves
      (fun state =>
        Placed state ∧ Aligned machine state ∧ Travelling machine state)
      ⟨placed_booted machine, aligned_booted machine,
        travelling_booted machine⟩
      fun _ _ _ holds migrating turn =>
        ⟨placed_of_turn holds.1 turn, aligned_of_turn holds.2.1 turn,
          travelling_of_turn holds.1 holds.2.1 holds.2.2 migrating turn⟩
  have way := all.2.2.way
  constructor
  · intro thread before
    rcases way thread before with ⟨start, hops, way⟩
    exact ⟨start, hops, way.passed, way.held⟩
  · intro first firstBefore second secondBefore length apart index
      firstHeld secondHeld
    rcases way first firstBefore with ⟨start, hops, one⟩
    rcases way second secondBefore with ⟨begin, moves, two⟩
    rw [one.passed, two.passed] at length apart
    simp only [circuit, List.length_map, List.length_range] at length
    have equal : moves = hops := by omega
    subst equal
    have same :=
      (one.held index firstHeld).symm.trans (two.held index secondHeld)
    have modulo : start ≡ begin [MOD machine.cores.length] :=
      Nat.ModEq.add_right_cancel' moves same
    have starts : start = begin :=
      Nat.ModEq.eq_of_lt_of_lt modulo one.start_lt two.start_lt
    exact apart (by rw [starts])

/-- Two poll groups that have changed places. -/
theorem migration_goes_round_twoCores :
    ∃ scheduler,
      Reaches twoCores (Migrating twoCores) scheduler ∧
        journey 0 scheduler = [0, 1] ∧ journey 1 scheduler = [1, 0] ∧
        ∀ index, HeldAt scheduler index 0 → ¬ HeldAt scheduler index 1 := by
  have ran :
      ∃ scheduler,
        Reaches twoCores (Migrating twoCores) scheduler ∧
          scheduler.created = 2 ∧ journey 0 scheduler = [0, 1] ∧
            journey 1 scheduler = [1, 0] :=
    exists_reaches
      (fun scheduler =>
        scheduler.created = 2 ∧ journey 0 scheduler = [0, 1] ∧
          journey 1 scheduler = [1, 0])
      [.create [0], .create [1], .reactor 0, .reactor 1, .migrate 1,
        .reactor 1, .migrate 0, .migrate 0, .reactor 0] (by decide)
  rcases ran with ⟨scheduler, reached, two, first, second⟩
  refine ⟨scheduler, reached, first, second, ?_⟩
  refine (migration_goes_round reached).2 0 (by omega) 1 (by omega) ?_ ?_
  · rw [first, second]
    rfl
  · rw [first, second]
    decide

end ZnsBench.Nvmf.ReactorScheduler

import Mathlib.Data.List.Nodup
import Mathlib.Data.List.Perm.Subperm
import ZnsBench.Nvmf.ReactorAffinity

/-!
# No lightweight thread is lost

The result of `spdk_ring_enqueue` is not looked at, and neither is that of
`nvmf_schedule_spdk_thread` when a thread is moved.  Neither can go wrong as
long as every mask has the core of a reactor and there are no more threads
than a ring holds.
-/

namespace ZnsBench.Nvmf.ReactorScheduler

open ZnsBench.Core.GuardedRun

variable {machine : Machine} {scheduler next : Scheduler} {event : Event}

/-- Every mask that is asked for has the core of a reactor. -/
def Served (machine : Machine) (_ : Scheduler) : Event → Prop
  | .create cpumask => ∃ core ∈ machine.cores, core ∈ cpumask
  | .setCpumask _ cpumask => ∃ core ∈ machine.cores, core ∈ cpumask
  | _ => True

instance (machine : Machine) (scheduler : Scheduler) :
    DecidablePred (Served machine scheduler)
  | .create _ => inferInstanceAs (Decidable (∃ _ ∈ _, _))
  | .setCpumask _ _ => inferInstanceAs (Decidable (∃ _ ∈ _, _))
  | .reactor _ => isTrue True.intro
  | .migrate _ => isTrue True.intro
  | .settle _ _ _ => isTrue True.intro
  | .exit => isTrue True.intro

/-! ## Room in the rings -/

/-- A thread is in at most one place and has been made. -/
def Sparse (scheduler : Scheduler) : Prop :=
  ∀ thread,
    (everywhere scheduler).count thread ≤
      if thread < scheduler.created then 1 else 0

theorem Placed.sparse (placed : Placed scheduler) : Sparse scheduler :=
  fun thread => (placed thread).le

theorem Placed.sparse_passing
    (placed : Placed scheduler)
    {position : Nat} {reactor : Reactor}
    (here : scheduler.reactors[position]? = some reactor)
    {place : Place} (after : place.holding = none) :
    Sparse (passing position reactor place scheduler) := by
  intro thread
  have counted := count_everywhere_passing here after thread
  rw [placed thread] at counted
  change _ ≤ if thread < scheduler.created then 1 else 0
  omega

theorem Placed.sparse_making
    (placed : Placed scheduler) (cpumask : List Nat) :
    Sparse (making cpumask scheduler) := by
  intro thread
  have before : (everywhere (making cpumask scheduler)).count thread = _ :=
    placed thread
  have created : (making cpumask scheduler).created =
      scheduler.created + 1 := rfl
  rw [before, created]
  split <;> split <;> omega

theorem Sparse.count_threads
    (sparse : Sparse scheduler)
    {index : Nat} {reactor : Reactor}
    (here : scheduler.reactors[index]? = some reactor) (thread : Nat) :
    reactor.threads.count thread ≤
      if thread < scheduler.created then 1 else 0 := by
  have ring : reactor.threads.Sublist reactor.holds :=
    List.sublist_append_left _ _
  have reactors : reactor.holds.Sublist (held scheduler) :=
    List.sublist_flatten_of_mem
      (List.mem_map_of_mem (List.mem_of_getElem? here))
  have part : (held scheduler).Sublist (everywhere scheduler) := by
    simp only [everywhere, List.append_assoc]
    exact List.sublist_append_left _ _
  have part := (ring.trans reactors).trans part
  exact (part.count_le thread).trans (sparse thread)

/-- A ring that does not hold some thread holds fewer than there are. -/
theorem Sparse.room
    (sparse : Sparse scheduler)
    {index thread : Nat} {reactor : Reactor}
    (here : scheduler.reactors[index]? = some reactor)
    (known : thread < scheduler.created)
    (absent : thread ∉ reactor.threads) :
    reactor.threads.length < scheduler.created := by
  have counts := sparse.count_threads here
  have distinct : (thread :: reactor.threads).Nodup := by
    refine List.nodup_cons.mpr ⟨absent, ?_⟩
    rw [List.nodup_iff_count_le_one]
    intro other
    have bound := counts other
    split at bound <;> omega
  have inside : thread :: reactor.threads ⊆ List.range scheduler.created := by
    intro other member
    rw [List.mem_range]
    rcases List.mem_cons.mp member with rfl | member
    · exact known
    · have bound := counts other
      have present := List.count_pos_iff.mpr member
      split at bound
      · assumption
      · omega
  have length := (List.subperm_of_subset distinct inside).length_le
  rw [List.length_cons, List.length_range] at length
  omega

/-! ## Nothing goes wrong -/

/-- A thread that fits is put into the ring and nothing else changes. -/
theorem enqueue_of_room
    {position thread : Nat} {reactor : Reactor}
    (here : scheduler.reactors[position]? = some reactor)
    (room : reactor.threads.length < ringSize) :
    enqueue position thread scheduler =
      setReactor position
        { reactor with threads := reactor.threads ++ [thread] }
        scheduler := by
  simp only [enqueue, here, if_pos room, setReactor]

/-- Every mask has the core of a reactor and no thread is missing. -/
structure Secured (machine : Machine) (scheduler : Scheduler) : Prop where
  masks :
    ∀ thread < scheduler.created,
      ∃ core ∈ machine.cores, core ∈ (scheduler.lwThread thread).cpumask
  whole :
    scheduler.created ≤ ringSize →
      scheduler.lost = [] ∧ scheduler.refused = []

theorem secured_booted (machine : Machine) :
    Secured machine (booted machine) where
  masks := fun thread before => absurd before (Nat.not_lt_zero thread)
  whole := fun _ => ⟨rfl, rfl⟩

/-- A thread whose mask has the core of a reactor gets one. -/
theorem Aligned.reactorFor_ne_none
    (aligned : Aligned machine scheduler) {thread : Nat}
    {after : Option Nat}
    (meets :
      ∃ core ∈ machine.cores,
        core ∈ (scheduler.lwThread thread).cpumask) :
    ReactorScheduler.reactorFor thread scheduler ≠ (none, after) := by
  intro missed
  have inside := aligned.aimed
  rw [← aligned.length_eq] at inside
  refine findReactor_isSome inside ?_ (congrArg Prod.fst missed)
  rcases meets with ⟨core, known, asked⟩
  rw [← aligned.cores] at known
  rcases List.mem_map.mp known with ⟨reactor, member, rfl⟩
  exact ⟨reactor, member, asked⟩

theorem Secured.congr
    (secured : Secured machine scheduler)
    (created : next.created = scheduler.created)
    (masks :
      ∀ thread,
        (next.lwThread thread).cpumask =
          (scheduler.lwThread thread).cpumask)
    (lost : next.lost = scheduler.lost)
    (refused : next.refused = scheduler.refused) :
    Secured machine next where
  masks := by
    intro thread before
    rw [created] at before
    rw [masks]
    exact secured.masks thread before
  whole := by
    rw [created, lost, refused]
    exact secured.whole

theorem cpumask_setThread
    {thread : Nat} {value : LwThread}
    (same : value.cpumask = (scheduler.lwThread thread).cpumask)
    (other : Nat) :
    ((setThread thread value scheduler).lwThread other).cpumask =
      (scheduler.lwThread other).cpumask := by
  by_cases equal : other = thread
  · rw [equal, setThread]
    simp only [Function.update_self]
    exact same
  · rw [setThread]
    simp only [Function.update_of_ne equal]

/-- The ring and the lost threads are all that changes. -/
structure SameRecords (scheduler next : Scheduler) : Prop where
  created : next.created = scheduler.created
  lwThread : next.lwThread = scheduler.lwThread
  placements : next.placements = scheduler.placements
  nextReactor : next.nextReactor = scheduler.nextReactor

theorem sameRecords_enqueue
    (position thread : Nat) (scheduler : Scheduler) :
    SameRecords scheduler (enqueue position thread scheduler) := by
  rw [enqueue]
  split
  · exact ⟨rfl, rfl, rfl, rfl⟩
  · split
    · exact ⟨rfl, rfl, rfl, rfl⟩
    · exact ⟨rfl, rfl, rfl, rfl⟩

theorem Secured.enqueue
    (secured : Secured machine scheduler) (sparse : Sparse scheduler)
    {position thread : Nat} (known : thread < scheduler.created)
    (absent :
      ∀ (index : Nat) (reactor : Reactor),
        scheduler.reactors[index]? = some reactor →
          thread ∉ reactor.holds) :
    Secured machine (enqueue position thread scheduler) := by
  cases here : scheduler.reactors[position]? with
  | none =>
      rw [ReactorScheduler.enqueue, here]
      exact secured
  | some reactor =>
      by_cases few : scheduler.created ≤ ringSize
      · have room : reactor.threads.length < scheduler.created :=
          sparse.room here known fun member =>
            absent position reactor here (List.mem_append_left _ member)
        rw [enqueue_of_room here (by omega)]
        exact secured.congr rfl (fun _ => rfl) rfl rfl
      · have same := sameRecords_enqueue position thread scheduler
        refine ⟨?_, ?_⟩
        · intro other before
          rw [same.created] at before
          rw [same.lwThread]
          exact secured.masks other before
        · intro bound
          rw [same.created] at bound
          exact absurd bound few

theorem Secured.placing
    (secured : Secured machine scheduler) (sparse : Sparse scheduler)
    {thread target : Nat} {after : Option Nat}
    (known : thread < scheduler.created)
    (absent :
      ∀ (index : Nat) (reactor : Reactor),
        scheduler.reactors[index]? = some reactor →
          thread ∉ reactor.holds) :
    Secured machine (placing thread target after scheduler) := by
  refine Secured.enqueue ?_ ?_ ?_ ?_
  · exact secured.congr rfl (cpumask_setThread rfl) rfl rfl
  · exact sparse
  · exact known
  · exact absent

/-- A thread in the hands of a reactor has been made. -/
theorem Placed.known
    (placed : Placed scheduler)
    {position thread : Nat} {reactor : Reactor}
    (here : scheduler.reactors[position]? = some reactor)
    (holds : reactor.place.holding = some thread) :
    thread < scheduler.created := by
  have counted :=
    count_everywhere_passing here (show Place.test.holding = none from rfl)
      thread
  rw [count_holding holds, if_pos rfl, placed thread] at counted
  split at counted
  · assumption
  · omega

/-- The core a thread migrates to has a reactor. -/
theorem Aligned.migrationCore
    (aligned : Aligned machine scheduler) (position : Nat) :
    ∃ core ∈ machine.cores,
      core ∈
        (migrationCore scheduler.reactors position).toList := by
  have inside := aligned.following position
  rw [← aligned.length_eq] at inside
  have here := List.getElem?_eq_getElem inside
  rw [ReactorScheduler.migrationCore, here, ← aligned.cores]
  exact ⟨_, List.mem_map_of_mem (List.getElem_mem inside),
    List.mem_cons_self⟩

theorem Secured.making
    (secured : Secured machine scheduler) {cpumask : List Nat}
    (meets : ∃ core ∈ machine.cores, core ∈ cpumask) :
    Secured machine (making cpumask scheduler) where
  masks := by
    intro thread before
    by_cases new : thread = scheduler.created
    · simp only [ReactorScheduler.making, setThread, new,
        Function.update_self]
      exact meets
    · simp only [ReactorScheduler.making, setThread,
        Function.update_of_ne new]
      refine secured.masks thread ?_
      have bound : thread < scheduler.created + 1 := before
      omega
  whole := fun few =>
    secured.whole (le_trans (Nat.le_succ scheduler.created) few)

theorem Secured.masked
    (secured : Secured machine scheduler) {thread : Nat}
    {value : LwThread}
    (meets : ∃ core ∈ machine.cores, core ∈ value.cpumask) :
    Secured machine (setThread thread value scheduler) where
  masks := by
    intro other before
    by_cases same : other = thread
    · simp only [setThread, same, Function.update_self]
      exact meets
    · simp only [setThread, Function.update_of_ne same]
      exact secured.masks other before
  whole := secured.whole

theorem secured_of_turn
    (placed : Placed scheduler) (aligned : Aligned machine scheduler)
    (secured : Secured machine scheduler)
    (served : Served machine scheduler event)
    (turn : Turn scheduler event next) :
    Secured machine next := by
  have passed {position : Nat} {reactor : Reactor} (place : Place) :
      Secured machine (passing position reactor place scheduler) :=
    secured.congr rfl (fun _ => rfl) rfl rfl
  cases turn with
  | passed here => exact passed _
  | took here => exact secured.congr rfl (fun _ => rfl) rfl rfl
  | freed here => exact secured.congr rfl (fun _ => rfl) rfl rfl
  | moved here polls asked found =>
      have holds := (congrArg Place.holding polls).trans rfl
      exact (passed .test).placing (placed.sparse_passing here rfl)
        (placed.known here holds) (placed.absent_passing here holds rfl)
  | mislaid here polls asked found =>
      have holds := (congrArg Place.holding polls).trans rfl
      exact absurd found
        ((aligned.passing here .test).reactorFor_ne_none
          (secured.masks _ (placed.known here holds)))
  | kept here polls content =>
      have holds := (congrArg Place.holding polls).trans rfl
      exact (passed .test).enqueue (placed.sparse_passing here rfl)
        (placed.known here holds) (placed.absent_passing here holds rfl)
  | freedLate here => exact secured.congr rfl (fun _ => rfl) rfl rfl
  | keptLate here drains =>
      have holds := (congrArg Place.holding drains).trans rfl
      exact (passed .drain).enqueue (placed.sparse_passing here rfl)
        (placed.known here holds) (placed.absent_passing here holds rfl)
  | made found =>
      exact (secured.making served).placing (placed.sparse_making _)
        (Nat.lt_succ_self _) fun _ _ here => placed.fresh here
  | @refused after cpumask found =>
      have grown : Aligned machine (making cpumask scheduler) :=
        aligned.congr rfl aligned.aimed
      refine absurd found (grown.reactorFor_ne_none ?_)
      exact (secured.making served).masks _ (Nat.lt_succ_self _)
  | @masked position thread cpumask event runs cause =>
      rcases cause with rfl | ⟨rfl, same⟩
      · exact secured.masked served
      · refine secured.masked ?_
        rw [same]
        exact aligned.migrationCore position
  | settled runs =>
      exact secured.congr rfl (cpumask_setThread rfl) rfl rfl
  | told => exact secured.congr rfl (fun _ => rfl) rfl rfl

/-! ## Every run -/

theorem secured_of_reaches
    (reached : Reaches machine (Served machine) scheduler) :
    Secured machine scheduler := by
  have all :=
    reached.preserves
      (fun state =>
        Placed state ∧ Aligned machine state ∧ Secured machine state)
      ⟨placed_booted machine, aligned_booted machine,
        secured_booted machine⟩
      fun _ _ _ holds served turn =>
        ⟨placed_of_turn holds.1 turn, aligned_of_turn holds.2.1 turn,
          secured_of_turn holds.1 holds.2.1 holds.2.2 served turn⟩
  exact all.2.2

theorem Placed.perm (placed : Placed scheduler) :
    (everywhere scheduler).Perm (List.range scheduler.created) := by
  rw [List.perm_iff_count]
  intro thread
  rw [placed thread, List.count_range]

/--
In every interleaving each thread made so far is in exactly one place: in one
ring, with one reactor, destroyed, refused or lost.  When every mask has the
core of a reactor and no more threads are ever made than a ring holds, none is
refused and none is lost.
-/
theorem every_thread_is_in_one_place
    (reached : Reaches machine Unrestricted scheduler) :
    (held scheduler ++ scheduler.destroyed ++ scheduler.refused ++
        scheduler.lost).Perm (List.range scheduler.created) ∧
      (Reaches machine (Served machine) scheduler →
        scheduler.created ≤ 1023 →
          (held scheduler ++ scheduler.destroyed).Perm
            (List.range scheduler.created)) := by
  have placed := placed_of_reaches reached
  refine ⟨placed.perm, fun served few => ?_⟩
  rcases (secured_of_reaches served).whole few with ⟨lost, refused⟩
  have whole := placed.perm
  rw [everywhere, lost, refused, List.append_nil, List.append_nil] at whole
  exact whole

theorem every_thread_is_in_one_place_twoCores :
    ∃ scheduler,
      Reaches twoCores Unrestricted scheduler ∧ scheduler.created = 2 ∧
        (held scheduler ++ scheduler.destroyed).Perm
          (List.range scheduler.created) := by
  have ran :
      ∃ scheduler,
        Reaches twoCores (Served twoCores) scheduler ∧
          scheduler.created = 2 :=
    exists_reaches (fun scheduler => scheduler.created = 2)
      [.create [0], .create [1], .reactor 0, .setCpumask 0 [1],
        .reactor 0] (by decide)
  rcases ran with ⟨scheduler, reached, two⟩
  have free : Reaches twoCores Unrestricted scheduler :=
    Run.relax reached fun _ _ _ => True.intro
  exact ⟨scheduler, free, two,
    (every_thread_is_in_one_place free).2 reached (by omega)⟩

end ZnsBench.Nvmf.ReactorScheduler

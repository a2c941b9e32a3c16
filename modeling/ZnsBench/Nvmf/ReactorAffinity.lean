import ZnsBench.Nvmf.ReactorPlacement

/-!
# Threads on the cores they ask for

A thread asks for cores with its mask.  It is put on a reactor whose core is
in the mask, and when it changes the mask it is moved after the poll it does
so in.  Only the second loop of a reactor, which ends the threads that are
left, no longer moves them.
-/

namespace ZnsBench.Nvmf.ReactorScheduler

open ZnsBench.Core.GuardedRun ZnsBench.Core.Exchange

variable {machine : Machine} {scheduler next : Scheduler} {event : Event}

/-! ## The row of reactors -/

/-- The reactors stay where they are and the next one is among them. -/
structure Aligned (machine : Machine) (scheduler : Scheduler) : Prop where
  cores : scheduler.reactors.map Reactor.core = machine.cores
  aimed : scheduler.nextReactor.getD 0 < machine.cores.length

theorem Aligned.length_eq (aligned : Aligned machine scheduler) :
    scheduler.reactors.length = machine.cores.length := by
  rw [← aligned.cores, List.length_map]

theorem map_core_set
    {reactors : List Reactor} {position : Nat} {old new : Reactor}
    (here : reactors[position]? = some old) (core : new.core = old.core) :
    (reactors.set position new).map Reactor.core =
      reactors.map Reactor.core := by
  rw [List.map_set, core]
  refine List.ext_getElem? fun index => ?_
  rw [List.getElem?_set]
  split
  · rename_i same
    subst same
    have inside := (List.getElem?_eq_some_iff.mp here).1
    rw [List.length_map, if_pos inside, List.getElem?_map, here]
    rfl
  · rfl

theorem Aligned.setReactor
    (aligned : Aligned machine scheduler)
    {position : Nat} {old new : Reactor}
    (here : scheduler.reactors[position]? = some old)
    (core : new.core = old.core) :
    Aligned machine (setReactor position new scheduler) where
  cores := (map_core_set here core).trans aligned.cores
  aimed := aligned.aimed

theorem Aligned.enqueue
    (aligned : Aligned machine scheduler) (position thread : Nat) :
    Aligned machine (enqueue position thread scheduler) := by
  rw [ReactorScheduler.enqueue]
  split
  · exact aligned
  · rename_i reactor here
    split
    · exact aligned.setReactor here rfl
    · exact ⟨aligned.cores, aligned.aimed⟩

/-- The reactor after one of the row is one of the row. -/
theorem Aligned.following
    (aligned : Aligned machine scheduler) (position : Nat) :
    (following scheduler.reactors position).getD 0 <
      machine.cores.length := by
  rw [ReactorScheduler.following, aligned.length_eq]
  split
  · assumption
  · exact Nat.zero_lt_of_lt machine.main_lt

theorem findReactor_aimed
    {reactors : List Reactor} {cpumask : List Nat} {left : Nat}
    {start : Option Nat}
    (inside : start.getD 0 < reactors.length) :
    (findReactor reactors cpumask left start).2.getD 0 <
      reactors.length := by
  induction left generalizing start with
  | zero => exact inside
  | succ left induction =>
      have after :
          (following reactors (start.getD 0)).getD 0 <
            reactors.length := by
        rw [following_getD inside]
        exact Nat.mod_lt _ (Nat.zero_lt_of_lt inside)
      rw [findReactor]
      split
      · exact after
      · split
        · exact after
        · exact induction after

theorem Aligned.reactorFor
    (aligned : Aligned machine scheduler) {thread : Nat}
    {chosen after : Option Nat}
    (found : reactorFor thread scheduler = (chosen, after)) :
    after.getD 0 < machine.cores.length := by
  have inside := aligned.aimed
  rw [← aligned.length_eq] at inside ⊢
  have aimed :
      (ReactorScheduler.reactorFor thread scheduler).2.getD 0 <
        scheduler.reactors.length :=
    findReactor_aimed inside
  rw [found] at aimed
  exact aimed

/-- Nothing but the row and the next reactor matters. -/
theorem Aligned.congr
    (aligned : Aligned machine scheduler)
    (reactors : next.reactors = scheduler.reactors)
    (aimed : next.nextReactor.getD 0 < machine.cores.length) :
    Aligned machine next where
  cores := by rw [reactors, aligned.cores]
  aimed := aimed

theorem Aligned.passing
    (aligned : Aligned machine scheduler)
    {position : Nat} {reactor : Reactor}
    (here : scheduler.reactors[position]? = some reactor)
    (place : Place) :
    Aligned machine (passing position reactor place scheduler) :=
  aligned.setReactor here rfl

theorem Aligned.placing
    (aligned : Aligned machine scheduler)
    {thread target : Nat} {after : Option Nat}
    (found :
      ReactorScheduler.reactorFor thread scheduler =
        (some target, after)) :
    Aligned machine (placing thread target after scheduler) := by
  refine Aligned.enqueue ?_ target thread
  exact aligned.congr rfl (aligned.reactorFor found)

theorem aligned_booted (machine : Machine) :
    Aligned machine (booted machine) where
  cores := by
    rw [booted, List.map_map]
    exact List.map_id _
  aimed := machine.main_lt

theorem aligned_of_turn
    (aligned : Aligned machine scheduler)
    (turn : Turn scheduler event next) :
    Aligned machine next := by
  cases turn with
  | passed here => exact aligned.setReactor here rfl
  | took here => exact aligned.setReactor here rfl
  | freed here => exact (aligned.passing here .test).congr rfl aligned.aimed
  | moved here polls asked found =>
      exact (aligned.passing here .test).placing found
  | mislaid here polls asked found =>
      have passed := aligned.passing here .test
      exact passed.congr rfl (passed.reactorFor found)
  | kept here => exact (aligned.passing here .test).enqueue _ _
  | @freedLate _ _ rest reactor here =>
      have shorter : Aligned machine _ :=
        aligned.setReactor here
          (show ({ reactor with threads := rest } : Reactor).core =
            reactor.core from rfl)
      exact shorter.congr rfl aligned.aimed
  | keptLate here => exact (aligned.passing here .drain).enqueue _ _
  | @made _ _ cpumask found =>
      have grown : Aligned machine (making cpumask scheduler) :=
        aligned.congr rfl aligned.aimed
      exact grown.placing found
  | @refused _ cpumask found =>
      have grown : Aligned machine (making cpumask scheduler) :=
        aligned.congr rfl aligned.aimed
      exact grown.congr rfl (grown.reactorFor found)
  | masked => exact aligned.congr rfl aligned.aimed
  | settled => exact aligned.congr rfl aligned.aimed
  | told => exact aligned.congr rfl aligned.aimed

/-! ## Masks -/

/-- The threads of a reactor are where they asked to be. -/
structure Suits (memory : Nat → LwThread) (reactor : Reactor) : Prop where
  ring :
    ∀ thread ∈ reactor.threads,
      reactor.core ∈ (memory thread).cpumask ∧
          (memory thread).resched = false ∨
        reactor.place.late = true ∧
          (reactor.core ∈ (memory thread).cpumask ∨
            (memory thread).resched = true)
  hand :
    ∀ thread, reactor.place.holding = some thread →
      reactor.core ∈ (memory thread).cpumask ∨
        (memory thread).resched = true

/-- Every reactor of the row suits its threads. -/
def Suited (scheduler : Scheduler) : Prop :=
  ∀ (index : Nat) (reactor : Reactor),
    scheduler.reactors[index]? = some reactor →
      Suits scheduler.lwThread reactor

/-- What other threads write does not matter. -/
theorem Suits.update
    {memory : Nat → LwThread} {reactor : Reactor}
    (suits : Suits memory reactor)
    {thread : Nat} (absent : thread ∉ reactor.holds) (value : LwThread) :
    Suits (Function.update memory thread value) reactor where
  ring := by
    intro other member
    have apart : other ≠ thread := fun same =>
      absent (List.mem_append_left _ (same ▸ member))
    rw [Function.update_of_ne apart]
    exact suits.ring other member
  hand := by
    intro other holds
    have apart : other ≠ thread := fun same =>
      absent (List.mem_append_right _ (by rw [holds, same]; simp))
    rw [Function.update_of_ne apart]
    exact suits.hand other holds

/-- One reactor of the row is replaced by one that suits. -/
theorem Suited.setReactor
    (suited : Suited scheduler) {position : Nat} {new : Reactor}
    (suits : Suits scheduler.lwThread new) :
    Suited (setReactor position new scheduler) :=
  forall_mem_set suited fun _ => suits

theorem Suits.enqueued
    {memory : Nat → LwThread} {reactor : Reactor}
    (suits : Suits memory reactor) {thread : Nat}
    (fits :
      reactor.core ∈ (memory thread).cpumask ∧
          (memory thread).resched = false ∨
        reactor.place.late = true ∧
          (reactor.core ∈ (memory thread).cpumask ∨
            (memory thread).resched = true)) :
    Suits memory
      { reactor with threads := reactor.threads ++ [thread] } where
  ring := by
    intro other member
    rcases List.mem_append.mp member with earlier | last
    · exact suits.ring other earlier
    · rw [List.mem_singleton.mp last]
      exact fits
  hand := suits.hand

theorem Suited.enqueue
    (suited : Suited scheduler) {position thread : Nat}
    (fits :
      ∀ reactor, scheduler.reactors[position]? = some reactor →
        reactor.core ∈ (scheduler.lwThread thread).cpumask ∧
            (scheduler.lwThread thread).resched = false ∨
          reactor.place.late = true ∧
            (reactor.core ∈ (scheduler.lwThread thread).cpumask ∨
              (scheduler.lwThread thread).resched = true)) :
    Suited (enqueue position thread scheduler) := by
  rw [ReactorScheduler.enqueue]
  split
  · exact suited
  · rename_i reactor here
    split
    · exact suited.setReactor
        ((suited position reactor here).enqueued (fits reactor here))
    · exact suited

/-- A thread that nobody has gets its reactor. -/
theorem Suited.placing
    (suited : Suited scheduler) {thread target : Nat}
    {after : Option Nat}
    (absent :
      ∀ (index : Nat) (reactor : Reactor),
        scheduler.reactors[index]? = some reactor →
          thread ∉ reactor.holds)
    (found : reactorFor thread scheduler = (some target, after)) :
    Suited (placing thread target after scheduler) := by
  rcases (findReactor_some found).1 with ⟨chosen, there, core⟩
  refine Suited.enqueue ?_ ?_
  · intro index reactor here
    exact (suited index reactor here).update (absent index reactor here) _
  · intro reactor here
    have same : some reactor = some chosen := here.symm.trans there
    cases same
    refine Or.inl ⟨?_, ?_⟩
    · simp only [setThread, Function.update_self]
      exact core
    · simp only [setThread, Function.update_self]

/-- A reactor that has let its thread go suits the others. -/
theorem Suits.passing
    {memory : Nat → LwThread} {reactor : Reactor}
    (suits : Suits memory reactor)
    {place : Place} (after : place.holding = none)
    (stays : reactor.place.late = true → place.late = true) :
    Suits memory { reactor with place := place } where
  ring := by
    intro thread member
    exact (suits.ring thread member).imp_right fun late =>
      ⟨stays late.1, late.2⟩
  hand := by
    intro thread holds
    cases after.symm.trans holds

theorem reactor_passing
    {position : Nat} {reactor : Reactor}
    (here : scheduler.reactors[position]? = some reactor)
    (place : Place) :
    (passing position reactor place scheduler).reactors[position]? =
      some { reactor with place := place } :=
  List.getElem?_set_self (List.getElem?_eq_some_iff.mp here).1

/-- Nobody has the thread that a reactor has let go. -/
theorem Placed.absent_passing
    (placed : Placed scheduler)
    {position thread : Nat} {reactor : Reactor}
    (here : scheduler.reactors[position]? = some reactor)
    (holds : reactor.place.holding = some thread)
    {place : Place} (after : place.holding = none) :
    ∀ (index : Nat) (other : Reactor),
      (passing position reactor place scheduler).reactors[index]? =
          some other →
        thread ∉ other.holds := by
  rcases placed.elsewhere here holds with ⟨ring, others⟩
  intro index other there
  by_cases same : index = position
  · rw [same, reactor_passing here place] at there
    cases there
    rw [Reactor.holds, after, Option.toList_none, List.append_nil]
    exact ring
  · refine others index other same ?_
    rw [← there]
    exact (List.getElem?_set_ne (Ne.symm same)).symm

/-- A thread writes its own memory while it runs. -/
theorem Suited.running
    (suited : Suited scheduler) (placed : Placed scheduler)
    {position thread : Nat}
    (runs : runningOn position scheduler = some thread)
    {value : LwThread}
    (fits :
      ∀ core, core ∈ (scheduler.lwThread thread).cpumask ∨
          (scheduler.lwThread thread).resched = true →
        core ∈ value.cpumask ∨ value.resched = true) :
    Suited (setThread thread value scheduler) := by
  rcases Option.bind_eq_some_iff.mp runs with ⟨runner, there, holds⟩
  rcases placed.elsewhere there holds with ⟨ring, others⟩
  intro index reactor here
  by_cases same : index = position
  · rw [same] at here
    have found : some runner = some reactor := there.symm.trans here
    cases found
    have suits := suited position runner there
    constructor
    · intro other member
      have apart : other ≠ thread := fun equal => ring (equal ▸ member)
      simp only [setThread, Function.update_of_ne apart]
      exact suits.ring other member
    · intro other mine
      have equal : other = thread :=
        Option.some.inj (mine.symm.trans holds)
      subst equal
      simp only [setThread, Function.update_self]
      exact fits _ (suits.hand other holds)
  · exact (suited index reactor here).update
      (others index reactor same here) value

theorem suited_booted (machine : Machine) : Suited (booted machine) := by
  intro index reactor here
  rcases List.mem_map.mp (List.mem_of_getElem? here) with ⟨core, _, rfl⟩
  constructor
  · intro thread member
    cases member
  · intro thread holds
    cases holds

theorem suited_of_turn
    (placed : Placed scheduler) (suited : Suited scheduler)
    (turn : Turn scheduler event next) :
    Suited next := by
  cases turn with
  | passed here idle after drained stays leaves =>
      exact suited.setReactor ((suited _ _ here).passing after stays)
  | @took position thread rest reactor place here ring loop =>
      have suits := suited _ _ here
      refine suited.setReactor ⟨?_, ?_⟩
      · intro other member
        have before :=
          suits.ring other (by rw [ring]; exact List.mem_cons_of_mem _ member)
        rcases loop with ⟨first, taken⟩ | ⟨first, taken⟩
        · rw [first] at before
          exact before.imp_right fun late => absurd late.1 (by decide)
        · rw [taken]
          exact before.imp_right fun late => ⟨rfl, late.2⟩
      · intro other mine
        have equal : other = thread := by
          rcases loop with ⟨_, taken⟩ | ⟨_, taken⟩
          · rw [taken] at mine
            exact (Option.some.inj mine).symm
          · rw [taken] at mine
            exact (Option.some.inj mine).symm
        rw [equal]
        rcases suits.ring thread (by rw [ring]; exact List.mem_cons_self)
          with early | late
        · exact Or.inl early.1
        · exact late.2
  | freed here polls =>
      refine suited.setReactor ((suited _ _ here).passing rfl ?_)
      rw [polls]
      exact fun late => late
  | moved here polls asked found =>
      refine Suited.placing ?_ ?_ found
      · refine suited.setReactor ((suited _ _ here).passing rfl ?_)
        rw [polls]
        exact fun late => late
      · exact placed.absent_passing here (by rw [polls]; rfl) rfl
  | @mislaid position thread after reactor here polls asked found =>
      have passed : Suited (passing position reactor .test scheduler) := by
        refine suited.setReactor ((suited _ _ here).passing rfl ?_)
        rw [polls]
        exact fun late => late
      intro index other there
      refine (passed index other there).update ?_ _
      exact placed.absent_passing here (by rw [polls]; rfl) rfl index other
        there
  | @kept position thread reactor here polls content =>
      have holds : reactor.place.holding = some thread := by
        rw [polls]
        rfl
      refine Suited.enqueue ?_ ?_
      · refine suited.setReactor ((suited _ _ here).passing rfl ?_)
        rw [polls]
        exact fun late => late
      · intro other there
        rw [reactor_passing here .test] at there
        cases there
        refine Or.inl ⟨?_, content⟩
        refine ((suited _ _ here).hand thread holds).resolve_right ?_
        rw [content]
        exact Bool.false_ne_true
  | @freedLate position thread rest reactor here drains ring =>
      have suits := suited _ _ here
      refine suited.setReactor ⟨?_, suits.hand⟩
      intro other member
      exact suits.ring other
        (by rw [ring]; exact List.mem_cons_of_mem _ member)
  | @keptLate position thread reactor here drains =>
      have holds : reactor.place.holding = some thread := by
        rw [drains]
        rfl
      refine Suited.enqueue ?_ ?_
      · exact suited.setReactor ((suited _ _ here).passing rfl fun _ => rfl)
      · intro other there
        rw [reactor_passing here .drain] at there
        cases there
        exact Or.inr ⟨rfl, (suited _ _ here).hand thread holds⟩
  | made found =>
      refine Suited.placing ?_ (fun _ _ here => placed.fresh here) found
      intro index reactor here
      exact (suited index reactor here).update (placed.fresh here) _
  | refused found =>
      intro index reactor here
      refine Suits.update ?_ (placed.fresh here) _
      exact (suited index reactor here).update (placed.fresh here) _
  | masked runs cause =>
      exact suited.running placed runs fun _ _ => Or.inr rfl
  | settled runs =>
      exact suited.running placed runs fun _ before => before
  | told => exact suited

theorem suited_of_reaches
    {allowed : Scheduler → Event → Prop}
    (reached : Reaches machine allowed scheduler) :
    Suited scheduler := by
  have both :=
    reached.preserves (fun state => Placed state ∧ Suited state)
      ⟨placed_booted machine, suited_booted machine⟩
      fun _ _ _ holds _ turn =>
        ⟨placed_of_turn holds.1 turn, suited_of_turn holds.1 holds.2 turn⟩
  exact both.2

/--
In every interleaving the threads in the ring of a reactor in its first loop
ask for its core and for no move; and a thread that a reactor polls asks for
its core or has asked to be moved since the poll began.
-/
theorem threads_run_where_they_ask
    (reached : Reaches machine Unrestricted scheduler) :
    ∀ reactor ∈ scheduler.reactors,
      (reactor.place.late = false →
        ∀ thread ∈ reactor.threads,
          reactor.core ∈ (scheduler.lwThread thread).cpumask ∧
            (scheduler.lwThread thread).resched = false) ∧
        ∀ thread, reactor.place = .polling thread →
          reactor.core ∈ (scheduler.lwThread thread).cpumask ∨
            (scheduler.lwThread thread).resched = true := by
  intro reactor member
  rcases List.mem_iff_getElem?.mp member with ⟨index, here⟩
  have suits := suited_of_reaches reached index reactor here
  constructor
  · intro early thread inside
    refine (suits.ring thread inside).resolve_right fun late => ?_
    exact Bool.false_ne_true (early.symm.trans late.1)
  · intro thread polls
    refine suits.hand thread ?_
    rw [polls]
    rfl

/-- A machine with two cores. -/
def twoCores : Machine where
  cores := [0, 1]
  main := 0
  main_lt := by decide
  cores_sorted := by decide

/-- A thread of core 0 is polled there. -/
theorem threads_run_where_they_ask_twoCores :
    ∃ scheduler, ∃ reactor ∈ scheduler.reactors,
      Reaches twoCores Unrestricted scheduler ∧
        reactor.place = .polling 0 ∧
        (reactor.core ∈ (scheduler.lwThread 0).cpumask ∨
          (scheduler.lwThread 0).resched = true) := by
  have ran :
      ∃ scheduler,
        Reaches twoCores Unrestricted scheduler ∧
          ∃ reactor ∈ scheduler.reactors, reactor.place = .polling 0 :=
    exists_reaches
      (fun scheduler =>
        ∃ reactor ∈ scheduler.reactors, reactor.place = .polling 0)
      [.create [0], .reactor 0, .setCpumask 0 [1]] (by decide)
  rcases ran with ⟨scheduler, reached, reactor, member, polls⟩
  exact ⟨scheduler, reactor, member, reached, polls,
    (threads_run_where_they_ask reached reactor member).2 0 polls⟩

end ZnsBench.Nvmf.ReactorScheduler

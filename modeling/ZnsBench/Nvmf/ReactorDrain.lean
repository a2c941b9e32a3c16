import ZnsBench.Nvmf.ReactorConservation

/-!
# What is left when the reactors have returned

Once `g_reactors_exit` is set a reactor ends the threads in its ring and
returns.  Another one may still be in its first loop, and a thread it moves
or makes then may come to a reactor that has returned.  Where no thread is
moved or made after the flag is set, every thread is destroyed.
-/

namespace ZnsBench.Nvmf.ReactorScheduler

open ZnsBench.Core.GuardedRun ZnsBench.Core.Exchange

variable {machine : Machine} {scheduler next : Scheduler} {event : Event}

/-- The thread that a reactor polls in its first loop. -/
def pollingOn (position : Nat) (scheduler : Scheduler) : Option Nat :=
  scheduler.reactors[position]?.bind fun reactor =>
    match reactor.place with
    | .polling thread => some thread
    | _ => none

/-- No thread is made or moved once the reactors have been told to exit. -/
def SchedulesEarly (scheduler : Scheduler) : Event → Prop
  | .create _ => scheduler.reactorsExit = false
  | .reactor position =>
      scheduler.reactorsExit = true →
        ∀ thread ∈ pollingOn position scheduler,
          (scheduler.lwThread thread).resched = false
  | _ => True

instance (scheduler : Scheduler) :
    DecidablePred (SchedulesEarly scheduler)
  | .create _ => inferInstanceAs (Decidable (_ = _))
  | .reactor _ => inferInstanceAs (Decidable (_ → ∀ _ ∈ _, _))
  | .setCpumask _ _ => isTrue True.intro
  | .migrate _ => isTrue True.intro
  | .settle _ _ _ => isTrue True.intro
  | .exit => isTrue True.intro

/-- A reactor past its first loop was told, and one that returned is empty. -/
structure Ended (told : Bool) (reactor : Reactor) : Prop where
  told : reactor.place.late = true → told = true
  empty : reactor.place = .returned → reactor.threads = []

/-- Every reactor that has ended has left its ring empty. -/
def EndsEmpty (scheduler : Scheduler) : Prop :=
  ∀ (index : Nat) (reactor : Reactor),
    scheduler.reactors[index]? = some reactor →
      Ended scheduler.reactorsExit reactor

theorem endsEmpty_booted (machine : Machine) :
    EndsEmpty (booted machine) := by
  intro index reactor here
  rcases List.mem_map.mp (List.mem_of_getElem? here) with ⟨core, _, rfl⟩
  constructor
  · intro late
    cases late
  · intro returned
    cases returned

theorem EndsEmpty.setReactor
    (ends : EndsEmpty scheduler) {position : Nat} {new : Reactor}
    (ended : Ended scheduler.reactorsExit new) :
    EndsEmpty (setReactor position new scheduler) :=
  forall_mem_set ends fun _ => ended

theorem EndsEmpty.enqueue
    (ends : EndsEmpty scheduler) {position thread : Nat}
    (accepts :
      ∀ reactor : Reactor,
        scheduler.reactors[position]? = some reactor →
          reactor.place ≠ .returned) :
    EndsEmpty (enqueue position thread scheduler) := by
  rw [ReactorScheduler.enqueue]
  split
  · exact ends
  · rename_i reactor here
    split
    · refine ends.setReactor ⟨(ends position reactor here).told, ?_⟩
      exact fun returned => absurd returned (accepts reactor here)
    · exact ends

/-- Before the flag is set no reactor has returned. -/
theorem EndsEmpty.notReturned_of_early
    (ends : EndsEmpty scheduler)
    (early : scheduler.reactorsExit ≠ true)
    {index : Nat} {reactor : Reactor}
    (here : scheduler.reactors[index]? = some reactor) :
    reactor.place ≠ .returned := by
  intro returned
  refine early ((ends index reactor here).told ?_)
  rw [returned]
  rfl

theorem EndsEmpty.passing
    (ends : EndsEmpty scheduler)
    {position : Nat} {reactor : Reactor} {place : Place}
    (told : place.late = true → scheduler.reactorsExit = true)
    (empty : place = .returned → reactor.threads = []) :
    EndsEmpty (passing position reactor place scheduler) :=
  ends.setReactor ⟨told, empty⟩

theorem endsEmpty_of_turn
    (ends : EndsEmpty scheduler)
    (early : SchedulesEarly scheduler event)
    (turn : Turn scheduler event next) :
    EndsEmpty next := by
  have testing {position : Nat} {reactor : Reactor} :
      EndsEmpty (passing position reactor .test scheduler) :=
    ends.passing (fun late => by cases late) (fun same => by cases same)
  cases turn with
  | passed here before after drained stays leaves =>
      refine ends.passing (fun late => ?_) drained
      exact (leaves late).elim (ends _ _ here).told fun told => told
  | @took position thread rest reactor place here ring loop =>
      refine ends.setReactor ⟨fun late => ?_, fun returned => ?_⟩
      · rcases loop with ⟨_, taken⟩ | ⟨first, _⟩
        · rw [taken] at late
          cases late
        · refine (ends _ _ here).told ?_
          rw [first]
          rfl
      · rcases loop with ⟨_, taken⟩ | ⟨_, taken⟩
        · cases taken.symm.trans returned
        · cases taken.symm.trans returned
  | freed here => exact testing
  | @moved position thread target after reactor here polls asked found =>
      have notTold : scheduler.reactorsExit ≠ true := by
        intro told
        have content := early told thread (by simp [pollingOn, here, polls])
        exact Bool.false_ne_true (content.symm.trans asked)
      refine EndsEmpty.enqueue ?_ ?_
      · exact testing
      · exact fun reactor there => testing.notReturned_of_early notTold there
  | mislaid here => exact testing
  | kept here =>
      refine testing.enqueue fun reactor there => ?_
      rw [reactor_passing here .test] at there
      cases there
      exact fun same => by cases same
  | freedLate here drains ring =>
      refine ends.setReactor ⟨(ends _ _ here).told, fun returned => ?_⟩
      cases drains.symm.trans returned
  | keptLate here drains =>
      refine EndsEmpty.enqueue (ends.passing (fun _ => ?_) ?_) ?_
      · refine (ends _ _ here).told ?_
        rw [drains]
        rfl
      · intro same
        cases same
      · intro reactor there
        rw [reactor_passing here .drain] at there
        cases there
        exact fun same => by cases same
  | made found =>
      have notTold : scheduler.reactorsExit ≠ true :=
        Bool.eq_false_iff.mp early
      refine EndsEmpty.enqueue ?_ ?_
      · exact ends
      · exact fun reactor there => ends.notReturned_of_early notTold there
  | refused found => exact ends
  | masked => exact ends
  | settled => exact ends
  | told =>
      intro index reactor here
      exact ⟨fun _ => rfl, (ends index reactor here).empty⟩

/--
In every interleaving in which no thread is made or moved after the reactors
have been told to exit, none asks for cores without a reactor, and no more
threads are ever made than a ring holds, every thread made has been destroyed
exactly once when all reactors have returned.
-/
theorem all_threads_are_destroyed
    (reached :
      Reaches machine
        (fun state event =>
          Served machine state event ∧ SchedulesEarly state event)
        scheduler)
    (few : scheduler.created ≤ 1023)
    (returned :
      ∀ reactor ∈ scheduler.reactors, reactor.place = .returned) :
    scheduler.destroyed.Perm (List.range scheduler.created) := by
  have ends : EndsEmpty scheduler :=
    reached.preserves EndsEmpty (endsEmpty_booted machine)
      fun _ _ _ holds admitted turn =>
        endsEmpty_of_turn holds admitted.2 turn
  have nothing : held scheduler = [] := by
    refine List.flatMap_eq_nil_iff.mpr fun reactor member => ?_
    rcases List.mem_iff_getElem?.mp member with ⟨index, here⟩
    have last := returned reactor member
    rw [Reactor.holds, (ends index reactor here).empty last, last]
    rfl
  have served : Reaches machine (Served machine) scheduler :=
    Run.relax reached fun _ _ admitted => admitted.1
  rcases (secured_of_reaches served).whole few with ⟨lost, refused⟩
  have whole := (placed_of_reaches reached).perm
  rw [everywhere, nothing, lost, refused, List.append_nil,
    List.append_nil, List.nil_append] at whole
  exact whole

/-- Two threads, one of them moved, and the end of both. -/
def endingEvents : List Event :=
  [.create [0], .create [1], .reactor 0, .setCpumask 0 [1], .reactor 0,
    .exit, .reactor 0, .reactor 0, .reactor 1, .settle 1 true true,
    .reactor 1, .reactor 1, .reactor 1, .settle 1 true true, .reactor 1,
    .reactor 1, .reactor 1]

theorem all_threads_are_destroyed_twoCores :
    ∃ scheduler : Scheduler,
      (∀ reactor ∈ scheduler.reactors, reactor.place = .returned) ∧
        scheduler.created = 2 ∧
        scheduler.destroyed.Perm (List.range scheduler.created) := by
  have ran :
      ∃ scheduler,
        Reaches twoCores
            (fun state event =>
              Served twoCores state event ∧ SchedulesEarly state event)
            scheduler ∧
          scheduler.created = 2 ∧
            ∀ reactor ∈ scheduler.reactors, reactor.place = .returned :=
    exists_reaches
      (fun scheduler =>
        scheduler.created = 2 ∧
          ∀ reactor ∈ scheduler.reactors, reactor.place = .returned)
      endingEvents (by decide)
  rcases ran with ⟨scheduler, reached, two, returned⟩
  exact ⟨scheduler, returned, two,
    all_threads_are_destroyed reached (by omega) returned⟩

-- a thread moved after the flag was set stays in the ring of a reactor
-- that has returned
example :
    (replay step Unrestricted (booted twoCores)
      [.create [0], .reactor 0, .setCpumask 0 [1], .exit, .reactor 1,
        .reactor 1, .reactor 1, .reactor 0, .reactor 0, .reactor 0]).map
        (fun scheduler => scheduler.reactors) =
      some [⟨0, [], .returned⟩, ⟨1, [0], .returned⟩] := by
  decide

end ZnsBench.Nvmf.ReactorScheduler

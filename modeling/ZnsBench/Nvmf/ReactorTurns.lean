import ZnsBench.Nvmf.ReactorScheduler

/-!
# The turns of the reactors

What a step of the scheduler can do is said once, with the guard of every
case.
-/

namespace ZnsBench.Nvmf.ReactorScheduler

variable {scheduler next : Scheduler}

/-! ## Finding a reactor -/

/-- The reactor that is found has a core of the mask. -/
theorem findReactor_some
    {reactors : List Reactor} {cpumask : List Nat} {left : Nat}
    {start after : Option Nat} {position : Nat}
    (found :
      findReactor reactors cpumask left start = (some position, after)) :
    (∃ reactor, reactors[position]? = some reactor ∧
        reactor.core ∈ cpumask) ∧
      after = following reactors position := by
  induction left generalizing start with
  | zero => cases found
  | succ left induction =>
      rw [findReactor] at found
      split at found
      · cases found
      · rename_i reactor here
        split at found
        · rename_i member
          cases found
          exact ⟨⟨reactor, here, member⟩, rfl⟩
        · exact induction found

/-- The position that comes after some turns around the reactors. -/
theorem following_getD
    {reactors : List Reactor} {position : Nat}
    (inside : position < reactors.length) :
    (following reactors position).getD 0 =
      (position + 1) % reactors.length := by
  rw [following]
  split
  · rename_i more
    rw [Nat.mod_eq_of_lt more]
    rfl
  · have last : position + 1 = reactors.length := by omega
    rw [last, Nat.mod_self]
    rfl

/-- Where the loop finds nothing no reactor it looked at was in the mask. -/
theorem findReactor_none
    {reactors : List Reactor} {cpumask : List Nat} {left : Nat}
    {start after : Option Nat}
    (inside : start.getD 0 < reactors.length)
    (found : findReactor reactors cpumask left start = (none, after)) :
    ∀ turn < left, ∀ reactor,
      reactors[(start.getD 0 + turn) % reactors.length]? = some reactor →
        reactor.core ∉ cpumask := by
  induction left generalizing start with
  | zero => exact fun turn before => absurd before (Nat.not_lt_zero turn)
  | succ left induction =>
      rw [findReactor] at found
      split at found
      · rename_i missing
        rw [List.getElem?_eq_none_iff] at missing
        omega
      · rename_i first here
        split at found
        · cases found
        · rename_i outside
          have positive := Nat.zero_lt_of_lt inside
          have later :
              (following reactors (start.getD 0)).getD 0 <
                reactors.length := by
            rw [following_getD inside]
            exact Nat.mod_lt _ positive
          intro turn before reactor there
          cases turn with
          | zero =>
              rw [Nat.add_zero, Nat.mod_eq_of_lt inside, here] at there
              cases there
              exact outside
          | succ turn =>
              refine induction later found turn (by omega) reactor ?_
              rw [following_getD inside, Nat.mod_add_mod]
              rw [show start.getD 0 + 1 + turn =
                start.getD 0 + (turn + 1) by omega]
              exact there

/-- A reactor is found when the mask has the core of one. -/
theorem findReactor_isSome
    {reactors : List Reactor} {cpumask : List Nat}
    {start : Option Nat}
    (inside : start.getD 0 < reactors.length)
    (meets : ∃ reactor ∈ reactors, reactor.core ∈ cpumask) :
    (findReactor reactors cpumask reactors.length start).1 ≠ none := by
  intro missed
  rcases meets with ⟨reactor, member, core⟩
  rcases List.mem_iff_getElem?.mp member with ⟨position, here⟩
  have bound : position < reactors.length :=
    (List.getElem?_eq_some_iff.mp here).1
  -- the turn at which the loop comes to that reactor
  have outside :=
    findReactor_none inside (Prod.ext missed rfl)
      ((position + reactors.length - start.getD 0) % reactors.length)
      (Nat.mod_lt _ (by omega)) reactor
  refine outside ?_ core
  rw [Nat.add_mod_mod,
    show start.getD 0 + (position + reactors.length - start.getD 0) =
      position + reactors.length by omega,
    Nat.add_mod_right, Nat.mod_eq_of_lt bound]
  exact here

/-! ## Turns -/

/-- A thread is put on the reactor that has been found for it. -/
def placing (thread position : Nat) (after : Option Nat)
    (scheduler : Scheduler) : Scheduler :=
  enqueue position thread
    { setThread thread
        { scheduler.lwThread thread with resched := false } scheduler with
      nextReactor := after
      placements := scheduler.placements ++ [(thread, position)] }

/-- No reactor has been found for a thread. -/
def missing (thread : Nat) (after : Option Nat) (scheduler : Scheduler) :
    Scheduler :=
  { setThread thread
      { scheduler.lwThread thread with resched := false } scheduler with
    nextReactor := after }

/-- The reactor that is found for a thread, and the next one. -/
def reactorFor (thread : Nat) (scheduler : Scheduler) :
    Option Nat × Option Nat :=
  findReactor scheduler.reactors (scheduler.lwThread thread).cpumask
    scheduler.reactors.length scheduler.nextReactor

theorem nvmfScheduleSpdkThread_eq (thread : Nat) (scheduler : Scheduler) :
    (∃ position after,
        reactorFor thread scheduler = (some position, after) ∧
        nvmfScheduleSpdkThread thread scheduler =
          (placing thread position after scheduler, true)) ∨
      ∃ after,
        reactorFor thread scheduler = (none, after) ∧
        nvmfScheduleSpdkThread thread scheduler =
          (missing thread after scheduler, false) := by
  cases found : reactorFor thread scheduler with
  | mk chosen after =>
      rw [reactorFor] at found
      cases chosen with
      | none =>
          refine Or.inr ⟨after, rfl, ?_⟩
          simp only [nvmfScheduleSpdkThread, found, missing]
      | some position =>
          refine Or.inl ⟨position, after, rfl, ?_⟩
          simp only [nvmfScheduleSpdkThread, found, placing, setThread]

/-- Clearing the flag twice is clearing it once. -/
theorem nvmfScheduleSpdkThread_cleared
    (thread : Nat) (scheduler : Scheduler) :
    nvmfScheduleSpdkThread thread
        (setThread thread
          { scheduler.lwThread thread with resched := false } scheduler) =
      nvmfScheduleSpdkThread thread scheduler := by
  simp only [nvmfScheduleSpdkThread, setThread, Function.update_self,
    Function.update_idem]

/-- A new thread with its mask. -/
def making (cpumask : List Nat) (scheduler : Scheduler) : Scheduler :=
  setThread scheduler.created ⟨cpumask, false, false, false⟩
    { scheduler with created := scheduler.created + 1 }

/-- The reactor at a position goes on without a thread. -/
def passing (position : Nat) (reactor : Reactor) (place : Place)
    (scheduler : Scheduler) : Scheduler :=
  setReactor position { reactor with place := place } scheduler

/-- The reactor is past its first loop. -/
def Place.late : Place → Bool
  | .drain => true
  | .draining _ => true
  | .returned => true
  | _ => false

/-- The steps of the scheduler. -/
inductive Turn (scheduler : Scheduler) : Event → Scheduler → Prop where
  | passed {position : Nat} {reactor : Reactor} {place : Place}
      (here : scheduler.reactors[position]? = some reactor)
      (before : reactor.place.holding = none)
      (after : place.holding = none)
      (drained : place = .returned → reactor.threads = [])
      (stays : reactor.place.late = true → place.late = true)
      (leaves :
        place.late = true →
          reactor.place.late = true ∨ scheduler.reactorsExit = true) :
      Turn scheduler (.reactor position)
        (passing position reactor place scheduler)
  | took {position thread : Nat} {rest : List Nat} {reactor : Reactor}
      {place : Place}
      (here : scheduler.reactors[position]? = some reactor)
      (ring : reactor.threads = thread :: rest)
      (loop :
        reactor.place = .top ∧ place = .polling thread ∨
          reactor.place = .drain ∧ place = .draining thread) :
      Turn scheduler (.reactor position)
        (setReactor position
          { reactor with threads := rest, place := place } scheduler)
  | freed {position thread : Nat} {reactor : Reactor}
      (here : scheduler.reactors[position]? = some reactor)
      (polls : reactor.place = .polling thread) :
      Turn scheduler (.reactor position)
        { passing position reactor .test scheduler with
          destroyed := scheduler.destroyed ++ [thread] }
  | moved {position thread target : Nat} {after : Option Nat}
      {reactor : Reactor}
      (here : scheduler.reactors[position]? = some reactor)
      (polls : reactor.place = .polling thread)
      (asked : (scheduler.lwThread thread).resched = true)
      (found :
        reactorFor thread (passing position reactor .test scheduler) =
          (some target, after)) :
      Turn scheduler (.reactor position)
        (placing thread target after
          (passing position reactor .test scheduler))
  | mislaid {position thread : Nat} {after : Option Nat}
      {reactor : Reactor}
      (here : scheduler.reactors[position]? = some reactor)
      (polls : reactor.place = .polling thread)
      (asked : (scheduler.lwThread thread).resched = true)
      (found :
        reactorFor thread (passing position reactor .test scheduler) =
          (none, after)) :
      Turn scheduler (.reactor position)
        { missing thread after
            (passing position reactor .test scheduler) with
          lost := scheduler.lost ++ [thread] }
  | kept {position thread : Nat} {reactor : Reactor}
      (here : scheduler.reactors[position]? = some reactor)
      (polls : reactor.place = .polling thread)
      (content : (scheduler.lwThread thread).resched = false) :
      Turn scheduler (.reactor position)
        (enqueue position thread
          (passing position reactor .test scheduler))
  | freedLate {position thread : Nat} {rest : List Nat}
      {reactor : Reactor}
      (here : scheduler.reactors[position]? = some reactor)
      (drains : reactor.place = .drain)
      (ring : reactor.threads = thread :: rest) :
      Turn scheduler (.reactor position)
        { setReactor position { reactor with threads := rest }
            scheduler with
          destroyed := scheduler.destroyed ++ [thread] }
  | keptLate {position thread : Nat} {reactor : Reactor}
      (here : scheduler.reactors[position]? = some reactor)
      (drains : reactor.place = .draining thread) :
      Turn scheduler (.reactor position)
        (enqueue position thread
          (passing position reactor .drain scheduler))
  | made {target : Nat} {after : Option Nat} {cpumask : List Nat}
      (found :
        reactorFor scheduler.created (making cpumask scheduler) =
          (some target, after)) :
      Turn scheduler (.create cpumask)
        (placing scheduler.created target after
          (making cpumask scheduler))
  | refused {after : Option Nat} {cpumask : List Nat}
      (found :
        reactorFor scheduler.created (making cpumask scheduler) =
          (none, after)) :
      Turn scheduler (.create cpumask)
        { missing scheduler.created after (making cpumask scheduler) with
          refused := scheduler.refused ++ [scheduler.created] }
  | masked {position thread : Nat} {cpumask : List Nat} {event : Event}
      (runs : runningOn position scheduler = some thread)
      (cause :
        event = .setCpumask position cpumask ∨
          event = .migrate position ∧
            cpumask =
              (migrationCore scheduler.reactors position).toList) :
      Turn scheduler event
        (setThread thread
          { scheduler.lwThread thread with
            cpumask := cpumask, resched := true } scheduler)
  | settled {position thread : Nat} {exited idle : Bool}
      (runs : runningOn position scheduler = some thread) :
      Turn scheduler (.settle position exited idle)
        (setThread thread
          { scheduler.lwThread thread with exited := exited, idle := idle }
          scheduler)
  | told :
      Turn scheduler .exit { scheduler with reactorsExit := true }

theorem spdkThreadSetCpumask_eq
    (thread : Nat) (cpumask : List Nat) (scheduler : Scheduler) :
    spdkThreadSetCpumask thread cpumask scheduler =
      setThread thread
        { scheduler.lwThread thread with
          cpumask := cpumask, resched := true } scheduler := by
  simp only [spdkThreadSetCpumask, nvmfReactorThreadOp,
    nvmfRequestSpdkThreadReschedule, setThread, Function.update_self,
    Function.update_idem]

theorem turn_of_polling
    {position thread : Nat} {reactor : Reactor}
    (here : scheduler.reactors[position]? = some reactor)
    (polls : reactor.place = .polling thread) :
    Turn scheduler (.reactor position)
      (afterPoll position thread
        (passing position reactor .test scheduler)) := by
  rw [afterPoll]
  split
  · exact .freed here polls
  · split
    · rename_i asked
      have asked : (scheduler.lwThread thread).resched = true := asked
      rw [nvmfScheduleSpdkThread_cleared]
      rcases nvmfScheduleSpdkThread_eq thread
          (passing position reactor .test scheduler) with
        ⟨target, after, found, placed⟩ | ⟨after, found, missed⟩
      · rw [placed]
        exact .moved here polls asked found
      · rw [missed]
        exact .mislaid here polls asked found
    · rename_i content
      exact .kept here polls (Bool.eq_false_iff.mpr content)

theorem turn_of_reactor
    {position : Nat}
    (taken : nvmfReactorRun position scheduler = some next) :
    Turn scheduler (.reactor position) next := by
  rw [nvmfReactorRun] at taken
  rcases Option.bind_eq_some_iff.mp taken with ⟨reactor, here, taken⟩
  cases place : reactor.place with
  | top =>
      rw [place] at taken
      cases ring : reactor.threads with
      | nil =>
          rw [ring] at taken
          cases taken
          rw [← ring]
          refine .passed here ?_ rfl ?_ ?_ ?_
          · rw [place]
            rfl
          · intro same
            cases same
          · rw [place]
            exact fun late => late
          · intro late
            cases late
      | cons thread rest =>
          rw [ring] at taken
          cases taken
          exact .took here ring (Or.inl ⟨place, rfl⟩)
  | polling thread =>
      rw [place] at taken
      cases taken
      exact turn_of_polling here place
  | test =>
      rw [place] at taken
      cases taken
      refine .passed here ?_ ?_ ?_ ?_ ?_
      · rw [place]
        rfl
      · split <;> rfl
      · intro same
        split at same
        · cases same
        · cases same
      · rw [place]
        intro late
        cases late
      · intro late
        split at late
        · rename_i told
          exact Or.inr told
        · cases late
  | drain =>
      rw [place] at taken
      cases ring : reactor.threads with
      | nil =>
          rw [ring] at taken
          cases taken
          rw [← ring]
          refine .passed here ?_ rfl (fun _ => ring) (fun _ => rfl) ?_
          · rw [place]
            rfl
          · rw [place]
            exact fun _ => Or.inl rfl
      | cons thread rest =>
          rw [ring] at taken
          simp only at taken
          split at taken
          · cases taken
            rw [← place]
            exact .freedLate here place ring
          · cases taken
            exact .took here ring (Or.inr ⟨place, rfl⟩)
  | draining thread =>
      rw [place] at taken
      cases taken
      exact .keptLate here place
  | returned =>
      rw [place] at taken
      cases taken

theorem turn_of_step
    {event : Event} (taken : step scheduler event = some next) :
    Turn scheduler event next := by
  cases event with
  | reactor position => exact turn_of_reactor taken
  | create cpumask =>
      cases taken
      rw [spdkThreadCreate]
      simp only [nvmfReactorThreadOp]
      rcases nvmfScheduleSpdkThread_eq scheduler.created
          (making cpumask scheduler) with
        ⟨target, after, found, placed⟩ | ⟨after, found, missed⟩
      · rw [making] at placed
        rw [placed]
        exact .made found
      · rw [making] at missed
        rw [missed]
        exact .refused found
  | setCpumask position cpumask =>
      rcases Option.map_eq_some_iff.mp taken with ⟨thread, runs, rfl⟩
      rw [spdkThreadSetCpumask_eq]
      exact .masked runs (Or.inl rfl)
  | migrate position =>
      rcases Option.map_eq_some_iff.mp taken with ⟨thread, runs, rfl⟩
      rw [migratePollGroupByRr, spdkThreadSetCpumask_eq]
      exact .masked runs (Or.inr ⟨rfl, rfl⟩)
  | settle position exited idle =>
      rcases Option.map_eq_some_iff.mp taken with ⟨thread, runs, rfl⟩
      exact .settled runs
  | exit =>
      cases taken
      exact .told

/-- The invariant rule over turns. -/
theorem Reaches.preserves
    {machine : Machine} {allowed : Scheduler → Event → Prop}
    (reached : Reaches machine allowed scheduler)
    (Invariant : Scheduler → Prop)
    (initially : Invariant (booted machine))
    (preserved :
      ∀ state event next, Invariant state → allowed state event →
        Turn state event next → Invariant next) :
    Invariant scheduler :=
  ZnsBench.Core.GuardedRun.Run.preserves reached initially
    fun state event next holds admitted taken =>
      preserved state event next holds admitted (turn_of_step taken)

/-- Events that replay to a state with a property reach one. -/
theorem exists_reaches
    {machine : Machine} {allowed : Scheduler → Event → Prop}
    [∀ state event, Decidable (allowed state event)]
    (Goal : Scheduler → Prop) [DecidablePred Goal] (events : List Event)
    (replayed :
      (ZnsBench.Core.GuardedRun.replay step allowed (booted machine)
        events).any (fun state => decide (Goal state)) = true) :
    ∃ scheduler, Reaches machine allowed scheduler ∧ Goal scheduler :=
  ZnsBench.Core.GuardedRun.Run.exists_of_replay Goal events replayed

end ZnsBench.Nvmf.ReactorScheduler

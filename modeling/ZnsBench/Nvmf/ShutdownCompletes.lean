import Mathlib.Data.Prod.Lex
import ZnsBench.Nvmf.LostRequest

/-!
# When the application can be brought to its end

From a target that has not given up, whose poll groups could all be made so
far and that has not lost the request to shut down, some run in which every
library call succeeds leads to the end; from any other none does.  The run is
found step by step: in every state some event leads to a later state, leaves
less to do in the same one, or puts the shutdown message behind the message
that is waited for.
-/

namespace ZnsBench.Nvmf.TargetLifecycle

open ZnsBench.Core.GuardedRun

variable {config : Config} {target next : Target}

/-! ## The way to the end -/

/-- Subsystems that come after the one a chain waits for. -/
def Pending.following (subsystems : List Nat) : Pending → Nat
  | .start subsystem => (subsystems.filter (subsystem < ·)).length
  | .stop subsystem => (subsystems.filter (subsystem < ·)).length
  | _ => 0

/-- What is left to do in a state. -/
def work (target : Target) : Nat :=
  match target.targetState with
  | .initSubsystem => 2 * launches target + target.pending.length
  | .initPollGroups => 2 * target.groupQueue.length + created target
  | .running =>
      if 0 < shutdowns target then 0
      else if 0 < target.raised then 1
      else if 0 < target.tested then 2
      else 3
  | .finiPollGroups =>
      3 * target.groupQueue.length + 2 * target.pending.length +
        target.initQueue.length
  | _ => (target.pending.map (Pending.following target.subsystems)).sum

theorem work_initSubsystem
    (target : Target)
    (state : target.targetState = .initSubsystem) :
    work target = 2 * launches target + target.pending.length := by
  rw [work, state]

theorem work_initPollGroups
    (target : Target)
    (state : target.targetState = .initPollGroups) :
    work target = 2 * target.groupQueue.length + created target := by
  rw [work, state]

theorem work_running
    (target : Target)
    (state : target.targetState = .running) :
    work target =
      if 0 < shutdowns target then 0
      else if 0 < target.raised then 1
      else if 0 < target.tested then 2
      else 3 := by
  rw [work, state]

theorem work_finiPollGroups
    (target : Target)
    (state : target.targetState = .finiPollGroups) :
    work target =
      3 * target.groupQueue.length + 2 * target.pending.length +
        target.initQueue.length := by
  rw [work, state]

/-- The shutdown messages in front of the first other one. -/
def ahead (target : Target) : Nat :=
  target.initQueue.findIdx (· ≠ .shutdownCb)

/-- How far the end is: by state, by work, by messages put off. -/
def distance (target : Target) : Nat ×ₗ Nat ×ₗ Nat :=
  toLex (8 - target.targetState.rank, toLex (work target, ahead target))

theorem distance_lt_of_later
    (later : target.targetState.rank < next.targetState.rank) :
    distance next < distance target := by
  have last := next.targetState.rank_le
  exact Prod.Lex.toLex_lt_toLex.mpr (Or.inl (by omega))

theorem distance_lt_of_work
    (targetState : next.targetState = target.targetState)
    (less : work next < work target) :
    distance next < distance target := by
  refine Prod.Lex.toLex_lt_toLex.mpr (Or.inr ⟨?_, ?_⟩)
  · rw [targetState]
  · exact Prod.Lex.toLex_lt_toLex.mpr (Or.inl less)

theorem distance_lt_of_ahead
    (targetState : next.targetState = target.targetState)
    (same : work next = work target)
    (less : ahead next < ahead target) :
    distance next < distance target := by
  refine Prod.Lex.toLex_lt_toLex.mpr (Or.inr ⟨?_, ?_⟩)
  · rw [targetState]
  · exact Prod.Lex.toLex_lt_toLex.mpr (Or.inr ⟨same, less⟩)

/-- A state from which the end can still be reached. -/
structure Hopeful (config : Config) (target : Target) : Prop where
  reached : Reachable config target
  failed : target.failed = []
  silent : .appStop ∉ target.log
  awake : ¬ Deaf target

/-- Some event brings the end nearer. -/
def Helped (config : Config) (target : Target) : Prop :=
  ∃ event next,
    Obliged target event ∧ step config target event = some next ∧
      Hopeful config next ∧ distance next < distance target

theorem givesUp_of_reachable (reached : Reachable config target) :
    GivesUp target := by
  have both :=
    reached.preserves (fun state => Phase config state ∧ GivesUp state)
      ⟨phase_initial, givesUp_initial⟩ fun _ _ holds turn =>
        ⟨phase_of_turn holds.1 turn, givesUp_of_turn holds.1 holds.2 turn⟩
  exact both.2

theorem Hopeful.notStranded (hopeful : Hopeful config target) :
    ¬ Stranded target := fun stranded =>
  hopeful.silent ((givesUp_of_reachable hopeful.reached).mpr stranded)

theorem Hopeful.helped
    (hopeful : Hopeful config target) {event : Event}
    (obliged : Obliged target event)
    (taken : step config target event = some next)
    (failed : next.failed = target.failed)
    (kept : next.lost = target.lost)
    (after : ¬ Stranded next)
    (nearer : distance next < distance target) :
    Helped config target := by
  have reached : Reachable config next :=
    .tail hopeful.reached obliged.firstStartsLater taken
  have turn : Turn config False target next :=
    turn_of_step obliged.firstStartsLater (fun never => never.elim) taken
  refine ⟨event, next, obliged, taken, ⟨reached, ?_, ?_, ?_⟩, nearer⟩
  · rw [failed, hopeful.failed]
  · exact fun member => after ((givesUp_of_reachable reached).mp member)
  · exact not_deaf_of_turn (phase_of_reachable hopeful.reached) turn kept
      hopeful.awake

theorem Hopeful.helped_of_initMessage
    (hopeful : Hopeful config target)
    {message : InitMessage} {rest : List InitMessage}
    (queue : target.initQueue = message :: rest)
    (run :
      runInitMessage config obliging (target.dequeued rest) message = next)
    (failed : next.failed = target.failed)
    (kept : next.lost = target.lost)
    (after : ¬ Stranded next)
    (nearer : distance next < distance target) :
    Helped config target := by
  refine hopeful.helped obliged_initMessage ?_ failed kept after nearer
  simp only [step, queue]
  exact congrArg some run

/-- A thread that is about to exit has no message to run. -/
theorem Hopeful.helped_of_groupMessage
    (hopeful : Hopeful config target)
    {pg : Nat} {message : GroupMessage}
    (first : nextGroupMessage target.groupQueue pg = some message)
    (run :
      runGroupMessage obliging pg (target.received pg message) message =
        next)
    (failed : next.failed = target.failed)
    (kept : next.lost = target.lost)
    (after : ¬ Stranded next)
    (nearer : distance next < distance target) :
    Helped config target := by
  have owned := owned_of_reachable hopeful.reached
  have here : pg ∉ target.exiting := fun leaving =>
    owned.silent (Or.inr (Or.inl leaving)) message
      (mem_of_nextGroupMessage first)
  refine hopeful.helped (obliged_groupMessage pg message) ?_ failed kept after
    nearer
  rw [step, if_pos ⟨first, here⟩]
  exact congrArg some run

theorem Hopeful.helped_of_callback
    (hopeful : Hopeful config target)
    {call : Pending} (waiting : call ∈ target.pending)
    (run :
      runCallback config obliging (target.answered call) call = next)
    (failed : next.failed = target.failed)
    (kept : next.lost = target.lost)
    (after : ¬ Stranded next)
    (nearer : distance next < distance target) :
    Helped config target := by
  refine hopeful.helped (obliged_callback call) ?_ failed kept after nearer
  rw [step, if_pos waiting]
  exact congrArg some run

/-! ## One event in each state -/

/-- A queue with a message other than a shutdown request. -/
theorem other_of_pos
    (some :
      0 < launches target ∨ 0 < created target ∨ 0 < gone target) :
    ∃ message ∈ target.initQueue, message ≠ .shutdownCb := by
  rcases some with launched | made | went
  · exact ⟨_, List.count_pos_iff.mp launched, by decide⟩
  · rcases List.countP_pos_iff.mp made with ⟨message, member, tells⟩
    refine ⟨message, member, fun same => ?_⟩
    rw [same] at tells
    exact absurd tells (by decide)
  · exact ⟨_, List.count_pos_iff.mp went, by decide⟩

/-- A shutdown message put off comes behind one that is waited for. -/
theorem ahead_deferred
    {rest : List InitMessage}
    (queue : target.initQueue = .shutdownCb :: rest)
    (other : ∃ message ∈ target.initQueue, message ≠ .shutdownCb) :
    ahead (target.dequeued (rest ++ [.shutdownCb])) < ahead target := by
  have later : ∃ message ∈ rest, message ≠ .shutdownCb := by
    rcases other with ⟨message, member, waited⟩
    rw [queue] at member
    refine ⟨message, ?_, waited⟩
    exact (List.mem_cons.mp member).resolve_left waited
  have inside : rest.findIdx (· ≠ .shutdownCb) < rest.length := by
    rcases later with ⟨message, member, waited⟩
    exact List.findIdx_lt_length_of_exists
      ⟨message, member, decide_eq_true waited⟩
  rw [ahead, ahead, queue, Target.dequeued, List.findIdx_append,
    if_pos inside, List.findIdx_cons]
  simp only [ne_eq, not_true_eq_false, decide_false, cond_false,
    Nat.lt_succ_self]

theorem work_deferred
    {rest : List InitMessage}
    (queue : target.initQueue = .shutdownCb :: rest)
    (early : target.targetState.rank < TargetState.running.rank) :
    work (target.dequeued (rest ++ [.shutdownCb])) = work target := by
  cases state : target.targetState with
  | initSubsystem =>
      rw [work_initSubsystem target state,
        work_initSubsystem (target.dequeued (rest ++ _)) state,
        (sameCensus_deferred queue).launches]
      rfl
  | initPollGroups =>
      rw [work_initPollGroups target state,
        work_initPollGroups (target.dequeued (rest ++ _)) state,
        (sameCensus_deferred queue).created]
      rfl
  | initTarget => simp only [work, Target.dequeued, state]
  | initStartSubsystems => simp only [work, Target.dequeued, state]
  | _ =>
      rw [state] at early
      exact absurd early (by decide)

theorem Hopeful.helped_of_deferred
    (hopeful : Hopeful config target)
    {rest : List InitMessage}
    (queue : target.initQueue = .shutdownCb :: rest)
    (early : target.targetState.rank < TargetState.running.rank)
    (other : ∃ message ∈ target.initQueue, message ≠ .shutdownCb)
    (after :
      ¬ Stranded (target.dequeued (rest ++ [.shutdownCb]))) :
    Helped config target := by
  have run :
      runInitMessage config obliging (target.dequeued rest) .shutdownCb =
        target.dequeued (rest ++ [.shutdownCb]) := by
    rw [runInitMessage, nvmfShutdown]
    exact (if_pos early).trans (if_pos rfl)
  exact hopeful.helped_of_initMessage queue run rfl rfl after
    (distance_lt_of_ahead rfl (work_deferred queue early)
      (ahead_deferred queue other))

theorem Hopeful.helped_of_initSubsystem
    (hopeful : Hopeful config target)
    (state : target.targetState = .initSubsystem) :
    Helped config target := by
  have phase := phase_of_reachable hopeful.reached
  simp only [Phase, state] at phase
  rcases phase with ⟨untouched, under⟩
  rcases under with ⟨launched, idle⟩ | ⟨launched, waiting | idle⟩
  · cases queue : target.initQueue with
    | nil => simp [launches, queue] at launched
    | cons message rest =>
        cases message with
        | appStart =>
            have one := launches_dequeued queue
            rw [if_pos rfl] at one
            refine hopeful.helped_of_initMessage queue
              (nvmfTargetAppStart_eq _) rfl rfl ?_
              (distance_lt_of_work ?_ ?_)
            · exact not_stranded_of_pending
                (List.mem_append_right _ List.mem_cons_self)
            · exact state.symm
            · have none : launches (target.dequeued rest) = 0 := by omega
              rw [work_initSubsystem target state, launched, idle]
              change
                2 * launches (target.dequeued rest) +
                  (target.pending ++ [Pending.subsystemInit]).length < _
              rw [none, idle]
              decide
        | createPollGroupsDone pg =>
            have one := (created_of_queue queue).1
            have none := untouched.created
            omega
        | destroyPollGroupsDone =>
            have one := (gone_of_queue queue).1
            have none := untouched.gone
            omega
        | shutdownCb =>
            refine hopeful.helped_of_deferred queue
              (by rw [state]; decide)
              (other_of_pos (Or.inl (by omega))) ?_
            intro stranded
            have none := stranded.2.1
            rw [(sameCensus_deferred queue).launches] at none
            omega
  · have member : .subsystemInit ∈ target.pending := by
      rw [waiting]
      exact List.mem_cons_self
    have run :
        runCallback config obliging (target.answered .subsystemInit)
            .subsystemInit =
          bringingUp config obliging (target.answered .subsystemInit) := by
      rw [runCallback, nvmfSubsystemInitDone_eq]
    rcases bringingUp_obliging (target.answered .subsystemInit) with
      ⟨raised, failed, kept⟩
    refine hopeful.helped_of_callback member run failed kept
      (not_stranded_of_state ?_) (distance_lt_of_later ?_)
    · rw [raised]
      decide
    · rw [raised, state]
      decide
  · exact absurd ⟨state, launched, idle⟩ hopeful.notStranded

/-- The oldest message of all is the oldest for its thread. -/
theorem nextGroupMessage_head
    {pg : Nat} {message : GroupMessage}
    {rest : List (Nat × GroupMessage)}
    (queue : target.groupQueue = (pg, message) :: rest) :
    nextGroupMessage target.groupQueue pg = some message ∧
      (target.received pg message).groupQueue = rest := by
  constructor
  · simp [nextGroupMessage, queue]
  · simp [Target.received, queue]

/-- Once no subsystem is left the target runs. -/
theorem rank_starting
    (config : Config) (rest : List Nat) (target : Target)
    (early : target.targetState = .initStartSubsystems) :
    (starting config obliging rest target).failed = target.failed ∧
      (starting config obliging rest target).lost = target.lost ∧
      TargetState.initStartSubsystems.rank ≤
        (starting config obliging rest target).targetState.rank := by
  rcases starting_obliging rest target with
    ⟨subsystem, _, _, waits⟩ | ⟨_, runs⟩
  · rw [waits]
    refine ⟨rfl, rfl, ?_⟩
    rw [await_targetState, calling_targetState, early]
  · rw [runs, runningTarget_targetState]
    exact ⟨runningTarget_failed config target,
      (runningTarget_requests config target).lost, by decide⟩

theorem Hopeful.helped_of_created
    (hopeful : Hopeful config target)
    (state : target.targetState = .initPollGroups)
    {pg : Nat} {rest : List InitMessage}
    (queue : target.initQueue = .createPollGroupsDone pg :: rest) :
    Helped config target := by
  by_cases last :
      (target.numPollGroups + 1) % 2 ^ 32 = config.cores.length
  · have run :
        runInitMessage config obliging (target.dequeued rest)
            (.createPollGroupsDone pg) =
          starting config obliging target.subsystems
            ((inserting pg (target.dequeued rest)).moveTo
              .initStartSubsystems) := by
      rw [runInitMessage, nvmfTgtCreatePollGroupsDone]
      refine (if_pos last).trans ?_
      exact advance_initStartSubsystems (fun _ _ => obliging_start _) rfl
    have raised :=
      rank_starting config target.subsystems
        ((inserting pg (target.dequeued rest)).moveTo
          .initStartSubsystems) rfl
    refine hopeful.helped_of_initMessage queue run raised.1 raised.2.1
      (not_stranded_of_state ?_) (distance_lt_of_later ?_)
    · exact lt_of_lt_of_le (show 0 < 3 by decide) raised.2.2
    · rw [state]
      exact lt_of_lt_of_le (show 2 < 3 by decide) raised.2.2
  · have run :
        runInitMessage config obliging (target.dequeued rest)
            (.createPollGroupsDone pg) =
          inserting pg (target.dequeued rest) := by
      rw [runInitMessage, nvmfTgtCreatePollGroupsDone]
      exact if_neg last
    refine hopeful.helped_of_initMessage queue run rfl rfl
      (not_stranded_of_state ?_) (distance_lt_of_work rfl ?_)
    · change 0 < target.targetState.rank
      rw [state]
      decide
    · have one := (created_of_queue queue).1
      have same :
          created (inserting pg (target.dequeued rest)) =
            created (target.dequeued rest) := rfl
      rw [work_initPollGroups target state, one,
        work_initPollGroups (inserting pg (target.dequeued rest)) state,
        same]
      exact Nat.lt_succ_self _

theorem Hopeful.helped_of_initPollGroups
    (hopeful : Hopeful config target)
    (state : target.targetState = .initPollGroups) :
    Helped config target := by
  have phase := phase_of_reachable hopeful.reached
  simp only [Phase, state] at phase
  have gathering := phase.1
  have after {other : Target} (same : other.targetState = target.targetState) :
      ¬ Stranded other := by
    refine not_stranded_of_state ?_
    rw [same, state]
    decide
  cases asked : target.groupQueue with
  | cons entry others =>
      rcases entry with ⟨pg, message⟩
      rcases nextGroupMessage_head asked with ⟨first, left⟩
      have member := mem_of_nextGroupMessage first
      cases message with
      | createPollGroup =>
          have run :
              runGroupMessage obliging pg
                  (target.received pg .createPollGroup) .createPollGroup =
                groupMade pg target := rfl
          refine hopeful.helped_of_groupMessage first run rfl rfl (after rfl)
            (distance_lt_of_work rfl ?_)
          have made : created (groupMade pg target) = created target + 1 := by
            rw [created, created, groupMade, List.countP_append]
            rfl
          have fewer : (groupMade pg target).groupQueue = others := left
          rw [work_initPollGroups target state, asked, List.length_cons,
            work_initPollGroups (groupMade pg target) state, fewer, made]
          omega
      | destroyPollGroup =>
          have one := destroys_received member
          rw [if_pos rfl] at one
          have none := gathering.destroys
          omega
      | migrate =>
          have run :
              runGroupMessage obliging pg (target.received pg .migrate)
                  .migrate =
                target.received pg .migrate := rfl
          refine hopeful.helped_of_groupMessage first run rfl rfl (after rfl)
            (distance_lt_of_work rfl ?_)
          have same : created (target.received pg .migrate) =
              created target := rfl
          rw [work_initPollGroups target state, asked, List.length_cons,
            work_initPollGroups (target.received pg .migrate) state, left,
            same]
          omega
  | nil =>
      have none : creates target = 0 := by rw [creates, asked]; rfl
      have some : 0 < created target := by
        have total := gathering.total
        have missing := gathering.missing
        rw [hopeful.failed, List.length_nil] at total
        omega
      cases queue : target.initQueue with
      | nil => simp [created, queue] at some
      | cons message rest =>
          cases message with
          | appStart =>
              have one := launches_dequeued queue
              rw [if_pos rfl] at one
              have launched := gathering.launches
              omega
          | createPollGroupsDone pg =>
              exact hopeful.helped_of_created state queue
          | destroyPollGroupsDone =>
              have one := (gone_of_queue queue).1
              have none := gathering.gone
              omega
          | shutdownCb =>
              exact hopeful.helped_of_deferred queue
                (by rw [state]; decide)
                (other_of_pos (Or.inr (Or.inl some))) (after rfl)

/-! ### Chains -/

/-- A chain gets shorter when it goes on to a later subsystem. -/
theorem length_following
    {subsystems more : List Nat} {subsystem follower : Nat}
    (next : subsystems.filter (subsystem < ·) = follower :: more) :
    (subsystems.filter (follower < ·)).length <
      (subsystems.filter (subsystem < ·)).length := by
  have member : follower ∈ subsystems.filter (subsystem < ·) := by
    rw [next]
    exact List.mem_cons_self
  have later : subsystem < follower := by
    simpa using (List.mem_filter.mp member).2
  have narrowed :
      subsystems.filter (follower < ·) =
        (subsystems.filter (subsystem < ·)).filter (follower < ·) := by
    rw [List.filter_filter]
    refine List.filter_congr fun other _ => ?_
    simp only [← Bool.decide_and, decide_eq_decide]
    omega
  rw [narrowed]
  refine lt_of_le_of_ne (List.length_filter_le _ _) fun same => ?_
  have kept := List.length_filter_eq_length_iff.mp same follower member
  simp at kept

theorem work_chain
    (state :
      target.targetState = .initStartSubsystems ∨
        target.targetState = .finiStopSubsystems)
    {call : Pending} (pending : target.pending = [call]) :
    work target = call.following target.subsystems := by
  rcases state with state | state
  · simp only [work, state, pending, List.map_cons, List.map_nil,
      List.sum_cons, List.sum_nil, Nat.add_zero]
  · simp only [work, state, pending, List.map_cons, List.map_nil,
      List.sum_cons, List.sum_nil, Nat.add_zero]

theorem distance_lt_of_chain
    (state :
      target.targetState = .initStartSubsystems ∨
        target.targetState = .finiStopSubsystems)
    {call follower : Pending} (pending : target.pending = [call])
    (targetState : next.targetState = target.targetState)
    (subsystems : next.subsystems = target.subsystems)
    (waits : next.pending = [follower])
    (shorter :
      follower.following target.subsystems <
        call.following target.subsystems) :
    distance next < distance target := by
  refine distance_lt_of_work targetState ?_
  rw [← targetState] at state
  rw [work_chain state waits, subsystems]
  rw [targetState] at state
  rw [work_chain state pending]
  exact shorter

theorem pending_awaiting
    {call : Pending} (pending : target.pending = [call])
    (later : Pending) :
    (target.answered call).pending ++ [later] = [later] := by
  rw [pending_answered pending, List.nil_append]

theorem Hopeful.helped_of_initStartSubsystems
    (hopeful : Hopeful config target)
    (state : target.targetState = .initStartSubsystems) :
    Helped config target := by
  have phase := phase_of_reachable hopeful.reached
  simp only [Phase, state] at phase
  rcases phase with ⟨_, subsystem, pending⟩
  have waiting : .start subsystem ∈ target.pending := by
    rw [pending]
    exact List.mem_cons_self
  have run :
      runCallback config obliging (target.answered (.start subsystem))
          (.start subsystem) =
        starting config obliging
          (target.subsystems.filter (subsystem < ·))
          (target.answered (.start subsystem)) := by
    rw [runCallback, nvmfTgtSubsystemStartNext, startFrom_eq]
    rfl
  have raised :=
    rank_starting config (target.subsystems.filter (subsystem < ·))
      (target.answered (.start subsystem)) state
  refine hopeful.helped_of_callback waiting run raised.1 raised.2.1
    (not_stranded_of_state
      (lt_of_lt_of_le (show 0 < 3 by decide) raised.2.2)) ?_
  cases left : target.subsystems.filter (subsystem < ·) with
  | nil =>
      refine distance_lt_of_later ?_
      rw [state, starting, runningTarget_targetState]
      decide
  | cons follower more =>
      exact distance_lt_of_chain (Or.inl state) pending rfl rfl
        (pending_awaiting pending _) (length_following left)

/-- A chain of stops waits for its first subsystem or has none. -/
theorem stopping_obliging
    (rest : List Nat) (target : Target) :
    (∃ subsystem more, rest = subsystem :: more ∧
        stopping obliging rest target =
          (target.calling (.subsystemStop subsystem)).await
            (.stop subsystem)) ∨
      rest = [] ∧
        stopping obliging rest target =
          nvmfPollGroupsDestroy
            ((target.logging []).moveTo .finiPollGroups) := by
  cases rest with
  | nil => exact Or.inr ⟨rfl, rfl⟩
  | cons subsystem more =>
      exact Or.inl ⟨subsystem, more, rfl, stopping_cons_of_later rfl _ _⟩

theorem Hopeful.helped_of_finiStopSubsystems
    (hopeful : Hopeful config target)
    (state : target.targetState = .finiStopSubsystems) :
    Helped config target := by
  have phase := phase_of_reachable hopeful.reached
  simp only [Phase, state] at phase
  rcases phase with ⟨_, subsystem, pending⟩
  have waiting : .stop subsystem ∈ target.pending := by
    rw [pending]
    exact List.mem_cons_self
  have run :
      runCallback config obliging (target.answered (.stop subsystem))
          (.stop subsystem) =
        stopping obliging (target.subsystems.filter (subsystem < ·))
          (target.answered (.stop subsystem)) := by
    rw [runCallback, nvmfTgtSubsystemStopNext, stopFrom_eq]
    rfl
  rcases stopping_obliging (target.subsystems.filter (subsystem < ·))
      (target.answered (.stop subsystem)) with
    ⟨follower, more, left, stops⟩ | ⟨_, stops⟩
  · refine hopeful.helped_of_callback waiting (run.trans stops) rfl rfl
      (not_stranded_of_pending
        (List.mem_append_right _ List.mem_cons_self)) ?_
    exact distance_lt_of_chain (Or.inr state) pending rfl rfl
      (pending_awaiting pending _) (length_following left)
  · refine hopeful.helped_of_callback waiting (run.trans stops) rfl rfl
      (not_stranded_of_state (Nat.zero_lt_succ _))
      (distance_lt_of_later ?_)
    rw [state]
    exact show 5 < 6 by decide

/-! ### Running and leaving -/

theorem not_stranded_of_running
    (state : target.targetState = .running) : ¬ Stranded target := by
  refine not_stranded_of_state ?_
  rw [state]
  decide

/-- While the target runs only requests wait for the initial thread. -/
theorem Full.queue_eq
    (full : Full config target)
    {message : InitMessage} {rest : List InitMessage}
    (queue : target.initQueue = message :: rest) :
    message = .shutdownCb := by
  cases message with
  | appStart =>
      have one := launches_dequeued queue
      rw [if_pos rfl] at one
      have none := full.launches
      omega
  | createPollGroupsDone pg =>
      have one := (created_of_queue queue).1
      have none := full.created
      omega
  | destroyPollGroupsDone =>
      have one := (gone_of_queue queue).1
      have none := full.gone
      omega
  | shutdownCb => rfl

/-- A request that waits takes a running target down. -/
theorem Hopeful.helped_of_request
    (hopeful : Hopeful config target)
    (state : target.targetState = .running)
    {rest : List InitMessage}
    (queue : target.initQueue = .shutdownCb :: rest) :
    Helped config target := by
  have run :
      runInitMessage config obliging (target.dequeued rest) .shutdownCb =
        stopping obliging (chain target.subsystems)
          (unregisterPoller
            ((target.dequeued rest).moveTo .finiStopSubsystems)) := by
    have here : (target.dequeued rest).targetState = .running := state
    rw [runInitMessage, nvmfShutdown, here, if_neg (by decide),
      if_neg (by decide)]
    exact advance_finiStopSubsystems rfl
  rcases stopping_obliging (chain target.subsystems)
      (unregisterPoller
        ((target.dequeued rest).moveTo .finiStopSubsystems)) with
    ⟨_, _, _, stops⟩ | ⟨_, stops⟩
  · refine hopeful.helped_of_initMessage queue (run.trans stops) rfl rfl
      (not_stranded_of_state (Nat.zero_lt_succ _))
      (distance_lt_of_later ?_)
    rw [state]
    exact show 4 < 5 by decide
  · refine hopeful.helped_of_initMessage queue (run.trans stops) rfl rfl
      (not_stranded_of_state (Nat.zero_lt_succ _))
      (distance_lt_of_later ?_)
    rw [state]
    exact show 4 < 6 by decide

/-- A handler that has set the flag sends its request. -/
theorem Hopeful.helped_of_raised
    (hopeful : Hopeful config target)
    (state : target.targetState = .running)
    (silent : shutdowns target = 0) (raised : 0 < target.raised) :
    Helped config target := by
  have obliged : Obliged target (.signalSend true) := ⟨nofun, nofun⟩
  have taken :
      step config target (.signalSend true) =
        some (nvmfShutdownCbSend true target) := by
    rw [step, if_pos raised]
  refine hopeful.helped obliged taken rfl rfl
    (not_stranded_of_running state) (distance_lt_of_work rfl ?_)
  have waits :
      0 < shutdowns (nvmfShutdownCbSend true target) := by
    have one : shutdowns (nvmfShutdownCbSend true target) =
        shutdowns target + 1 := shutdowns_append target
    omega
  rw [work_running target state, if_neg (by omega), if_pos raised,
    work_running (nvmfShutdownCbSend true target) state, if_pos waits]
  exact Nat.zero_lt_one

/-- A handler that has found the flag down sets it. -/
theorem Hopeful.helped_of_tested
    (hopeful : Hopeful config target)
    (state : target.targetState = .running)
    (silent : shutdowns target = 0) (none : target.raised = 0)
    (tested : 0 < target.tested) :
    Helped config target := by
  have obliged : Obliged target .signalSet := ⟨nofun, nofun⟩
  have taken :
      step config target .signalSet =
        some (nvmfShutdownCbSet target) := by
    rw [step, if_pos tested]
  refine hopeful.helped obliged taken rfl rfl
    (not_stranded_of_running state) (distance_lt_of_work rfl ?_)
  have still : ¬ 0 < shutdowns (nvmfShutdownCbSet target) := by
    have same : shutdowns (nvmfShutdownCbSet target) =
        shutdowns target := rfl
    omega
  have raised : 0 < (nvmfShutdownCbSet target).raised := Nat.succ_pos _
  rw [work_running target state, if_neg (by omega), if_neg (by omega),
    if_pos tested, work_running (nvmfShutdownCbSet target) state,
    if_neg still, if_pos raised]
  exact Nat.one_lt_two

/-- A signal comes and finds the flag down. -/
theorem Hopeful.helped_of_signal
    (hopeful : Hopeful config target)
    (state : target.targetState = .running)
    (silent : shutdowns target = 0) (none : target.raised = 0)
    (idle : target.tested = 0) :
    Helped config target := by
  have down : target.intrReceived = false := by
    refine Bool.eq_false_iff.mpr fun up => hopeful.awake ?_
    exact
      { flag := up
        tested := idle
        raised := none
        silent := silent
        early := by rw [state] }
  have obliged : Obliged target .signal := ⟨nofun, nofun⟩
  have taken :
      step config target .signal =
        some { target with tested := target.tested + 1 } := by
    simp [step, nvmfShutdownCb, down]
  refine hopeful.helped obliged taken rfl rfl
    (not_stranded_of_running state) (distance_lt_of_work rfl ?_)
  rw [work_running target state, if_neg (by omega), if_neg (by omega),
    if_neg (by omega),
    work_running { target with tested := target.tested + 1 } state]
  have still : ¬ 0 < shutdowns { target with tested := target.tested + 1 } :=
    Nat.not_lt.mpr silent.le
  rw [if_neg still, if_neg (Nat.not_lt.mpr none.le),
    if_pos (Nat.succ_pos _)]
  exact Nat.lt_succ_self 2

theorem Hopeful.helped_of_running
    (hopeful : Hopeful config target)
    (state : target.targetState = .running) :
    Helped config target := by
  have phase := phase_of_reachable hopeful.reached
  simp only [Phase, state] at phase
  rcases Nat.eq_zero_or_pos (shutdowns target) with silent | waits
  · rcases Nat.eq_zero_or_pos target.raised with none | raised
    · rcases Nat.eq_zero_or_pos target.tested with idle | tested
      · exact hopeful.helped_of_signal state silent none idle
      · exact hopeful.helped_of_tested state silent none tested
    · exact hopeful.helped_of_raised state silent raised
  · cases queue : target.initQueue with
    | nil => simp [shutdowns, queue] at waits
    | cons message rest =>
        cases phase.1.queue_eq queue
        exact hopeful.helped_of_request state queue

/-- The destroyed target waits for the library or has nothing to destroy. -/
theorem destroyingTarget_spec (target : Target)
    (state : target.targetState = .finiTarget) :
    (destroyingTarget target).failed = target.failed ∧
      (destroyingTarget target).lost = target.lost ∧
      TargetState.finiTarget.rank ≤
        (destroyingTarget target).targetState.rank := by
  rw [destroyingTarget]
  split
  · refine ⟨rfl, rfl, ?_⟩
    change _ ≤ target.targetState.rank
    rw [state]
  · exact ⟨rfl, rfl, show 7 ≤ 8 by decide⟩

theorem Hopeful.helped_of_gone
    (hopeful : Hopeful config target)
    (state : target.targetState = .finiPollGroups)
    {rest : List InitMessage}
    (queue : target.initQueue = .destroyPollGroupsDone :: rest) :
    Helped config target := by
  by_cases last : decremented target.numPollGroups = 0
  · have run :
        runInitMessage config obliging (target.dequeued rest)
            .destroyPollGroupsDone =
          destroyingTarget
            ((removing (target.dequeued rest)).moveTo .finiTarget) := by
      rw [runInitMessage, nvmfTgtDestroyPollGroupsDone]
      refine (if_pos last).trans ?_
      exact advance_finiTarget rfl
    have raised :=
      destroyingTarget_spec
        ((removing (target.dequeued rest)).moveTo .finiTarget) rfl
    refine hopeful.helped_of_initMessage queue run raised.1 raised.2.1
      (not_stranded_of_state ?_) (distance_lt_of_later ?_)
    · exact lt_of_lt_of_le (show 0 < 7 by decide) raised.2.2
    · rw [state]
      exact lt_of_lt_of_le (show 6 < 7 by decide) raised.2.2
  · have run :
        runInitMessage config obliging (target.dequeued rest)
            .destroyPollGroupsDone =
          removing (target.dequeued rest) := by
      rw [runInitMessage, nvmfTgtDestroyPollGroupsDone]
      exact if_neg last
    refine hopeful.helped_of_initMessage queue run rfl rfl
      (not_stranded_of_state ?_) (distance_lt_of_work rfl ?_)
    · change 0 < target.targetState.rank
      rw [state]
      decide
    · rw [work_finiPollGroups target state, queue, List.length_cons,
        work_finiPollGroups (removing (target.dequeued rest)) state]
      exact Nat.lt_succ_self _

theorem not_stranded_of_finiPollGroups
    (state : target.targetState = .finiPollGroups) :
    ¬ Stranded target := by
  refine not_stranded_of_state ?_
  rw [state]
  decide

/-- A thread that has a message runs it. -/
theorem Hopeful.helped_of_asked
    (hopeful : Hopeful config target)
    (state : target.targetState = .finiPollGroups)
    (leaving : Leaving config target)
    {entry : Nat × GroupMessage} {others : List (Nat × GroupMessage)}
    (asked : target.groupQueue = entry :: others) :
    Helped config target := by
  rcases entry with ⟨pg, message⟩
  rcases nextGroupMessage_head asked with ⟨first, left⟩
  have member := mem_of_nextGroupMessage first
  cases message with
  | createPollGroup =>
      have one := creates_received member
      rw [if_pos rfl] at one
      have none := leaving.creates
      omega
  | destroyPollGroup =>
      have run :
          runGroupMessage obliging pg
              (target.received pg .destroyPollGroup) .destroyPollGroup =
            groupDropped pg target := rfl
      refine hopeful.helped_of_groupMessage first run rfl rfl
        (not_stranded_of_finiPollGroups state)
        (distance_lt_of_work rfl ?_)
      have fewer : (groupDropped pg target).groupQueue = others := left
      have more :
          (groupDropped pg target).pending.length =
            target.pending.length + 1 := List.length_append
      have same :
          (groupDropped pg target).initQueue = target.initQueue := rfl
      rw [work_finiPollGroups target state, asked, List.length_cons,
        work_finiPollGroups (groupDropped pg target) state, fewer, more,
        same]
      omega
  | migrate =>
      have run :
          runGroupMessage obliging pg (target.received pg .migrate)
              .migrate =
            target.received pg .migrate := rfl
      refine hopeful.helped_of_groupMessage first run rfl rfl
        (not_stranded_of_finiPollGroups state)
        (distance_lt_of_work rfl ?_)
      rw [work_finiPollGroups target state, asked, List.length_cons,
        work_finiPollGroups (target.received pg .migrate) state, left]
      change
        3 * others.length + 2 * target.pending.length +
          target.initQueue.length < _
      omega

/-- A poll group that is being destroyed goes. -/
theorem Hopeful.helped_of_going
    (hopeful : Hopeful config target)
    (state : target.targetState = .finiPollGroups)
    (leaving : Leaving config target)
    {call : Pending} {others : List Pending}
    (going : target.pending = call :: others) :
    Helped config target := by
  have waiting : call ∈ target.pending := by
    rw [going]
    exact List.mem_cons_self
  have destroy := leaving.isDestroy_of_mem waiting
  cases call with
  | pollGroupDestroy pg =>
      have run :
          runCallback config obliging
              (target.answered (.pollGroupDestroy pg))
              (.pollGroupDestroy pg) =
            pollGroupDestroyed pg
              (target.answered (.pollGroupDestroy pg)) := rfl
      refine hopeful.helped_of_callback waiting run rfl rfl
        (not_stranded_of_finiPollGroups state)
        (distance_lt_of_work rfl ?_)
      have fewer :
          (pollGroupDestroyed pg
            (target.answered (.pollGroupDestroy pg))).pending =
              others := by
        simp [pollGroupDestroyed, Target.answered, going]
      have more :
          (pollGroupDestroyed pg
            (target.answered (.pollGroupDestroy pg))).initQueue.length =
              target.initQueue.length + 1 := List.length_append
      rw [work_finiPollGroups target state, going, List.length_cons,
        work_finiPollGroups
          (pollGroupDestroyed pg
            (target.answered (.pollGroupDestroy pg))) state,
        fewer, more]
      change
        3 * target.groupQueue.length + 2 * others.length +
          (target.initQueue.length + 1) < _
      omega
  | _ => cases destroy

/-- A message to the initial thread is run. -/
theorem Hopeful.helped_of_told
    (hopeful : Hopeful config target)
    (state : target.targetState = .finiPollGroups)
    (leaving : Leaving config target)
    {message : InitMessage} {rest : List InitMessage}
    (queue : target.initQueue = message :: rest) :
    Helped config target := by
  cases message with
  | appStart =>
      have one := launches_dequeued queue
      rw [if_pos rfl] at one
      have launched := leaving.launches
      omega
  | createPollGroupsDone pg =>
      have one := (created_of_queue queue).1
      have made := leaving.created
      omega
  | destroyPollGroupsDone => exact hopeful.helped_of_gone state queue
  | shutdownCb =>
      have run :
          runInitMessage config obliging (target.dequeued rest)
              .shutdownCb =
            target.dequeued rest := by
        have here :
            (target.dequeued rest).targetState = .finiPollGroups := state
        rw [runInitMessage, nvmfShutdown, here]
        rfl
      refine hopeful.helped_of_initMessage queue run rfl rfl
        (not_stranded_of_finiPollGroups state)
        (distance_lt_of_work rfl ?_)
      rw [work_finiPollGroups target state, queue, List.length_cons,
        work_finiPollGroups (target.dequeued rest) state]
      exact Nat.lt_succ_self _

theorem Hopeful.helped_of_finiPollGroups
    (hopeful : Hopeful config target)
    (state : target.targetState = .finiPollGroups) :
    Helped config target := by
  have phase := phase_of_reachable hopeful.reached
  simp only [Phase, state] at phase
  cases asked : target.groupQueue with
  | cons entry others =>
      exact hopeful.helped_of_asked state phase asked
  | nil =>
      cases going : target.pending with
      | cons call others =>
          exact hopeful.helped_of_going state phase going
      | nil =>
          have none : destroys target = 0 := by
            rw [destroys, asked]
            rfl
          have idle : destroying target = 0 := by
            rw [destroying, going]
            rfl
          have some : 0 < gone target := by
            have counter := phase.counter
            have counted := phase.some
            omega
          cases queue : target.initQueue with
          | nil => simp [gone, queue] at some
          | cons message rest =>
              exact hopeful.helped_of_told state phase queue

theorem Hopeful.helped_of_finiTarget
    (hopeful : Hopeful config target)
    (state : target.targetState = .finiTarget) :
    Helped config target := by
  have phase := phase_of_reachable hopeful.reached
  simp only [Phase, state] at phase
  have waiting : .tgtDestroy ∈ target.pending := by
    rw [phase.2.1]
    exact List.mem_cons_self
  have run :
      runCallback config obliging (target.answered .tgtDestroy)
          .tgtDestroy =
        finishing ((target.answered .tgtDestroy).moveTo .finiSubsystem) := by
    rw [runCallback, nvmfTgtDestroyDone, advance_finiSubsystem rfl]
  refine hopeful.helped_of_callback waiting run rfl rfl
    (not_stranded_of_state (Nat.zero_lt_succ _)) (distance_lt_of_later ?_)
  rw [state]
  exact show 7 < 8 by decide

/-! ## The end -/

/-- Some event helps in every state before the last. -/
theorem Hopeful.progress (hopeful : Hopeful config target) :
    Hopeful config target ∧ target.targetState = .finiSubsystem ∨
      Helped config target := by
  cases state : target.targetState with
  | initSubsystem => exact Or.inr (hopeful.helped_of_initSubsystem state)
  | initTarget =>
      have phase := phase_of_reachable hopeful.reached
      simp only [Phase, state] at phase
  | initPollGroups => exact Or.inr (hopeful.helped_of_initPollGroups state)
  | initStartSubsystems =>
      exact Or.inr (hopeful.helped_of_initStartSubsystems state)
  | running => exact Or.inr (hopeful.helped_of_running state)
  | finiStopSubsystems =>
      exact Or.inr (hopeful.helped_of_finiStopSubsystems state)
  | finiPollGroups => exact Or.inr (hopeful.helped_of_finiPollGroups state)
  | finiTarget => exact Or.inr (hopeful.helped_of_finiTarget state)
  | finiSubsystem => exact Or.inl ⟨hopeful, rfl⟩

/-- In the last state the reactors exit or one callback makes them. -/
theorem Hopeful.exits
    (hopeful : Hopeful config target)
    (state : target.targetState = .finiSubsystem) :
    ∃ final, Run (step config) Obliged target final ∧
      final.reactorsExit = true := by
  have phase := phase_of_reachable hopeful.reached
  simp only [Phase, state] at phase
  rcases phase.2 with ⟨pending, _⟩ | ⟨_, exits⟩
  · have waiting : .subsystemFini ∈ target.pending := by
      rw [pending]
      exact List.mem_cons_self
    have taken :
        step config target (.callback .subsystemFini obliging) =
          some
            (nvmfSubsystemFiniDone (target.answered .subsystemFini)) := by
      rw [step, if_pos waiting]
      rfl
    exact ⟨_, .tail .refl (obliged_callback _) taken, rfl⟩
  · exact ⟨target, .refl, exits⟩

theorem Hopeful.completes (hopeful : Hopeful config target) :
    ∃ final, Run (step config) Obliged target final ∧
      final.reactorsExit = true := by
  have last :
      ∃ middle, Run (step config) Obliged target middle ∧
        Hopeful config middle ∧ middle.targetState = .finiSubsystem :=
    Run.reaches wellFounded_lt distance (Hopeful config)
      (fun state =>
        Hopeful config state ∧ state.targetState = .finiSubsystem)
      (fun _ holds => holds.progress) hopeful
  rcases last with ⟨middle, run, arrived, state⟩
  rcases arrived.exits state with ⟨final, ended, exits⟩
  exact ⟨final, run.trans ended, exits⟩

/--
From a state reached in which no poll group has failed, the application has
not been given up and the target is not deaf, some run in which every call
succeeds ends the reactors.  After a failure no run ends them, whatever the
library calls return, as long as the first subsystem's start calls back
later; and from a deaf target no run does in which every call succeeds.
-/
theorem shutdown_completes_unless_given_up
    (reached : Reachable config target) :
    (target.failed = [] ∧ .appStop ∉ target.log ∧ ¬ Deaf target →
      ∃ final, Run (step config) Obliged target final ∧
        final.reactorsExit = true) ∧
      (target.failed ≠ [] ∨ .appStop ∈ target.log →
        ∀ final, Run (step config) FirstStartsLater target final →
          final.reactorsExit = false) ∧
      (Deaf target →
        ∀ final, Run (step config) Obliged target final →
          final.reactorsExit = false) := by
  refine ⟨?_, ?_, ?_⟩
  · intro good
    have hopeful : Hopeful config target :=
      ⟨reached, good.1, good.2.1, good.2.2⟩
    exact hopeful.completes
  · intro doomed final run
    have stays : Doomed final := by
      refine run.preserves doomed fun state _ next holds admitted taken => ?_
      have turn : Turn config False state next :=
        turn_of_step admitted (fun never => never.elim) taken
      exact doomed_of_turn holds turn
    have later : Reachable config final := reached.trans run
    exact reactorsExit_of_doomed (phase_of_reachable later)
      (givesUp_of_reachable later) stays
  · exact fun deaf _ run => reactorsExit_of_deaf reached deaf run

theorem shutdown_completes_unless_given_up_booted :
    Reachable oneCore bootedTarget ∧
      ∃ final, Run (step oneCore) Obliged bootedTarget final ∧
        final.reactorsExit = true :=
  have reached :=
    reachable_of_foldlM bootEvents_obliged bootEvents_fold
  ⟨reached,
    (shutdown_completes_unless_given_up reached).1
      ⟨rfl, by decide, fun deaf => Bool.noConfusion deaf.flag⟩⟩

end ZnsBench.Nvmf.TargetLifecycle

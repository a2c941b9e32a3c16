import ZnsBench.Nvmf.ShutdownRequest

/-!
# Targets that never get to run

A request to stop is put off until the target runs.  When the remote calls
cannot be set up nothing is under way any more, and a poll group that could
not be made is never counted; what happens later cannot change either.
-/

namespace ZnsBench.Nvmf.TargetLifecycle

open ZnsBench.Core.GuardedRun

variable {config : Config} {quiet : Prop} {target next : Target}

/-! ## Nothing under way -/

/-- Nothing is under way and nothing will be. -/
def Stranded (target : Target) : Prop :=
  target.targetState = .initSubsystem ∧ launches target = 0 ∧
    target.pending = []

/-- The application gave up exactly when nothing is under way. -/
def GivesUp (target : Target) : Prop :=
  .appStop ∈ target.log ↔ Stranded target

theorem givesUp_initial : GivesUp initial := by
  refine ⟨fun member => (List.not_mem_nil member).elim, fun stranded => ?_⟩
  exact absurd stranded.2.1 (by decide)

theorem GivesUp.congr
    (givesUp : GivesUp target)
    (log : .appStop ∈ next.log ↔ .appStop ∈ target.log)
    (targetState : next.targetState = target.targetState)
    (launched : launches next = launches target)
    (pending : next.pending = target.pending) :
    GivesUp next := by
  rw [GivesUp, log, Stranded, targetState, launched, pending]
  exact givesUp

/-- A step from a state where something is under way to another one. -/
theorem GivesUp.moving
    (givesUp : GivesUp target)
    (before : ¬ Stranded target)
    (log : .appStop ∈ next.log → .appStop ∈ target.log)
    (after : ¬ Stranded next) :
    GivesUp next :=
  ⟨fun member => absurd (givesUp.mp (log member)) before,
    fun stranded => absurd stranded after⟩

theorem not_stranded_of_state
    (later : 0 < target.targetState.rank) : ¬ Stranded target := by
  intro stranded
  rw [stranded.1] at later
  exact absurd later (by decide)

theorem not_stranded_of_pending
    {call : Pending} (waiting : call ∈ target.pending) :
    ¬ Stranded target := by
  intro stranded
  rw [stranded.2.2] at waiting
  exact List.not_mem_nil waiting

/-- A step inside one of the later states. -/
theorem GivesUp.staying
    (givesUp : GivesUp target) {state : TargetState}
    (here : target.targetState = state) (late : 0 < state.rank)
    (log : .appStop ∈ next.log → .appStop ∈ target.log)
    (stays : next.targetState = target.targetState) :
    GivesUp next := by
  have later : 0 < target.targetState.rank := by
    rw [here]
    exact late
  refine givesUp.moving (not_stranded_of_state later) log
    (not_stranded_of_state ?_)
  rw [stays]
  exact later

theorem appStop_of_append
    {log calls : List LibraryCall} (silent : .appStop ∉ calls)
    (member : .appStop ∈ log ++ calls) : .appStop ∈ log :=
  (List.mem_append.mp member).resolve_right silent

theorem appStop_notMem_stops (made : List Nat) :
    LibraryCall.appStop ∉ made.map .subsystemStop := by
  intro member
  rcases List.mem_map.mp member with ⟨_, _, same⟩
  cases same

theorem appStop_notMem_starts (made : List Nat) :
    LibraryCall.appStop ∉ made.map .subsystemStart := by
  intro member
  rcases List.mem_map.mp member with ⟨_, _, same⟩
  cases same

theorem givesUp_stopped
    (givesUp : GivesUp target)
    (state : target.targetState = .finiStopSubsystems)
    {rest : List Nat} (stops : Stopped rest target next) :
    GivesUp next := by
  have before := not_stranded_of_state (by rw [state]; decide)
  cases stops with
  | waits begins =>
      exact givesUp.moving before
        (appStop_of_append (appStop_notMem_stops _))
        (not_stranded_of_pending
          (List.mem_append_right _ List.mem_cons_self))
  | passes =>
      exact givesUp.moving before
        (appStop_of_append (appStop_notMem_stops _))
        (not_stranded_of_state (Nat.zero_lt_succ _))

theorem givesUp_started
    (givesUp : GivesUp target)
    (state : target.targetState = .initStartSubsystems)
    {rest : List Nat} (starts : Started config rest target next) :
    GivesUp next := by
  have before := not_stranded_of_state (by rw [state]; decide)
  cases starts with
  | runs =>
      rw [runningTarget]
      split
      · refine givesUp.moving before ?_
          (not_stranded_of_state (Nat.zero_lt_succ _))
        exact fun member => appStop_of_append (appStop_notMem_starts _)
          (appStop_of_append (by decide) member)
      · exact givesUp.moving before
          (appStop_of_append (appStop_notMem_starts _))
          (not_stranded_of_state (Nat.zero_lt_succ _))
  | waits begins =>
      exact givesUp.moving before
        (appStop_of_append (appStop_notMem_starts _))
        (not_stranded_of_pending
          (List.mem_append_right _ List.mem_cons_self))
  | refused begins stops =>
      refine givesUp_stopped ?_ rfl stops
      refine givesUp.moving before ?_
        (not_stranded_of_state (Nat.zero_lt_succ _))
      exact fun member => appStop_of_append (appStop_notMem_starts _)
        (appStop_of_append (by decide) member)

theorem givesUp_broughtUp
    (silent : .appStop ∉ target.log)
    (launched : launches target = 0)
    (pending : target.pending = [])
    (state : target.targetState = .initSubsystem)
    (up : BroughtUp config target next) :
    GivesUp next := by
  cases up with
  | withoutRpc =>
      refine ⟨fun _ => ⟨state, launched, pending⟩, fun _ => ?_⟩
      exact List.mem_append_right _ (by decide)
  | withoutTarget =>
      refine ⟨fun member => ?_, fun stranded => absurd stranded
        (not_stranded_of_state (Nat.zero_lt_succ _))⟩
      exact absurd (appStop_of_append (by decide) member) silent
  | withoutDiscovery =>
      refine ⟨fun member => ?_, fun stranded => absurd stranded
        (not_stranded_of_state (Nat.zero_lt_succ _))⟩
      exact absurd (appStop_of_append (by decide) member) silent
  | asksForGroups =>
      refine ⟨fun member => ?_, fun stranded => absurd stranded
        (not_stranded_of_state (Nat.zero_lt_succ _))⟩
      refine absurd (appStop_of_append ?_ member) silent
      simp

theorem givesUp_launched
    (phase : Phase config target) (givesUp : GivesUp target)
    {rest : List InitMessage}
    (queue : target.initQueue = .appStart :: rest)
    (launch : Launched config (target.dequeued rest) next) :
    GivesUp next := by
  have one := launches_dequeued queue
  rw [if_pos rfl] at one
  rcases phase.of_launches (by omega) with ⟨_, _, single, pending⟩
  have before : ¬ Stranded target := fun stranded => by
    have none := stranded.2.1
    omega
  have launched : launches (target.dequeued rest) = 0 := by omega
  have silent : .appStop ∉ target.log := fun member =>
    before (givesUp.mp member)
  cases launch with
  | waits =>
      exact givesUp.moving before (appStop_of_append (by decide))
        (not_stranded_of_pending
          (List.mem_append_right _ List.mem_cons_self))
  | goesOn up =>
      refine givesUp_broughtUp ?_ ?_ ?_ ?_ up
      · exact fun member => silent (appStop_of_append (by decide) member)
      · exact launched
      · exact pending
      · rfl

theorem givesUp_initialised
    (phase : Phase config target) (givesUp : GivesUp target)
    (waiting : .subsystemInit ∈ target.pending)
    (up : BroughtUp config (target.answered .subsystemInit) next) :
    GivesUp next := by
  rcases phase.of_subsystemInit waiting with ⟨state, _, launched, pending⟩
  have silent : .appStop ∉ target.log := fun member =>
    not_stranded_of_pending waiting (givesUp.mp member)
  refine givesUp_broughtUp ?_ ?_ ?_ ?_ up
  · exact silent
  · exact launched
  · exact pending_answered pending
  · exact state

theorem givesUp_emptied
    (givesUp : GivesUp target) (before : ¬ Stranded target)
    {rest : List InitMessage} :
    GivesUp
      (destroyingTarget
        ((removing (target.dequeued rest)).moveTo .finiTarget)) := by
  rw [destroyingTarget]
  split
  · exact givesUp.moving before (appStop_of_append (by decide))
      (not_stranded_of_pending
        (List.mem_append_right _ List.mem_cons_self))
  · exact givesUp.moving before (appStop_of_append (by decide))
      (not_stranded_of_pending
        (List.mem_append_right _ List.mem_cons_self))

theorem givesUp_of_turn
    (phase : Phase config target) (givesUp : GivesUp target)
    (turn : Turn config quiet target next) :
    GivesUp next := by
  have before {state : TargetState}
      (here : target.targetState = state) (late : 0 < state.rank) :
      ¬ Stranded target := not_stranded_of_state (by rw [here]; exact late)
  cases turn with
  | sent some =>
      exact givesUp.congr Iff.rfl rfl (sameCensus_shutdownCb target).launches
        rfl
  | launched queue launch => exact givesUp_launched phase givesUp queue launch
  | counted queue missing =>
      exact givesUp.congr Iff.rfl rfl (created_of_queue queue).2.2.symm rfl
  | complete queue last starts =>
      have busy := before (phase.told queue).1 (by decide)
      refine givesUp_started ?_ ?_ starts
      · exact givesUp.moving busy (fun member => member)
          (not_stranded_of_state (Nat.zero_lt_succ _))
      · rfl
  | removed queue left =>
      exact givesUp.congr Iff.rfl rfl (gone_of_queue queue).2.2.symm rfl
  | emptied queue last =>
      exact givesUp_emptied givesUp (before (phase.lost queue).1 (by decide))
  | deferred queue early =>
      exact givesUp.congr Iff.rfl rfl (sameCensus_deferred queue).launches rfl
  | mislaid queue early =>
      exact givesUp.congr Iff.rfl rfl (sameCensus_dequeued queue).launches rfl
  | dropped queue late =>
      exact givesUp.congr Iff.rfl rfl (sameCensus_dequeued queue).launches rfl
  | shut queue runs stops =>
      refine givesUp_stopped ?_ ?_ stops
      · refine givesUp.moving (before runs (by decide)) ?_
          (not_stranded_of_state (Nat.zero_lt_succ _))
        exact appStop_of_append (by decide)
      · rfl
  | groupCreated next =>
      have state := (phase.asked (mem_of_nextGroupMessage next)).1
      exact givesUp.staying state (by decide)
        (appStop_of_append (by simp)) rfl
  | groupFailed next =>
      have state := (phase.asked (mem_of_nextGroupMessage next)).1
      exact givesUp.staying state (by decide)
        (appStop_of_append (by simp)) rfl
  | groupLeaving next =>
      have state := (phase.dropped (mem_of_nextGroupMessage next)).1
      exact givesUp.staying state (by decide)
        (appStop_of_append (by simp)) rfl
  | initialised waiting up =>
      exact givesUp_initialised phase givesUp waiting up
  | startedNext waiting starts =>
      have state : target.targetState = .initStartSubsystems :=
        (phase.of_pending waiting).1
      refine givesUp_started ?_ ?_ starts
      · exact givesUp.staying state (by decide) (fun member => member) rfl
      · exact state
  | stoppedNext waiting stops =>
      have state : target.targetState = .finiStopSubsystems :=
        (phase.of_pending waiting).1
      refine givesUp_stopped ?_ ?_ stops
      · exact givesUp.staying state (by decide) (fun member => member) rfl
      · exact state
  | groupGone waiting =>
      have state : target.targetState = .finiPollGroups :=
        (phase.of_pending waiting).1
      exact givesUp.staying state (by decide) (fun member => member) rfl
  | targetGone waiting =>
      exact givesUp.moving (not_stranded_of_pending waiting)
        (appStop_of_append (by decide))
        (not_stranded_of_state (Nat.zero_lt_succ _))
  | finished waiting =>
      have state : target.targetState = .finiSubsystem :=
        (phase.of_pending waiting).1
      exact givesUp.staying state (by decide)
        (appStop_of_append (by decide)) rfl
  | _ => exact givesUp.congr Iff.rfl rfl rfl rfl

/-! ## What is written down stays -/

/-- Failures and library calls are only added. -/
structure Recorded (target next : Target) : Prop where
  failed : target.failed <+: next.failed
  log : target.log <+: next.log

theorem Recorded.after
    {middle : Target}
    (later : Recorded middle next) (first : Recorded target middle) :
    Recorded target next :=
  ⟨first.failed.trans later.failed, first.log.trans later.log⟩

theorem Stopped.recorded
    {rest : List Nat} (stops : Stopped rest target next) :
    Recorded target next := by
  cases stops with
  | waits => exact ⟨List.prefix_rfl, List.prefix_append _ _⟩
  | passes => exact ⟨List.prefix_rfl, List.prefix_append _ _⟩

theorem recorded_runningTarget (config : Config) (target : Target) :
    Recorded target (runningTarget config target) := by
  rw [runningTarget]
  split
  · exact ⟨List.prefix_rfl, List.prefix_append _ _⟩
  · exact ⟨List.prefix_rfl, List.prefix_rfl⟩

theorem Started.recorded
    {rest : List Nat} (starts : Started config rest target next) :
    Recorded target next := by
  cases starts with
  | runs =>
      exact (recorded_runningTarget config _).after
        ⟨List.prefix_rfl, List.prefix_append _ _⟩
  | waits => exact ⟨List.prefix_rfl, List.prefix_append _ _⟩
  | refused begins stops =>
      refine stops.recorded.after ⟨List.prefix_rfl, ?_⟩
      exact (List.prefix_append _ _).trans (List.prefix_append _ _)

theorem BroughtUp.recorded (up : BroughtUp config target next) :
    Recorded target next := by
  cases up with
  | withoutRpc => exact ⟨List.prefix_rfl, List.prefix_append _ _⟩
  | withoutTarget => exact ⟨List.prefix_rfl, List.prefix_append _ _⟩
  | withoutDiscovery => exact ⟨List.prefix_rfl, List.prefix_append _ _⟩
  | asksForGroups => exact ⟨List.prefix_rfl, List.prefix_append _ _⟩

theorem recorded_destroyingTarget (target : Target) :
    Recorded target (destroyingTarget target) := by
  rw [destroyingTarget]
  split
  · exact ⟨List.prefix_rfl, List.prefix_append _ _⟩
  · exact ⟨List.prefix_rfl, List.prefix_append _ _⟩

theorem recorded_of_turn (turn : Turn config quiet target next) :
    Recorded target next := by
  cases turn with
  | launched queue launch =>
      cases launch with
      | waits => exact ⟨List.prefix_rfl, List.prefix_append _ _⟩
      | goesOn up =>
          exact up.recorded.after
            ⟨List.prefix_rfl, List.prefix_append _ _⟩
  | complete queue last starts =>
      exact starts.recorded.after ⟨List.prefix_rfl, List.prefix_rfl⟩
  | emptied =>
      exact (recorded_destroyingTarget _).after
        ⟨List.prefix_rfl, List.prefix_rfl⟩
  | shut queue runs stops =>
      exact stops.recorded.after ⟨List.prefix_rfl, List.prefix_append _ _⟩
  | groupCreated => exact ⟨List.prefix_rfl, List.prefix_append _ _⟩
  | groupFailed =>
      exact ⟨List.prefix_append _ _, List.prefix_append _ _⟩
  | groupLeaving => exact ⟨List.prefix_rfl, List.prefix_append _ _⟩
  | initialised waiting up =>
      exact up.recorded.after ⟨List.prefix_rfl, List.prefix_rfl⟩
  | startedNext waiting starts =>
      exact starts.recorded.after ⟨List.prefix_rfl, List.prefix_rfl⟩
  | stoppedNext waiting stops =>
      exact stops.recorded.after ⟨List.prefix_rfl, List.prefix_rfl⟩
  | targetGone => exact ⟨List.prefix_rfl, List.prefix_append _ _⟩
  | finished => exact ⟨List.prefix_rfl, List.prefix_append _ _⟩
  | _ => exact ⟨List.prefix_rfl, List.prefix_rfl⟩

/-- A poll group could not be made, or the application was given up. -/
def Doomed (target : Target) : Prop :=
  target.failed ≠ [] ∨ .appStop ∈ target.log

theorem doomed_of_turn
    (doomed : Doomed target) (turn : Turn config quiet target next) :
    Doomed next := by
  have kept := recorded_of_turn turn
  refine doomed.imp (fun failed empty => failed ?_) fun gaveUp =>
    kept.log.subset gaveUp
  have part := kept.failed
  rw [empty] at part
  exact List.prefix_nil.mp part

theorem reactorsExit_of_doomed
    (phase : Phase config target) (givesUp : GivesUp target)
    (doomed : Doomed target) :
    target.reactorsExit = false := by
  rw [Phase] at phase
  cases state : target.targetState with
  | initSubsystem =>
      simp only [state] at phase
      exact phase.1.stays
  | initTarget => simp only [state] at phase
  | initPollGroups =>
      simp only [state] at phase
      exact phase.1.stays
  | initStartSubsystems =>
      simp only [state] at phase
      exact phase.1.stays
  | running =>
      simp only [state] at phase
      exact phase.1.stays
  | finiStopSubsystems =>
      simp only [state] at phase
      exact phase.1.stays
  | finiPollGroups =>
      simp only [state] at phase
      exact phase.stays
  | finiTarget =>
      simp only [state] at phase
      exact phase.2.2
  | finiSubsystem =>
      simp only [state] at phase
      rcases doomed with failed | gaveUp
      · exact absurd phase.1.failed failed
      · refine absurd (givesUp.mp gaveUp).1 ?_
        rw [state]
        decide

end ZnsBench.Nvmf.TargetLifecycle

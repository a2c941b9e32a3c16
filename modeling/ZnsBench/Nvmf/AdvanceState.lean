import ZnsBench.Nvmf.TargetLifecycle

/-!
# What `nvmf_target_advance_state` does from each state

The loop calls itself through the callbacks that come inside a call.  A
nested call is always made in a later state, so the depth of the model is
never used up and the function satisfies the equation of the source.  From
the equation follows, state by state, where the loop stops and what it has
asked for.
-/

namespace ZnsBench.Nvmf.TargetLifecycle

variable {config : Config} {library : Library}

/-! ## Small facts -/

@[simp]
theorem calling_targetState (target : Target) (call : LibraryCall) :
    (target.calling call).targetState = target.targetState := rfl

@[simp]
theorem await_targetState (target : Target) (call : Pending) :
    (target.await call).targetState = target.targetState := rfl

@[simp]
theorem moveTo_targetState (target : Target) (next : TargetState) :
    (target.moveTo next).targetState = next := rfl

@[simp]
theorem calling_subsystems (target : Target) (call : LibraryCall) :
    (target.calling call).subsystems = target.subsystems := rfl

@[simp]
theorem unregisterPoller_targetState (target : Target) :
    (unregisterPoller target).targetState = target.targetState := rfl

@[simp]
theorem unregisterPoller_subsystems (target : Target) :
    (unregisterPoller target).subsystems = target.subsystems := rfl

@[simp]
theorem registerPoller_targetState (target : Target) :
    (registerPoller target).targetState = target.targetState := rfl

@[simp]
theorem createThreads_targetState
    (cores : List Nat) (target : Target) :
    (createThreads cores target).targetState = target.targetState := by
  induction cores generalizing target with
  | nil => rfl
  | cons core rest induction =>
      rw [createThreads, induction]
      rfl

/-! ## The depth is never used up -/

section Depth

variable {advance other : Target → Target}

/-- No call goes back to an earlier state. -/
def NeverBack (advance : Target → Target) : Prop :=
  ∀ target,
    target.targetState.rank ≤ (advance target).targetState.rank

theorem rank_le_startFrom
    (forward : NeverBack advance)
    (rest : List Nat) (target : Target)
    (early : target.targetState.rank ≤ TargetState.running.rank) :
    target.targetState.rank ≤
      (startFrom library advance rest target).targetState.rank := by
  induction rest generalizing target with
  | nil => exact early.trans (forward (target.moveTo .running))
  | cons subsystem rest induction =>
      rw [startFrom]
      cases library.start subsystem with
      | refused =>
          have next := forward
            ((target.calling (.subsystemStart subsystem)).moveTo
              .finiStopSubsystems)
          rw [moveTo_targetState] at next
          exact (early.trans (by decide)).trans next
      | immediate =>
          exact induction (target.calling (.subsystemStart subsystem)) early
      | later => exact le_refl _

theorem rank_le_stopFrom
    (library : Library) (forward : NeverBack advance)
    (rest : List Nat) (target : Target)
    (early : target.targetState.rank ≤ TargetState.finiPollGroups.rank) :
    target.targetState.rank ≤
      (stopFrom library advance rest target).targetState.rank := by
  induction rest generalizing target with
  | nil => exact early.trans (forward (target.moveTo .finiPollGroups))
  | cons subsystem rest induction =>
      rw [stopFrom]
      cases library.stop subsystem with
      | refused =>
          exact induction (target.calling (.subsystemStop subsystem)) early
      | immediate =>
          exact induction (target.calling (.subsystemStop subsystem)) early
      | later => exact le_refl _

/-- The work of a state leaves it or goes to a later one. -/
theorem rank_le_workOf
    (forward : NeverBack advance)
    (target : Target) :
    target.targetState.rank ≤
      (workOf config library advance target).targetState.rank := by
  rw [workOf]
  cases state : target.targetState with
  | initSubsystem => rw [state]
  | initTarget =>
      simp only [nvmfCreateNvmfTgt]
      split
      · split
        · exact Nat.le_succ 1
        · rw [moveTo_targetState]
          decide
      · exact Nat.le_add_left 1 6
  | initPollGroups =>
      simp only [nvmfPollGroupsCreate, createThreads_targetState, state,
        le_refl]
  | initStartSubsystems =>
      simp only [nvmfTgtStartSubsystems]
      cases target.subsystems with
      | nil =>
          simp only [moveTo_targetState]
          decide
      | cons subsystem rest =>
          simp only
          cases library.start subsystem with
          | refused =>
              simp only [moveTo_targetState]
              decide
          | immediate =>
              have early :
                  (target.calling (.subsystemStart subsystem)).targetState =
                    .initStartSubsystems := state
              refine le_trans ?_
                (rank_le_startFrom forward _ _ (by rw [early]; decide))
              rw [early]
          | later => simp only [await_targetState, calling_targetState,
              state, le_refl]
  | running =>
      simp only
      split
      · simp only [registerPoller_targetState, state, le_refl]
      · rw [state]
  | finiStopSubsystems =>
      simp only [nvmfTgtStopSubsystems, unregisterPoller_subsystems]
      cases target.subsystems with
      | nil =>
          simp only [moveTo_targetState]
          decide
      | cons subsystem rest =>
          have early :
              ((unregisterPoller target).calling
                (.subsystemStop subsystem)).targetState =
                  .finiStopSubsystems := state
          have chained :=
            rank_le_stopFrom library forward
              (((unregisterPoller target).calling
                (.subsystemStop subsystem)).subsystems.filter
                  (subsystem < ·))
              ((unregisterPoller target).calling
                (.subsystemStop subsystem))
              (by rw [early]; decide)
          rw [early] at chained
          simp only
          cases library.stop subsystem with
          | refused => exact chained
          | immediate => exact chained
          | later => simp only [await_targetState, calling_targetState,
              unregisterPoller_targetState, state, le_refl]
  | finiPollGroups => simp only [nvmfPollGroupsDestroy, state, le_refl]
  | finiTarget =>
      simp only [nvmfDestroyNvmfTgt]
      split
      · simp only [await_targetState, calling_targetState, state, le_refl]
      · rw [moveTo_targetState]
        decide
  | finiSubsystem =>
      simp only [await_targetState, calling_targetState, state, le_refl]

theorem neverBack_advanceOnce
    (forward : NeverBack advance) :
    NeverBack (advanceOnce config library advance) := by
  intro target
  rw [advanceOnce]
  split
  · rename_i first
    rw [first]
    exact Nat.zero_le _
  · simp only
    split
    · exact rank_le_workOf forward target
    · exact (rank_le_workOf forward target).trans (forward _)

theorem neverBack_advanceWithin (depth : Nat) :
    NeverBack (advanceWithin config library depth) := by
  induction depth with
  | zero => exact fun _ => le_refl _
  | succ depth induction => exact neverBack_advanceOnce induction

/-- Two continuations that agree on the states after `rank`. -/
def AgreeAfter (rank : Nat) (advance other : Target → Target) : Prop :=
  ∀ target, rank < target.targetState.rank → advance target = other target

theorem startFrom_congr
    (agree : AgreeAfter 3 advance other)
    (rest : List Nat) (target : Target) :
    startFrom library advance rest target =
      startFrom library other rest target := by
  induction rest generalizing target with
  | nil => exact agree _ (by rw [moveTo_targetState]; decide)
  | cons subsystem rest induction =>
      simp only [startFrom]
      cases library.start subsystem with
      | refused => exact agree _ (by rw [moveTo_targetState]; decide)
      | immediate => exact induction _
      | later => rfl

theorem stopFrom_congr
    (agree : AgreeAfter 5 advance other)
    (rest : List Nat) (target : Target) :
    stopFrom library advance rest target =
      stopFrom library other rest target := by
  induction rest generalizing target with
  | nil => exact agree _ (by rw [moveTo_targetState]; decide)
  | cons subsystem rest induction =>
      simp only [stopFrom]
      cases library.stop subsystem with
      | refused => exact induction _
      | immediate => exact induction _
      | later => rfl

theorem workOf_congr
    {target : Target}
    (agree : AgreeAfter target.targetState.rank advance other) :
    workOf config library advance target =
      workOf config library other target := by
  rw [workOf, workOf]
  cases state : target.targetState with
  | initStartSubsystems =>
      rw [state] at agree
      simp only [nvmfTgtStartSubsystems, nvmfTgtSubsystemStartNext,
        startFrom_congr agree]
  | finiStopSubsystems =>
      rw [state] at agree
      simp only [nvmfTgtStopSubsystems, nvmfTgtSubsystemStopNext,
        stopFrom_congr agree]
  | _ => rfl

theorem advanceOnce_congr
    (forward : NeverBack other)
    {target : Target}
    (agree : AgreeAfter target.targetState.rank advance other) :
    advanceOnce config library advance target =
      advanceOnce config library other target := by
  rw [advanceOnce, advanceOnce]
  split
  · rename_i first
    rw [first] at agree
    simp only [nvmfSubsystemInitDone]
    rw [agree _ (by rw [moveTo_targetState]; decide)]
  · simp only [workOf_congr agree]
    split
    · rfl
    · rename_i changed
      refine agree _ (lt_of_le_of_ne (rank_le_workOf forward target) ?_)
      intro same
      refine changed ?_
      cases first : target.targetState <;>
        cases second :
          (workOf config library other target).targetState <;>
        simp_all [TargetState.rank]

end Depth

/-- One more level of depth changes nothing once there are levels enough. -/
theorem advanceWithin_succ
    (depth : Nat) (target : Target)
    (enough : 8 < depth + target.targetState.rank) :
    advanceWithin config library (depth + 1) target =
      advanceWithin config library depth target := by
  induction depth generalizing target with
  | zero =>
      cases state : target.targetState <;>
        simp_all [TargetState.rank]
  | succ depth induction =>
      rw [advanceWithin, advanceWithin]
      refine advanceOnce_congr (neverBack_advanceWithin depth) ?_
      intro later after
      exact induction later (by omega)

/-- The equation of the source: nested calls are calls of the function. -/
theorem nvmfTargetAdvanceState_eq (target : Target) :
    nvmfTargetAdvanceState config library target =
      advanceOnce config library
        (nvmfTargetAdvanceState config library) target := by
  have enough :
      8 < 9 + target.targetState.rank := by omega
  rw [nvmfTargetAdvanceState, ← advanceWithin_succ 9 target enough]
  rfl

/-! ## Where the loop stops -/

/-- Library calls made one after the other. -/
def Target.logging (target : Target) (calls : List LibraryCall) : Target :=
  { target with log := target.log ++ calls }

@[simp]
theorem logging_targetState (target : Target) (calls : List LibraryCall) :
    (target.logging calls).targetState = target.targetState := rfl

@[simp]
theorem logging_pollers (target : Target) (calls : List LibraryCall) :
    (target.logging calls).pollers = target.pollers := rfl

@[simp]
theorem logging_nil (target : Target) : target.logging [] = target := by
  simp only [Target.logging, List.append_nil]

/-- A call before others is the first of them. -/
@[simp]
theorem logging_calling
    (target : Target) (call : LibraryCall) (calls : List LibraryCall) :
    (target.calling call).logging calls = target.logging (call :: calls) := by
  simp only [Target.logging, Target.calling, List.append_assoc,
    List.cons_append, List.nil_append]

/-- The loop ends after work that leaves the state. -/
theorem nvmfTargetAdvanceState_of_same
    {target worked : Target}
    (work :
      workOf config library (nvmfTargetAdvanceState config library) target =
        worked)
    (later : target.targetState ≠ .initSubsystem)
    (same : worked.targetState = target.targetState) :
    nvmfTargetAdvanceState config library target = worked := by
  rw [nvmfTargetAdvanceState_eq, advanceOnce, if_neg later]
  simp only [work]
  rw [if_pos same]

/-- The loop takes another turn after work that changes the state. -/
theorem nvmfTargetAdvanceState_of_changed
    {target worked : Target}
    (work :
      workOf config library (nvmfTargetAdvanceState config library) target =
        worked)
    (later : target.targetState ≠ .initSubsystem)
    (changed : worked.targetState ≠ target.targetState) :
    nvmfTargetAdvanceState config library target =
      nvmfTargetAdvanceState config library worked := by
  rw [nvmfTargetAdvanceState_eq, advanceOnce, if_neg later]
  simp only [work]
  rw [if_neg changed]

/-- In the last state the subsystems of the library are taken down. -/
def finishing (target : Target) : Target :=
  (target.calling .subsystemFini).await .subsystemFini

theorem advance_finiSubsystem
    {target : Target} (state : target.targetState = .finiSubsystem) :
    nvmfTargetAdvanceState config library target = finishing target := by
  refine nvmfTargetAdvanceState_of_same ?_ (by rw [state]; decide) rfl
  rw [workOf, state]
  rfl

/-- What destroying the target comes to. -/
def destroyingTarget (target : Target) : Target :=
  if target.tgt then
    (target.calling .tgtDestroy).await .tgtDestroy
  else
    finishing (target.moveTo .finiSubsystem)

theorem advance_finiTarget
    {target : Target} (state : target.targetState = .finiTarget) :
    nvmfTargetAdvanceState config library target =
      destroyingTarget target := by
  have work :
      workOf config library (nvmfTargetAdvanceState config library) target =
        nvmfDestroyNvmfTgt target := by
    rw [workOf, state]
  rw [destroyingTarget]
  split
  · rename_i made
    rw [nvmfDestroyNvmfTgt, if_pos made] at work
    exact nvmfTargetAdvanceState_of_same work (by rw [state]; decide) rfl
  · rename_i absent
    rw [nvmfDestroyNvmfTgt, if_neg absent] at work
    rw [nvmfTargetAdvanceState_of_changed work (by rw [state]; decide)
      (by rw [state, moveTo_targetState]; decide)]
    exact advance_finiSubsystem rfl

theorem advance_finiPollGroups
    {target : Target} (state : target.targetState = .finiPollGroups) :
    nvmfTargetAdvanceState config library target =
      nvmfPollGroupsDestroy target := by
  refine nvmfTargetAdvanceState_of_same ?_ (by rw [state]; decide) rfl
  rw [workOf, state]

/-- Asking the poll groups to go a second time sends nothing. -/
@[simp]
theorem nvmfPollGroupsDestroy_again (target : Target) :
    nvmfPollGroupsDestroy (nvmfPollGroupsDestroy target) =
      nvmfPollGroupsDestroy target := by
  simp only [nvmfPollGroupsDestroy, List.map_nil, List.append_nil]

/-! ### Stopping the subsystems -/

/--
The subsystems a chain asks to stop before it waits, and the one it waits
for.
-/
def stopsMade (library : Library) : List Nat → List Nat × Option Nat
  | [] => ([], none)
  | subsystem :: rest =>
      match library.stop subsystem with
      | .later => ([subsystem], some subsystem)
      | _ =>
          (subsystem :: (stopsMade library rest).1,
            (stopsMade library rest).2)

/-- What a chain of stops comes to. -/
def stopping (library : Library) (rest : List Nat) (target : Target) :
    Target :=
  let called :=
    target.logging ((stopsMade library rest).1.map .subsystemStop)
  match (stopsMade library rest).2 with
  | some subsystem => called.await (.stop subsystem)
  | none => nvmfPollGroupsDestroy (called.moveTo .finiPollGroups)

/-- A subsystem that does not stop later is passed at once. -/
theorem stopping_cons_of_ne
    {subsystem : Nat} (passed : library.stop subsystem ≠ .later)
    (rest : List Nat) (target : Target) :
    stopping library (subsystem :: rest) target =
      stopping library rest (target.calling (.subsystemStop subsystem)) := by
  have made :
      stopsMade library (subsystem :: rest) =
        (subsystem :: (stopsMade library rest).1,
          (stopsMade library rest).2) := by
    rw [stopsMade]
    cases answer : library.stop subsystem with
    | later => exact absurd answer passed
    | refused => rfl
    | immediate => rfl
  simp only [stopping, made, List.map_cons, logging_calling]

theorem stopping_cons_of_later
    {subsystem : Nat} (waits : library.stop subsystem = .later)
    (rest : List Nat) (target : Target) :
    stopping library (subsystem :: rest) target =
      (target.calling (.subsystemStop subsystem)).await
        (.stop subsystem) := by
  simp only [stopping, stopsMade, waits]
  rfl

@[simp]
theorem stopFrom_eq (rest : List Nat) (target : Target) :
    stopFrom library (nvmfTargetAdvanceState config library) rest target =
      stopping library rest target := by
  induction rest generalizing target with
  | nil =>
      rw [stopFrom, advance_finiPollGroups rfl, stopping]
      simp only [stopsMade, List.map_nil, logging_nil]
  | cons subsystem rest induction =>
      rw [stopFrom]
      cases answer : library.stop subsystem with
      | later => rw [stopping_cons_of_later answer]
      | refused =>
          rw [stopping_cons_of_ne (by rw [answer]; decide)]
          exact induction _
      | immediate =>
          rw [stopping_cons_of_ne (by rw [answer]; decide)]
          exact induction _

/-- The order in which `get_first` and `get_next` go through subsystems. -/
def chain : List Nat → List Nat
  | [] => []
  | subsystem :: rest =>
      subsystem :: (subsystem :: rest).filter (subsystem < ·)

/-- Subsystems in increasing order are gone through in that order. -/
theorem chain_of_sorted
    {subsystems : List Nat} (sorted : subsystems.Pairwise (· < ·)) :
    chain subsystems = subsystems := by
  cases subsystems with
  | nil => rfl
  | cons subsystem rest =>
      have below := (List.pairwise_cons.mp sorted).1
      rw [chain, List.filter_cons_of_neg (by simp)]
      rw [List.filter_eq_self.mpr fun other member => by
        simpa using below other member]

theorem advance_finiStopSubsystems
    {target : Target} (state : target.targetState = .finiStopSubsystems) :
    nvmfTargetAdvanceState config library target =
      stopping library (chain target.subsystems)
        (unregisterPoller target) := by
  have later : target.targetState ≠ .initSubsystem := by
    rw [state]
    decide
  have work :
      workOf config library (nvmfTargetAdvanceState config library) target =
        stopping library (chain target.subsystems)
            (unregisterPoller target) ∨
      target.subsystems = [] ∧
        workOf config library (nvmfTargetAdvanceState config library)
            target =
          (unregisterPoller target).moveTo .finiPollGroups := by
    rw [workOf, state]
    simp only [nvmfTgtStopSubsystems, unregisterPoller_subsystems]
    cases subsystems : target.subsystems with
    | nil => exact Or.inr ⟨rfl, rfl⟩
    | cons subsystem rest =>
        refine Or.inl ?_
        have next :
            nvmfTgtSubsystemStopNext library
                (nvmfTargetAdvanceState config library) subsystem
                ((unregisterPoller target).calling
                  (.subsystemStop subsystem)) =
              stopping library
                ((subsystem :: rest).filter (subsystem < ·))
                ((unregisterPoller target).calling
                  (.subsystemStop subsystem)) := by
          rw [nvmfTgtSubsystemStopNext, stopFrom_eq, calling_subsystems,
            unregisterPoller_subsystems, subsystems]
        rw [chain]
        cases answer : library.stop subsystem with
        | later =>
            rw [stopping_cons_of_later answer]
            simp only [answer]
        | refused =>
            rw [stopping_cons_of_ne (by rw [answer]; decide)]
            simp only [answer]
            exact next
        | immediate =>
            rw [stopping_cons_of_ne (by rw [answer]; decide)]
            simp only [answer]
            exact next
  rcases work with work | ⟨none, work⟩
  · -- a chain that came to its end inside the work has run the next state
    cases waits :
        (stopsMade library (chain target.subsystems)).2 with
    | some subsystem =>
        refine nvmfTargetAdvanceState_of_same work later ?_
        simp only [stopping, waits]
        rfl
    | none =>
        have reached :
            (stopping library (chain target.subsystems)
              (unregisterPoller target)).targetState =
                .finiPollGroups := by
          simp only [stopping, waits]
          rfl
        rw [nvmfTargetAdvanceState_of_changed work later
          (by rw [reached, state]; decide),
          advance_finiPollGroups reached]
        simp only [stopping, waits, nvmfPollGroupsDestroy_again]
  · rw [nvmfTargetAdvanceState_of_changed work later
      (by rw [state, moveTo_targetState]; decide),
      advance_finiPollGroups rfl, none]
    simp only [chain, stopping, stopsMade, List.map_nil, logging_nil]

/-! ### Starting the subsystems -/

/-- The target runs, and may move its poll groups from core to core. -/
def runningTarget (config : Config) (target : Target) : Target :=
  if config.migratePgPeriodUs ≠ 0 then
    registerPoller (target.moveTo .running)
  else
    target.moveTo .running

@[simp]
theorem runningTarget_targetState (config : Config) (target : Target) :
    (runningTarget config target).targetState = .running := by
  rw [runningTarget]
  split
  · rfl
  · rfl

@[simp]
theorem runningTarget_subsystems (config : Config) (target : Target) :
    (runningTarget config target).subsystems = target.subsystems := by
  rw [runningTarget]
  split
  · rfl
  · rfl

@[simp]
theorem runningTarget_failed (config : Config) (target : Target) :
    (runningTarget config target).failed = target.failed := by
  rw [runningTarget]
  split
  · rfl
  · rfl

@[simp]
theorem advance_running (target : Target) :
    nvmfTargetAdvanceState config library (target.moveTo .running) =
      runningTarget config target := by
  have later : (target.moveTo .running).targetState ≠ .initSubsystem := by
    rw [moveTo_targetState]
    decide
  refine nvmfTargetAdvanceState_of_same rfl later ?_
  rw [runningTarget]
  split <;> rfl

/-- What a chain of starts comes to. -/
def starting (config : Config) (library : Library) :
    List Nat → Target → Target
  | [], target => runningTarget config target
  | subsystem :: rest, target =>
      let called := target.calling (.subsystemStart subsystem)
      match library.start subsystem with
      | .later => called.await (.start subsystem)
      | .immediate => starting config library rest called
      | .refused =>
          stopping library (chain target.subsystems)
            (unregisterPoller (called.moveTo .finiStopSubsystems))

@[simp]
theorem startFrom_eq (rest : List Nat) (target : Target) :
    startFrom library (nvmfTargetAdvanceState config library) rest target =
      starting config library rest target := by
  induction rest generalizing target with
  | nil => rw [startFrom, advance_running, starting]
  | cons subsystem rest induction =>
      rw [startFrom, starting]
      cases library.start subsystem with
      | later => rfl
      | refused => exact advance_finiStopSubsystems rfl
      | immediate => exact induction _

/--
A first start that calls back inside the call would have the loop do the work
of `running` a second time.
-/
theorem advance_initStartSubsystems
    {target : Target}
    (notAtOnce :
      ∀ subsystem ∈ target.subsystems.head?,
        library.start subsystem ≠ .immediate)
    (state : target.targetState = .initStartSubsystems) :
    nvmfTargetAdvanceState config library target =
      starting config library target.subsystems target := by
  have later : target.targetState ≠ .initSubsystem := by
    rw [state]
    decide
  have work :
      workOf config library (nvmfTargetAdvanceState config library) target =
        nvmfTgtStartSubsystems library
          (nvmfTargetAdvanceState config library) target := by
    rw [workOf, state]
  rw [nvmfTgtStartSubsystems] at work
  cases subsystems : target.subsystems with
  | nil =>
      simp only [subsystems] at work
      rw [nvmfTargetAdvanceState_of_changed work later
        (by rw [state, moveTo_targetState]; decide), advance_running,
        starting]
  | cons subsystem rest =>
      simp only [subsystems] at work
      rw [starting]
      cases answer : library.start subsystem with
      | later =>
          simp only [answer] at work
          exact nvmfTargetAdvanceState_of_same work later rfl
      | refused =>
          simp only [answer] at work
          rw [nvmfTargetAdvanceState_of_changed work later
            (by rw [state, moveTo_targetState]; decide)]
          exact advance_finiStopSubsystems rfl
      | immediate =>
          have first : subsystem ∈ target.subsystems.head? := by
            rw [subsystems]
            exact Option.mem_some_self subsystem
          exact absurd answer (notAtOnce subsystem first)

/-! ### Bringing the target up -/

/-- What follows once the subsystems of the library are there. -/
def bringingUp (config : Config) (library : Library) (target : Target) :
    Target :=
  let called := target.calling .rpcInitialize
  if library.rpcInitialize then
    let created := nvmfCreateNvmfTgt library (called.moveTo .initTarget)
    if created.targetState = .initPollGroups then
      nvmfPollGroupsCreate config created
    else
      destroyingTarget created
  else
    called.calling .appStop

theorem advance_initPollGroups
    {target : Target} (state : target.targetState = .initPollGroups) :
    nvmfTargetAdvanceState config library target =
      nvmfPollGroupsCreate config target := by
  refine nvmfTargetAdvanceState_of_same ?_ (by rw [state]; decide)
    (createThreads_targetState _ _)
  rw [workOf, state]

theorem nvmfCreateNvmfTgt_targetState
    (library : Library) (target : Target) :
    (nvmfCreateNvmfTgt library target).targetState = .initPollGroups ∨
      (nvmfCreateNvmfTgt library target).targetState = .finiTarget := by
  rw [nvmfCreateNvmfTgt]
  simp only
  split
  · split
    · exact Or.inl rfl
    · exact Or.inr rfl
  · exact Or.inr rfl

@[simp]
theorem nvmfSubsystemInitDone_eq (target : Target) :
    nvmfSubsystemInitDone library (nvmfTargetAdvanceState config library)
        target =
      bringingUp config library target := by
  rw [nvmfSubsystemInitDone, bringingUp]
  simp only
  split
  · have work :
        workOf config library (nvmfTargetAdvanceState config library)
            ((target.calling .rpcInitialize).moveTo .initTarget) =
          nvmfCreateNvmfTgt library
            ((target.calling .rpcInitialize).moveTo .initTarget) := by
      rw [workOf, moveTo_targetState]
    rcases nvmfCreateNvmfTgt_targetState library
        ((target.calling .rpcInitialize).moveTo .initTarget) with
      made | missing
    · rw [nvmfTargetAdvanceState_of_changed work
        (by rw [moveTo_targetState]; decide)
        (by rw [made, moveTo_targetState]; decide),
        advance_initPollGroups made, if_pos made]
    · rw [nvmfTargetAdvanceState_of_changed work
        (by rw [moveTo_targetState]; decide)
        (by rw [missing, moveTo_targetState]; decide),
        advance_finiTarget missing, if_neg (by rw [missing]; decide)]
  · rfl

/-- What the message that starts the application comes to. -/
def launching (config : Config) (library : Library) (target : Target) :
    Target :=
  let called := (target.moveTo .initSubsystem).calling .subsystemInit
  if library.initImmediate then
    bringingUp config library called
  else
    called.await .subsystemInit

@[simp]
theorem nvmfTargetAppStart_eq (target : Target) :
    nvmfTargetAppStart config library target =
      launching config library target := by
  rw [nvmfTargetAppStart, nvmfTargetAdvanceState_eq, advanceOnce,
    if_pos (moveTo_targetState _ _), launching]
  simp only [nvmfSubsystemInitDone_eq]

/-- The threads of the poll groups are numbered one after the other. -/
theorem createThreads_eq (cores : List Nat) (target : Target) :
    createThreads cores target =
      { target with
        threads := target.threads + cores.length
        groupQueue :=
          target.groupQueue ++
            (List.range' target.threads cores.length).map fun pg =>
              (pg, .createPollGroup)
        log := target.log ++ cores.map .threadCreate } := by
  induction cores generalizing target with
  | nil =>
      simp only [createThreads, List.length_nil, Nat.add_zero,
        List.range'_zero, List.map_nil, List.append_nil]
  | cons core rest induction =>
      rw [createThreads, induction]
      simp only [Target.calling, List.length_cons, List.range'_succ,
        List.map_cons, List.append_assoc, List.cons_append,
        List.nil_append, Nat.add_assoc, Nat.add_comm 1]

/-- The four ways in which bringing the target up can go. -/
inductive BroughtUp (config : Config) (target : Target) : Target → Prop where
  | withoutRpc :
      BroughtUp config target (target.logging [.rpcInitialize, .appStop])
  | withoutTarget :
      BroughtUp config target
        { target.logging
            [.rpcInitialize, .tgtCreate, .subsystemFini] with
          targetState := .finiSubsystem
          tgt := false
          pending := target.pending ++ [.subsystemFini] }
  | withoutDiscovery :
      BroughtUp config target
        { target.logging
            [.rpcInitialize, .tgtCreate, .subsystemCreate, .tgtDestroy] with
          targetState := .finiTarget
          tgt := true
          subsystems := []
          pending := target.pending ++ [.tgtDestroy] }
  | asksForGroups :
      BroughtUp config target
        { target.logging
            ([.rpcInitialize, .tgtCreate, .subsystemCreate] ++
              config.cores.map .threadCreate) with
          targetState := .initPollGroups
          tgt := true
          subsystems := [0]
          threads := target.threads + config.cores.length
          groupQueue :=
            target.groupQueue ++
              (List.range' target.threads config.cores.length).map
                fun pg => (pg, .createPollGroup) }

theorem broughtUp_bringingUp
    (config : Config) (library : Library) (target : Target) :
    BroughtUp config target (bringingUp config library target) := by
  cases rpc : library.rpcInitialize with
  | false =>
      simp only [bringingUp, rpc, Bool.false_eq_true, ↓reduceIte,
        Target.calling, List.append_assoc, List.cons_append,
        List.nil_append]
      exact .withoutRpc
  | true =>
      cases made : library.tgtCreate with
      | false =>
          simp only [bringingUp, rpc, nvmfCreateNvmfTgt, made,
            Bool.false_eq_true, ↓reduceIte, reduceCtorEq,
            destroyingTarget, finishing, Target.calling, Target.moveTo,
            Target.await, List.append_assoc, List.cons_append,
            List.nil_append]
          exact .withoutTarget
      | true =>
          cases found : library.subsystemCreate with
          | false =>
              simp only [bringingUp, rpc, nvmfCreateNvmfTgt, made, found,
                Bool.false_eq_true, ↓reduceIte, reduceCtorEq,
                destroyingTarget, Target.calling, Target.moveTo,
                Target.await, List.append_assoc, List.cons_append,
                List.nil_append]
              exact .withoutDiscovery
          | true =>
              simp only [bringingUp, rpc, nvmfCreateNvmfTgt, made, found,
                ↓reduceIte, nvmfPollGroupsCreate, createThreads_eq,
                Target.calling, Target.moveTo, List.append_assoc,
                List.cons_append, List.nil_append]
              exact .asksForGroups

end ZnsBench.Nvmf.TargetLifecycle

import ZnsBench.Nvmf.PollGroupOwnership

/-!
# The order of the library calls

What is brought up last is taken down first, and nothing is done twice: the
target is destroyed when all its poll groups are gone, poll groups go when
all subsystems have been asked to stop, and the subsystems of the library
come down last.  The order is that of the stages of the calls.
-/

namespace ZnsBench.Nvmf.TargetLifecycle

variable {config : Config} {quiet : Prop} {target next : Target}
    {pg : Nat}

/-- Calls of a stage come after all calls of the stages before. -/
def LibraryCall.stage : LibraryCall → Nat
  | .subsystemInit => 0
  | .rpcInitialize => 1
  | .appStop => 1
  | .tgtCreate => 2
  | .subsystemCreate => 2
  | .threadCreate _ => 3
  | .pollGroupCreate _ => 3
  | .subsystemStart _ => 4
  | .pollerRegister => 5
  | .pollerUnregister => 6
  | .subsystemStop _ => 6
  | .pollGroupDestroy _ => 7
  | .tgtDestroy => 8
  | .subsystemFini => 9
  | .rpcFinish => 10

/-- The last stage of which a call can have been made. -/
def TargetState.ceiling : TargetState → Nat
  | .initSubsystem => 1
  | .initTarget => 2
  | .initPollGroups => 3
  | .initStartSubsystems => 4
  | .running => 5
  | .finiStopSubsystems => 6
  | .finiPollGroups => 7
  | .finiTarget => 8
  | .finiSubsystem => 10

/-- Calls in the order of their stages, none of them twice. -/
structure InOrder (log : List LibraryCall) (top : Nat) : Prop where
  sorted :
    log.Pairwise fun earlier later => earlier.stage ≤ later.stage
  nodup : log.Nodup
  below : ∀ call ∈ log, call.stage ≤ top

/-- New calls of the present stage or a later one. -/
theorem InOrder.append
    {log calls : List LibraryCall} {top last : Nat}
    (order : InOrder log top)
    (calls_sorted :
      calls.Pairwise fun earlier later => earlier.stage ≤ later.stage)
    (calls_nodup : calls.Nodup)
    (staged : ∀ call ∈ calls, top ≤ call.stage ∧ call.stage ≤ last)
    (fresh : ∀ call ∈ calls, call ∉ log)
    (rises : top ≤ last) :
    InOrder (log ++ calls) last where
  sorted := by
    refine List.pairwise_append.mpr ⟨order.sorted, calls_sorted, ?_⟩
    intro earlier old later new
    exact (order.below earlier old).trans (staged later new).1
  nodup := by
    refine List.nodup_append.mpr ⟨order.nodup, calls_nodup, ?_⟩
    rintro earlier old later new rfl
    exact fresh earlier new old
  below := by
    intro call member
    rcases List.mem_append.mp member with old | new
    · exact (order.below call old).trans rises
    · exact (staged call new).2

/-- Calls of later stages are new. -/
theorem InOrder.append_above
    {log calls : List LibraryCall} {top last : Nat}
    (order : InOrder log top)
    (calls_sorted :
      calls.Pairwise fun earlier later => earlier.stage ≤ later.stage)
    (calls_nodup : calls.Nodup)
    (staged : ∀ call ∈ calls, top < call.stage ∧ call.stage ≤ last)
    (rises : top ≤ last) :
    InOrder (log ++ calls) last :=
  order.append calls_sorted calls_nodup
    (fun call new => ⟨(staged call new).1.le, (staged call new).2⟩)
    (fun call new old =>
      absurd (order.below call old) (Nat.not_le.mpr (staged call new).1))
    rises

theorem InOrder.append_one
    {log : List LibraryCall} {top : Nat} {call : LibraryCall}
    (order : InOrder log top)
    (stage : top ≤ call.stage) (fresh : call ∉ log) :
    InOrder (log ++ [call]) call.stage := by
  refine order.append (List.pairwise_singleton _ _)
    (List.nodup_singleton _) ?_ ?_ stage
  · intro other member
    cases List.mem_singleton.mp member
    exact ⟨stage, le_refl _⟩
  · intro other member
    cases List.mem_singleton.mp member
    exact fresh

theorem InOrder.mono
    {log : List LibraryCall} {top last : Nat}
    (order : InOrder log top) (rises : top ≤ last) : InOrder log last where
  sorted := order.sorted
  nodup := order.nodup
  below := fun call member => (order.below call member).trans rises

theorem InOrder.notMem_of_lt
    {log : List LibraryCall} {top : Nat} {call : LibraryCall}
    (order : InOrder log top) (above : top < call.stage) : call ∉ log :=
  fun member => absurd (order.below call member) (Nat.not_le.mpr above)

/-- What the log says about the rest of the state. -/
structure Ordered (target : Target) : Prop where
  order : InOrder target.log target.targetState.ceiling
  fresh : 0 < launches target → target.log = []
  waits :
    .subsystemInit ∈ target.pending → InOrder target.log 0
  made :
    ∀ pg, .pollGroupCreate pg ∈ target.log →
      (pg, .createPollGroup) ∉ target.groupQueue
  dropped :
    ∀ pg, .pollGroupDestroy pg ∈ target.log →
      (pg, .destroyPollGroup) ∉ target.groupQueue
  started :
    ∀ earlier, .subsystemStart earlier ∈ target.log →
      ∀ subsystem, .start subsystem ∈ target.pending →
        earlier ≤ subsystem
  stopped :
    ∀ earlier, .subsystemStop earlier ∈ target.log →
      ∀ subsystem, .stop subsystem ∈ target.pending →
        earlier ≤ subsystem
  finished : .rpcFinish ∈ target.log → target.reactorsExit = true
  subsystems : target.subsystems.Pairwise (· < ·)

theorem inOrder_nil (top : Nat) : InOrder [] top where
  sorted := List.Pairwise.nil
  nodup := List.nodup_nil
  below := fun _ member => (List.not_mem_nil member).elim

theorem ordered_initial : Ordered initial where
  order := inOrder_nil _
  fresh := fun _ => rfl
  waits := fun _ => inOrder_nil _
  made := fun _ member => (List.not_mem_nil member).elim
  dropped := fun _ member => (List.not_mem_nil member).elim
  started := fun _ member => (List.not_mem_nil member).elim
  stopped := fun _ member => (List.not_mem_nil member).elim
  finished := fun member => (List.not_mem_nil member).elim
  subsystems := List.Pairwise.nil

/-- Steps that make no call. -/
theorem Ordered.congr
    (ordered : Ordered target)
    (log : next.log = target.log)
    (targetState : next.targetState = target.targetState)
    (pending : next.pending = target.pending)
    (launched : launches next ≤ launches target)
    (queue :
      ∀ pg message, message ≠ .migrate →
        (pg, message) ∈ next.groupQueue →
          (pg, message) ∈ target.groupQueue)
    (stays : next.reactorsExit = target.reactorsExit)
    (subsystems : next.subsystems.Pairwise (· < ·)) :
    Ordered next where
  order := by
    rw [log, targetState]
    exact ordered.order
  fresh := fun some => log.trans (ordered.fresh (some.trans_le launched))
  waits := by
    rw [log, pending]
    exact ordered.waits
  made := by
    intro pg member waiting
    rw [log] at member
    exact ordered.made pg member (queue pg _ (by decide) waiting)
  dropped := by
    intro pg member waiting
    rw [log] at member
    exact ordered.dropped pg member (queue pg _ (by decide) waiting)
  started := by
    rw [log, pending]
    exact ordered.started
  stopped := by
    rw [log, pending]
    exact ordered.stopped
  finished := by
    rw [log, stays]
    exact ordered.finished
  subsystems := subsystems

/-- What has to be shown of a state after the first, one part each. -/
theorem Ordered.of_phase
    (phase : Phase config next)
    (left : next.targetState ≠ .initSubsystem)
    (order : InOrder next.log next.targetState.ceiling)
    (made :
      next.targetState = .initPollGroups →
        ∀ pg, .pollGroupCreate pg ∈ next.log →
          (pg, .createPollGroup) ∉ next.groupQueue)
    (dropped :
      next.targetState = .finiPollGroups →
        ∀ pg, .pollGroupDestroy pg ∈ next.log →
          (pg, .destroyPollGroup) ∉ next.groupQueue)
    (started :
      next.targetState = .initStartSubsystems →
        ∀ earlier, .subsystemStart earlier ∈ next.log →
          ∀ subsystem, .start subsystem ∈ next.pending →
            earlier ≤ subsystem)
    (stopped :
      next.targetState = .finiStopSubsystems →
        ∀ earlier, .subsystemStop earlier ∈ next.log →
          ∀ subsystem, .stop subsystem ∈ next.pending →
            earlier ≤ subsystem)
    (finished :
      next.targetState = .finiSubsystem →
        .rpcFinish ∈ next.log → next.reactorsExit = true)
    (subsystems : next.subsystems.Pairwise (· < ·)) :
    Ordered next where
  order := order
  fresh := fun some => absurd (phase.of_launches some).1 left
  waits := fun waiting => absurd (phase.of_pending waiting).1 left
  made := by
    intro pg member waiting
    have some : 0 < creates next :=
      List.countP_pos_iff.mpr ⟨_, waiting, by simp⟩
    exact made (phase.of_creates (by omega)).1 pg member waiting
  dropped := by
    intro pg member waiting
    have some : 0 < destroys next :=
      List.countP_pos_iff.mpr ⟨_, waiting, by simp⟩
    exact dropped (phase.of_destroys (by omega)).1 pg member waiting
  started := by
    intro earlier member subsystem waiting
    exact started (phase.of_pending waiting).1 earlier member subsystem
      waiting
  stopped := by
    intro earlier member subsystem waiting
    exact stopped (phase.of_pending waiting).1 earlier member subsystem
      waiting
  finished := by
    intro member
    have high := order.below _ member
    refine finished ?_ member
    cases state : next.targetState with
    | finiSubsystem => rfl
    | _ =>
        rw [state] at high
        exact absurd high (by decide)
  subsystems := subsystems

/-- What is asked of one state only need not be shown of another. -/
theorem of_other_state
    {state other : TargetState} {Claim : Prop}
    (final : next.targetState = state) (differs : state ≠ other) :
    next.targetState = other → Claim := fun same =>
  absurd (final.symm.trans same) differs

/-! ## Chains of stops and starts -/

theorem pairwise_map_same_stage
    {calls : List LibraryCall} {stage : Nat}
    (all : ∀ call ∈ calls, call.stage = stage) :
    calls.Pairwise fun earlier later => earlier.stage ≤ later.stage :=
  List.pairwise_of_forall_mem_list fun earlier first later second => by
    rw [all earlier first, all later second]

/-- Calls about further subsystems, in increasing order, are new. -/
theorem InOrder.append_chain
    {log : List LibraryCall} {made : List Nat} {stage : Nat}
    {call : Nat → LibraryCall}
    (injective : Function.Injective call)
    (staged : ∀ subsystem, (call subsystem).stage = stage)
    (order : InOrder log stage)
    (increasing : made.Pairwise (· < ·))
    (above :
      ∀ earlier, call earlier ∈ log →
        ∀ subsystem ∈ made, earlier < subsystem) :
    InOrder (log ++ made.map call) stage := by
  have all : ∀ other ∈ made.map call, other.stage = stage := by
    intro other member
    rcases List.mem_map.mp member with ⟨subsystem, _, rfl⟩
    exact staged subsystem
  refine order.append (pairwise_map_same_stage all) ?_ ?_ ?_ (le_refl _)
  · exact List.Nodup.map injective (increasing.imp fun less => less.ne)
  · intro other member
    rw [all other member]
    exact ⟨le_refl _, le_refl _⟩
  · intro other member old
    rcases List.mem_map.mp member with ⟨subsystem, inside, rfl⟩
    exact absurd (above subsystem old subsystem inside) (lt_irrefl _)

theorem InOrder.append_stops
    {log : List LibraryCall} {made : List Nat}
    (order : InOrder log 6)
    (increasing : made.Pairwise (· < ·))
    (above :
      ∀ earlier, .subsystemStop earlier ∈ log →
        ∀ subsystem ∈ made, earlier < subsystem) :
    InOrder (log ++ made.map .subsystemStop) 6 :=
  order.append_chain (fun _ _ => LibraryCall.subsystemStop.inj)
    (fun _ => rfl) increasing above

theorem InOrder.append_starts
    {log : List LibraryCall} {made : List Nat}
    (order : InOrder log 4)
    (increasing : made.Pairwise (· < ·))
    (above :
      ∀ earlier, .subsystemStart earlier ∈ log →
        ∀ subsystem ∈ made, earlier < subsystem) :
    InOrder (log ++ made.map .subsystemStart) 4 :=
  order.append_chain (fun _ _ => LibraryCall.subsystemStart.inj)
    (fun _ => rfl) increasing above

/-- A chain waits for the greatest subsystem it has called so far. -/
theorem le_of_begins
    {log : List LibraryCall} {rest made : List Nat} {subsystem : Nat}
    {call : Nat → LibraryCall}
    (injective : Function.Injective call)
    (increasing : rest.Pairwise (· < ·))
    (above :
      ∀ earlier, call earlier ∈ log → ∀ other ∈ rest, earlier < other)
    (begins : made ++ [subsystem] <+: rest)
    {earlier : Nat}
    (member : call earlier ∈ log ++ (made ++ [subsystem]).map call) :
    earlier ≤ subsystem := by
  have part := increasing.sublist begins.sublist
  have inside : subsystem ∈ rest :=
    begins.subset (List.mem_append_right _ List.mem_cons_self)
  rcases List.mem_append.mp member with old | new
  · exact (above earlier old subsystem inside).le
  · rcases List.mem_map.mp new with ⟨_, found, same⟩
    cases injective same
    rcases List.mem_append.mp found with before | final
    · exact ((List.pairwise_append.mp part).2.2 earlier before
        subsystem List.mem_cons_self).le
    · exact (List.mem_singleton.mp final).le

/-- A state that waits for one call waits for no other of the kind. -/
theorem Phase.awaited
    {awaiting : Target} {call : Pending}
    (phase : Phase config (awaiting.await call))
    {other : Pending} (single : other.isDestroy = false)
    (waiting : other ∈ (awaiting.await call).pending) : other = call := by
  have alone := (phase.of_pending waiting).2 single
  have last : call ∈ (awaiting.await call).pending :=
    List.mem_append_right _ List.mem_cons_self
  rw [alone] at last
  exact (List.mem_singleton.mp last).symm

theorem ordered_stopped
    (phase : Phase config next)
    (order : InOrder target.log 6)
    (state : target.targetState = .finiStopSubsystems)
    {rest : List Nat}
    (increasing : rest.Pairwise (· < ·))
    (above :
      ∀ earlier, .subsystemStop earlier ∈ target.log →
        ∀ subsystem ∈ rest, earlier < subsystem)
    (subsystems : target.subsystems.Pairwise (· < ·))
    (stops : Stopped rest target next) :
    Ordered next := by
  cases stops with
  | @waits made subsystem begins =>
      have part := increasing.sublist begins.sublist
      have final :
          ((target.logging
            ((made ++ [subsystem]).map .subsystemStop)).await
              (.stop subsystem)).targetState =
                .finiStopSubsystems := state
      refine Ordered.of_phase phase (by rw [final]; decide) ?_
        (of_other_state final (by decide))
        (of_other_state final (by decide))
        (of_other_state final (by decide))
        ?_
        (of_other_state final (by decide))
        subsystems
      · rw [final]
        exact order.append_stops part fun earlier old other member =>
          above earlier old other (begins.subset member)
      · intro _ earlier member other waiting
        cases phase.awaited rfl waiting
        exact le_of_begins (fun _ _ => LibraryCall.subsystemStop.inj)
          increasing above begins member
  | passes =>
      have final :
          (nvmfPollGroupsDestroy
            ((target.logging (rest.map .subsystemStop)).moveTo
              .finiPollGroups)).targetState = .finiPollGroups := rfl
      have stopped := order.append_stops increasing above
      refine Ordered.of_phase phase (by rw [final]; decide)
        (stopped.mono (show 6 ≤ 7 by decide))
        (of_other_state final (by decide))
        ?_
        (of_other_state final (by decide))
        (of_other_state final (by decide))
        (of_other_state final (by decide))
        subsystems
      intro _ pg member
      exact absurd member (stopped.notMem_of_lt (show 6 < 7 by decide))

theorem ordered_runningTarget
    (phase : Phase config (runningTarget config target))
    (order : InOrder target.log 4)
    (subsystems : target.subsystems.Pairwise (· < ·)) :
    Ordered (runningTarget config target) := by
  have final := runningTarget_targetState config target
  have log : InOrder (runningTarget config target).log 5 := by
    rw [runningTarget]
    split
    · exact order.append_one (by decide) (order.notMem_of_lt (by decide))
    · exact order.mono (by decide)
  exact Ordered.of_phase phase (by rw [final]; decide)
    (by rw [final]; exact log)
    (of_other_state final (by decide))
    (of_other_state final (by decide))
    (of_other_state final (by decide))
    (of_other_state final (by decide))
    (of_other_state final (by decide))
    (by rw [runningTarget_subsystems]; exact subsystems)

/-- A target that has begun to start its subsystems may be shut down. -/
theorem InOrder.unregistered
    {log : List LibraryCall} {top : Nat}
    (order : InOrder log top) (below : top < 6) :
    InOrder (log ++ [.pollerUnregister]) 6 ∧
      ∀ subsystem,
        .subsystemStop subsystem ∉ log ++ [.pollerUnregister] := by
  refine ⟨order.append_one below.le (order.notMem_of_lt below), ?_⟩
  intro subsystem member
  rcases List.mem_append.mp member with old | new
  · exact absurd old (order.notMem_of_lt below)
  · cases List.mem_singleton.mp new

/-- The chain of stops that takes a target down. -/
theorem ordered_shut
    {top : Nat} (phase : Phase config next)
    (order : InOrder target.log top) (below : top < 6)
    (subsystems : target.subsystems.Pairwise (· < ·))
    (stops :
      Stopped (chain target.subsystems)
        (unregisterPoller (target.moveTo .finiStopSubsystems)) next) :
    Ordered next := by
  rcases order.unregistered below with ⟨down, silent⟩
  rw [chain_of_sorted subsystems] at stops
  refine ordered_stopped phase ?_ ?_ subsystems ?_ ?_ stops
  · exact down
  · rfl
  · exact fun earlier member => absurd member (silent earlier)
  · exact subsystems

theorem ordered_started
    (phase : Phase config next)
    (order : InOrder target.log 4)
    (state : target.targetState = .initStartSubsystems)
    {rest : List Nat}
    (increasing : rest.Pairwise (· < ·))
    (above :
      ∀ earlier, .subsystemStart earlier ∈ target.log →
        ∀ subsystem ∈ rest, earlier < subsystem)
    (subsystems : target.subsystems.Pairwise (· < ·))
    (starts : Started config rest target next) :
    Ordered next := by
  cases starts with
  | runs =>
      refine ordered_runningTarget phase ?_ ?_
      · exact order.append_starts increasing above
      · exact subsystems
  | @waits made subsystem begins =>
      have part := increasing.sublist begins.sublist
      have final :
          ((target.logging
            ((made ++ [subsystem]).map .subsystemStart)).await
              (.start subsystem)).targetState =
                .initStartSubsystems := state
      refine Ordered.of_phase phase (by rw [final]; decide) ?_
        (of_other_state final (by decide))
        (of_other_state final (by decide))
        ?_
        (of_other_state final (by decide))
        (of_other_state final (by decide))
        subsystems
      · rw [final]
        exact order.append_starts part fun earlier old other member =>
          above earlier old other (begins.subset member)
      · intro _ earlier member other waiting
        cases phase.awaited rfl waiting
        exact le_of_begins (fun _ _ => LibraryCall.subsystemStart.inj)
          increasing above begins member
  | @refused made _ begins stops =>
      have called :
          InOrder (target.logging (made.map .subsystemStart)).log 4 :=
        order.append_starts (increasing.sublist begins.sublist)
          fun earlier old other member =>
            above earlier old other (begins.subset member)
      exact ordered_shut phase called (by decide) subsystems stops

/-! ## Bringing the target up -/

theorem InOrder.created
    {log : List LibraryCall} (order : InOrder log 0) :
    InOrder (log ++ [.rpcInitialize, .tgtCreate, .subsystemCreate]) 2 := by
  refine order.append_above (by decide) (by decide) ?_ (by decide)
  decide

theorem InOrder.threaded
    {log : List LibraryCall} (order : InOrder log 2)
    {cores : List Nat} (distinct : cores.Nodup) :
    InOrder (log ++ cores.map .threadCreate) 3 := by
  have stage :
      ∀ call ∈ cores.map LibraryCall.threadCreate, call.stage = 3 := by
    intro call member
    rcases List.mem_map.mp member with ⟨_, _, rfl⟩
    rfl
  refine order.append_above (pairwise_map_same_stage stage) ?_ ?_
    (by decide)
  · refine List.Nodup.map ?_ distinct
    intro first second same
    cases same
    rfl
  · intro call member
    rw [stage call member]
    decide

theorem ordered_broughtUp
    (phase : Phase config next)
    (order : InOrder target.log 0)
    (state : target.targetState = .initSubsystem)
    (launched : launches target = 0)
    (pending : target.pending = [])
    (subsystems : target.subsystems.Pairwise (· < ·))
    (up : BroughtUp config target next) :
    Ordered next := by
  cases up with
  | withoutRpc =>
      have log :
          InOrder (target.log ++ [.rpcInitialize, .appStop]) 1 := by
        refine order.append_above (by decide) (by decide) ?_ (by decide)
        decide
      have idle :
          ∀ call : Pending, call ∉
            (target.logging [.rpcInitialize, .appStop]).pending := by
        intro call member
        rw [show (target.logging _).pending = target.pending from rfl,
          pending] at member
        exact List.not_mem_nil member
      refine
        { order := ?_
          fresh := fun some => absurd launched some.ne'
          waits := fun waiting => absurd waiting (idle _)
          made := fun _ member => absurd member
            (log.notMem_of_lt (show 1 < 3 by decide))
          dropped := fun _ member => absurd member
            (log.notMem_of_lt (show 1 < 7 by decide))
          started := fun _ _ _ waiting => absurd waiting (idle _)
          stopped := fun _ _ _ waiting => absurd waiting (idle _)
          finished := fun member => absurd member
            (log.notMem_of_lt (show 1 < 10 by decide))
          subsystems := subsystems }
      rw [logging_targetState, state]
      exact log
  | withoutTarget =>
      have log :
          InOrder
            (target.log ++ [.rpcInitialize, .tgtCreate, .subsystemFini])
            9 := by
        refine order.append_above (by decide) (by decide) ?_ (by decide)
        decide
      exact Ordered.of_phase phase nofun (log.mono (show 9 ≤ 10 by decide))
        nofun nofun nofun nofun
        (fun _ member => absurd member
          (log.notMem_of_lt (show 9 < 10 by decide)))
        subsystems
  | withoutDiscovery =>
      have log :
          InOrder
            (target.log ++
              [.rpcInitialize, .tgtCreate, .subsystemCreate, .tgtDestroy])
            8 := by
        refine order.append_above (by decide) (by decide) ?_ (by decide)
        decide
      exact Ordered.of_phase phase nofun log nofun nofun nofun nofun nofun
        List.Pairwise.nil
  | asksForGroups =>
      have log :
          InOrder
            (target.log ++
              ([.rpcInitialize, .tgtCreate, .subsystemCreate] ++
                config.cores.map .threadCreate)) 3 := by
        rw [← List.append_assoc]
        exact order.created.threaded config.cores_nodup
      refine Ordered.of_phase phase nofun log ?_ nofun nofun nofun nofun
        (List.pairwise_singleton _ _)
      intro _ pg member
      rcases List.mem_append.mp member with old | new
      · exact absurd old (order.notMem_of_lt (show 0 < 3 by decide))
      · rcases List.mem_append.mp new with first | thread
        · exact absurd first (by simp)
        · rcases List.mem_map.mp thread with ⟨_, _, same⟩
          cases same

/-! ## Whole runs -/

theorem pairwise_lt_orderedInsert
    {subsystems : List Nat} {subsystem : Nat}
    (sorted : subsystems.Pairwise (· < ·))
    (fresh : subsystem ∉ subsystems) :
    (subsystems.orderedInsert (· ≤ ·) subsystem).Pairwise (· < ·) := by
  induction subsystems with
  | nil => exact List.pairwise_singleton _ _
  | cons first rest induction =>
      have parts := List.pairwise_cons.mp sorted
      have absent : subsystem ≠ first ∧ subsystem ∉ rest := by
        simpa only [List.mem_cons, not_or] using fresh
      rw [List.orderedInsert_cons]
      split
      · rename_i before
        have less : subsystem < first := lt_of_le_of_ne before absent.1
        refine List.pairwise_cons.mpr ⟨?_, sorted⟩
        intro other member
        rcases List.mem_cons.mp member with rfl | later
        · exact less
        · exact less.trans (parts.1 other later)
      · rename_i after
        refine List.pairwise_cons.mpr
          ⟨?_, induction parts.2 absent.2⟩
        intro other member
        rcases (List.mem_orderedInsert _).mp member with rfl | old
        · exact Nat.not_le.mp after
        · exact parts.1 other old

/-- Steps that make no call and give the target no subsystem. -/
theorem Ordered.quietly
    (ordered : Ordered target)
    (same : SameCensus target next)
    (log : next.log = target.log)
    (targetState : next.targetState = target.targetState)
    (pending : next.pending = target.pending)
    (queue :
      ∀ pg message, message ≠ .migrate →
        (pg, message) ∈ next.groupQueue →
          (pg, message) ∈ target.groupQueue)
    (subsystems : next.subsystems = target.subsystems) :
    Ordered next :=
  ordered.congr log targetState pending same.launches.le queue same.stays
    (by rw [subsystems]; exact ordered.subsystems)

theorem ordered_groupMade
    (phase : Phase config next)
    (ordered : Ordered target) (owned : Owned target)
    (state : target.targetState = .initPollGroups)
    {pg : Nat} (member : (pg, .createPollGroup) ∈ target.groupQueue)
    (targetState : next.targetState = target.targetState)
    (log : next.log = target.log ++ [.pollGroupCreate pg])
    (queue :
      next.groupQueue = target.groupQueue.erase (pg, .createPollGroup))
    (subsystems : next.subsystems = target.subsystems) :
    Ordered next := by
  have order := ordered.order
  rw [state] at order
  have final : next.targetState = .initPollGroups :=
    targetState.trans state
  have fresh : .pollGroupCreate pg ∉ target.log := fun old =>
    ordered.made pg old member
  refine Ordered.of_phase phase (by rw [final]; decide) ?_ ?_
    (of_other_state final (by decide))
    (of_other_state final (by decide))
    (of_other_state final (by decide))
    (of_other_state final (by decide))
    (by rw [subsystems]; exact ordered.subsystems)
  · rw [final, log]
    exact order.append_one (le_refl 3) fresh
  · intro _ other made waiting
    rw [queue] at waiting
    rw [log] at made
    rcases List.mem_append.mp made with old | new
    · exact ordered.made other old (List.mem_of_mem_erase waiting)
    · -- the message was there once only
      cases List.mem_singleton.mp new
      have once := owned.places_le pg
      have left := List.count_pos_iff.mpr waiting
      have both := count_groupQueue member (pg, .createPollGroup)
      rw [if_pos rfl] at both
      rw [places] at once
      omega

theorem ordered_groupDropped
    (phase : Phase config (groupDropped pg target))
    (ordered : Ordered target) (owned : Owned target)
    (state : target.targetState = .finiPollGroups)
    (member : (pg, .destroyPollGroup) ∈ target.groupQueue) :
    Ordered (groupDropped pg target) := by
  have order := ordered.order
  rw [state] at order
  have final :
      (groupDropped pg target).targetState = .finiPollGroups := state
  have fresh : .pollGroupDestroy pg ∉ target.log := fun old =>
    ordered.dropped pg old member
  refine Ordered.of_phase phase (by rw [final]; decide) ?_
    (of_other_state final (by decide)) ?_
    (of_other_state final (by decide))
    (of_other_state final (by decide))
    (of_other_state final (by decide))
    ordered.subsystems
  · rw [final]
    exact order.append_one (le_refl 7) fresh
  · intro _ other dropped waiting
    rcases List.mem_append.mp dropped with old | new
    · exact ordered.dropped other old (List.mem_of_mem_erase waiting)
    · cases List.mem_singleton.mp new
      have once := owned.places_le pg
      have left := List.count_pos_iff.mpr waiting
      have both := count_groupQueue member (pg, .destroyPollGroup)
      rw [if_pos rfl] at both
      rw [places] at once
      change 0 < (target.groupQueue.erase (pg, .destroyPollGroup)).count
        (pg, .destroyPollGroup) at left
      omega

theorem ordered_finishing
    (phase : Phase config (finishing target))
    (order : InOrder target.log 8)
    (state : target.targetState = .finiSubsystem)
    (subsystems : target.subsystems.Pairwise (· < ·)) :
    Ordered (finishing target) := by
  have final : (finishing target).targetState = .finiSubsystem := state
  have log : InOrder (finishing target).log 9 :=
    order.append_one (show 8 ≤ 9 by decide)
      (order.notMem_of_lt (show 8 < 9 by decide))
  exact Ordered.of_phase phase (by rw [final]; decide)
    (by rw [final]; exact log.mono (show 9 ≤ 10 by decide))
    (of_other_state final (by decide))
    (of_other_state final (by decide))
    (of_other_state final (by decide))
    (of_other_state final (by decide))
    (fun _ member => absurd member
      (log.notMem_of_lt (show 9 < 10 by decide)))
    subsystems

theorem ordered_destroyingTarget
    (phase : Phase config (destroyingTarget target))
    (order : InOrder target.log 7)
    (state : target.targetState = .finiTarget)
    (subsystems : target.subsystems.Pairwise (· < ·)) :
    Ordered (destroyingTarget target) := by
  rw [destroyingTarget] at phase ⊢
  split at phase
  · rename_i made
    rw [if_pos made]
    have final :
        ((target.calling .tgtDestroy).await .tgtDestroy).targetState =
          .finiTarget := state
    have log :
        InOrder ((target.calling .tgtDestroy).await .tgtDestroy).log 8 :=
      order.append_one (show 7 ≤ 8 by decide)
        (order.notMem_of_lt (show 7 < 8 by decide))
    exact Ordered.of_phase phase (by rw [final]; decide)
      (by rw [final]; exact log)
      (of_other_state final (by decide))
      (of_other_state final (by decide))
      (of_other_state final (by decide))
      (of_other_state final (by decide))
      (of_other_state final (by decide))
      subsystems
  · rename_i missing
    rw [if_neg missing]
    exact ordered_finishing phase (order.mono (show 7 ≤ 8 by decide)) rfl
      subsystems

theorem ordered_launched
    (phase : Phase config target) (ordered : Ordered target)
    {rest : List InitMessage}
    (queue : target.initQueue = .appStart :: rest)
    (launch : Launched config (target.dequeued rest) next) :
    Ordered next := by
  have reached := phase.launched queue launch
  have one := launches_dequeued queue
  rw [if_pos rfl] at one
  rcases phase.of_launches (by omega) with ⟨_, _, single, pending⟩
  have empty := ordered.fresh (by omega)
  have launched : launches (target.dequeued rest) = 0 := by omega
  have called :
      InOrder
        (((target.dequeued rest).moveTo .initSubsystem).calling
          .subsystemInit).log 0 := by
    change InOrder (target.log ++ [.subsystemInit]) 0
    rw [empty]
    exact (inOrder_nil 0).append_one (le_refl 0) List.not_mem_nil
  cases launch with
  | goesOn up =>
      exact ordered_broughtUp reached called rfl launched pending
        ordered.subsystems up
  | waits =>
      exact
        { order := called.mono (show 0 ≤ 1 by decide)
          fresh := fun some => absurd launched some.ne'
          waits := fun _ => called
          made := fun _ member => absurd member
            (called.notMem_of_lt (show 0 < 3 by decide))
          dropped := fun _ member => absurd member
            (called.notMem_of_lt (show 0 < 7 by decide))
          started := fun _ _ _ waiting => nomatch reached.awaited rfl waiting
          stopped := fun _ _ _ waiting => nomatch reached.awaited rfl waiting
          finished := fun member => absurd member
            (called.notMem_of_lt (show 0 < 10 by decide))
          subsystems := ordered.subsystems }

theorem ordered_complete
    (phase : Phase config target) (ordered : Ordered target)
    {rest : List InitMessage}
    (queue : target.initQueue = .createPollGroupsDone pg :: rest)
    (last : (target.numPollGroups + 1) % 2 ^ 32 = config.cores.length)
    (starts :
      Started config target.subsystems
        ((inserting pg (target.dequeued rest)).moveTo
          .initStartSubsystems) next) :
    Ordered next := by
  have order := ordered.order
  rw [(phase.told queue).1] at order
  refine ordered_started (phase.complete queue last starts) ?_ ?_ ?_ ?_ ?_
    starts
  · exact order.mono (show 3 ≤ 4 by decide)
  · rfl
  · exact ordered.subsystems
  · intro earlier member
    exact absurd member (order.notMem_of_lt (show 3 < 4 by decide))
  · exact ordered.subsystems

theorem ordered_initialised
    (phase : Phase config target) (ordered : Ordered target)
    (waiting : .subsystemInit ∈ target.pending)
    (up : BroughtUp config (target.answered .subsystemInit) next) :
    Ordered next := by
  rcases phase.of_subsystemInit waiting with ⟨state, _, launched, pending⟩
  refine ordered_broughtUp (phase.initialised waiting up) ?_ ?_ ?_ ?_ ?_ up
  · exact ordered.waits waiting
  · exact state
  · exact launched
  · exact pending_answered pending
  · exact ordered.subsystems

/-- The subsystems behind one that a chain has reached are above it. -/
theorem lt_of_mem_filter
    {subsystems : List Nat} {earlier subsystem other : Nat}
    (passed : earlier ≤ subsystem)
    (inside : other ∈ subsystems.filter (subsystem < ·)) :
    earlier < other := by
  have after := (List.mem_filter.mp inside).2
  exact passed.trans_lt (by simpa using after)

theorem ordered_startedNext
    (phase : Phase config target) (ordered : Ordered target)
    {subsystem : Nat} (waiting : .start subsystem ∈ target.pending)
    (starts :
      Started config (target.subsystems.filter (subsystem < ·))
        (target.answered (.start subsystem)) next) :
    Ordered next := by
  have order := ordered.order
  have state : target.targetState = .initStartSubsystems :=
    (phase.of_pending waiting).1
  rw [state] at order
  refine ordered_started (phase.startedNext waiting starts) ?_ ?_ ?_ ?_ ?_
    starts
  · exact order
  · exact state
  · exact ordered.subsystems.sublist List.filter_sublist
  · exact fun earlier member _ inside =>
      lt_of_mem_filter (ordered.started earlier member _ waiting) inside
  · exact ordered.subsystems

theorem ordered_stoppedNext
    (phase : Phase config target) (ordered : Ordered target)
    {subsystem : Nat} (waiting : .stop subsystem ∈ target.pending)
    (stops :
      Stopped (target.subsystems.filter (subsystem < ·))
        (target.answered (.stop subsystem)) next) :
    Ordered next := by
  have order := ordered.order
  have state : target.targetState = .finiStopSubsystems :=
    (phase.of_pending waiting).1
  rw [state] at order
  refine ordered_stopped (phase.stoppedNext waiting stops) ?_ ?_ ?_ ?_ ?_
    stops
  · exact order
  · exact state
  · exact ordered.subsystems.sublist List.filter_sublist
  · exact fun earlier member _ inside =>
      lt_of_mem_filter (ordered.stopped earlier member _ waiting) inside
  · exact ordered.subsystems

theorem ordered_groupGone
    (phase : Phase config target) (ordered : Ordered target)
    (waiting : .pollGroupDestroy pg ∈ target.pending) :
    Ordered
      (pollGroupDestroyed pg
        (target.answered (.pollGroupDestroy pg))) := by
  have state : target.targetState = .finiPollGroups :=
    (phase.of_pending waiting).1
  have final :
      (pollGroupDestroyed pg
        (target.answered (.pollGroupDestroy pg))).targetState =
          .finiPollGroups := state
  exact Ordered.of_phase (phase.groupGone waiting)
    (by rw [final]; decide)
    ordered.order
    (of_other_state final (by decide))
    (fun _ => ordered.dropped)
    (of_other_state final (by decide))
    (of_other_state final (by decide))
    (of_other_state final (by decide))
    ordered.subsystems

theorem ordered_finished
    (phase : Phase config target) (ordered : Ordered target)
    (waiting : .subsystemFini ∈ target.pending) :
    Ordered (nvmfSubsystemFiniDone (target.answered .subsystemFini)) := by
  have order := ordered.order
  have reached := phase.finished waiting
  have state : target.targetState = .finiSubsystem :=
    (phase.of_pending waiting).1
  simp only [Phase, state] at phase
  rw [state] at order
  have final :
      (nvmfSubsystemFiniDone
        (target.answered .subsystemFini)).targetState =
          .finiSubsystem := state
  have stays : target.reactorsExit = false := by
    rcases phase.2 with ⟨_, stays⟩ | ⟨idle, _⟩
    · exact stays
    · rw [idle] at waiting
      exact (List.not_mem_nil waiting).elim
  have fresh : .rpcFinish ∉ target.log := fun member =>
    Bool.false_ne_true (stays.symm.trans (ordered.finished member))
  exact Ordered.of_phase reached (by rw [final]; decide)
    (by
      rw [final]
      exact order.append_one (le_refl 10) fresh)
    (of_other_state final (by decide))
    (of_other_state final (by decide))
    (of_other_state final (by decide))
    (of_other_state final (by decide))
    (fun _ _ => rfl)
    ordered.subsystems

theorem ordered_polled (ordered : Ordered target) :
    Ordered (migratePollGroupsByRr target) := by
  refine ordered.quietly (sameCensus_polled target) rfl rfl rfl ?_ rfl
  intro pg message other member
  rcases List.mem_append.mp member with old | new
  · exact old
  · rcases List.mem_map.mp new with ⟨_, _, same⟩
    exact absurd (congrArg Prod.snd same).symm other

theorem ordered_of_turn
    (phase : Phase config target) (owned : Owned target)
    (ordered : Ordered target) (turn : Turn config quiet target next) :
    Ordered next := by
  have reached := phase_of_turn phase turn
  have order := ordered.order
  have sorted := ordered.subsystems
  have kept (pg : Nat) (message : GroupMessage) (_ : message ≠ .migrate)
      (member : (pg, message) ∈ target.groupQueue) :
      (pg, message) ∈ target.groupQueue := member
  cases turn with
  | ignored => exact ordered
  | noticed down =>
      exact ordered.quietly (sameCensus_requests target _ _ _ _ _)
        rfl rfl rfl kept rfl
  | requested some =>
      exact ordered.quietly (sameCensus_requests target _ _ _ _ _)
        rfl rfl rfl kept rfl
  | sent some =>
      have asked := sameCensus_shutdownCb target
      exact ordered.quietly
        (asked.trans (sameCensus_requests _ _ _ _ _ _))
        rfl rfl rfl kept rfl
  | unsent some =>
      exact ordered.quietly (sameCensus_requests target _ _ _ _ _)
        rfl rfl rfl kept rfl
  | launched queue launch => exact ordered_launched phase ordered queue launch
  | counted queue missing =>
      exact ordered.congr rfl rfl rfl (created_of_queue queue).2.2.symm.le
        kept rfl sorted
  | complete queue last starts =>
      exact ordered_complete phase ordered queue last starts
  | removed queue left =>
      exact ordered.congr rfl rfl rfl (gone_of_queue queue).2.2.symm.le
        kept rfl sorted
  | emptied queue last =>
      rw [(phase.lost queue).1] at order
      exact ordered_destroyingTarget reached order rfl sorted
  | deferred queue early =>
      exact ordered.quietly (sameCensus_deferred queue) rfl rfl rfl kept rfl
  | mislaid queue early =>
      have shorter := sameCensus_dequeued queue
      exact ordered.quietly
        (shorter.trans (sameCensus_requests _ _ _ _ _ _))
        rfl rfl rfl kept rfl
  | dropped queue late =>
      exact ordered.quietly (sameCensus_dequeued queue) rfl rfl rfl kept rfl
  | @shut rest _ queue runs stops =>
      rw [runs] at order
      have chained :
          Stopped (chain (target.dequeued rest).subsystems)
            (unregisterPoller
              ((target.dequeued rest).moveTo .finiStopSubsystems))
            next := stops
      refine ordered_shut reached ?_ (show 5 < 6 by decide) ?_ chained
      · exact order
      · exact sorted
  | groupCreated next =>
      have member := mem_of_nextGroupMessage next
      exact ordered_groupMade reached ordered owned (phase.asked member).1
        member rfl rfl rfl rfl
  | groupFailed next =>
      have member := mem_of_nextGroupMessage next
      exact ordered_groupMade reached ordered owned (phase.asked member).1
        member rfl rfl rfl rfl
  | groupLeaving next =>
      have member := mem_of_nextGroupMessage next
      exact ordered_groupDropped reached ordered owned
        (phase.dropped member).1 member
  | migrated next =>
      exact ordered.quietly
        (sameCensus_migrated (mem_of_nextGroupMessage next)) rfl rfl rfl
        (fun _ _ _ member => List.mem_of_mem_erase member) rfl
  | initialised waiting up =>
      exact ordered_initialised phase ordered waiting up
  | startedNext waiting starts =>
      exact ordered_startedNext phase ordered waiting starts
  | stoppedNext waiting stops =>
      exact ordered_stoppedNext phase ordered waiting stops
  | groupGone waiting => exact ordered_groupGone phase ordered waiting
  | threadLeft going =>
      exact ordered.quietly (sameCensus_threadExit going) rfl rfl rfl kept rfl
  | targetGone waiting =>
      have state : target.targetState = .finiTarget :=
        (phase.of_pending waiting).1
      rw [state] at order
      exact ordered_finishing reached order rfl sorted
  | finished waiting => exact ordered_finished phase ordered waiting
  | polled => exact ordered_polled ordered
  | subsystemAdded made fresh early =>
      exact ordered.congr rfl rfl rfl (le_refl _) kept rfl
        (pairwise_lt_orderedInsert sorted fresh)

theorem ordered_of_reachable (reached : Reachable config target) :
    Ordered target :=
  have all : Phase config target ∧ Owned target ∧ Ordered target :=
    reached.preserves
      (fun target => Phase config target ∧ Owned target ∧ Ordered target)
      ⟨phase_initial, owned_initial, ordered_initial⟩
      fun _ _ holds turn =>
        ⟨phase_of_turn holds.1 turn, owned_of_turn holds.1 holds.2.1 turn,
          ordered_of_turn holds.1 holds.2.1 holds.2.2 turn⟩
  all.2.2

/--
In every run the library calls come in the order of their stages and none is
made twice: poll groups are destroyed after every stop, the target after all
its poll groups, and the library comes down last.
-/
theorem library_calls_in_order
    (reached : Reachable config target) :
    (target.log.Pairwise fun earlier later =>
        earlier.stage ≤ later.stage) ∧
      target.log.Nodup :=
  have order := (ordered_of_reachable reached).order
  ⟨order.sorted, order.nodup⟩

/-- Taking the target of `bootEvents` down after a signal. -/
def shutdownEvents : List Event :=
  bootEvents ++
    [.signal, .signalSet, .signalSend true, .initMessage obliging,
      .callback (.stop 0) obliging,
      .groupMessage 0 .destroyPollGroup obliging,
      .callback (.pollGroupDestroy 0) obliging, .initMessage obliging,
      .threadExit 0, .callback .tgtDestroy obliging,
      .callback .subsystemFini obliging]

/-- The target they take down. -/
def finishedTarget : Target where
  targetState := .finiSubsystem
  tgt := true
  subsystems := [0]
  pollGroups := []
  numPollGroups := 0
  migratePgPoller := none
  pollers := []
  intrReceived := true
  tested := 0
  raised := 0
  requests := 1
  lost := 0
  reactorsExit := true
  initQueue := []
  groupQueue := []
  pending := []
  threads := 1
  failed := []
  exiting := []
  exited := [0]
  log :=
    [.subsystemInit, .rpcInitialize, .tgtCreate, .subsystemCreate,
      .threadCreate 0, .pollGroupCreate 0, .subsystemStart 0,
      .pollerRegister, .pollerUnregister, .subsystemStop 0,
      .pollGroupDestroy 0, .tgtDestroy, .subsystemFini, .rpcFinish]

theorem shutdownEvents_fold :
    shutdownEvents.foldlM (step oneCore) initial = some finishedTarget := by
  decide +kernel

theorem shutdownEvents_obliged :
    ∀ event ∈ shutdownEvents, ∀ library ∈ event.library?,
      library = obliging := by
  simp [shutdownEvents, bootEvents, Event.library?]

theorem library_calls_in_order_finished :
    Reachable oneCore finishedTarget ∧
      finishedTarget.log.length = 14 ∧ finishedTarget.log.Nodup :=
  have reached :=
    reachable_of_foldlM shutdownEvents_obliged shutdownEvents_fold
  ⟨reached, rfl, (library_calls_in_order reached).2⟩

end ZnsBench.Nvmf.TargetLifecycle

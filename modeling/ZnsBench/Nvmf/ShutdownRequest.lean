import ZnsBench.Nvmf.TeardownOrder

/-!
# What a signal sets off

A handler that finds the flag down sets it and sends one message; handlers
that overlap may each find it down.  The message is put off while the target
comes up, and it is dropped only when the target is on its way down already,
so until then a request made is about to be sent, waits, or is one that
`spdk_thread_send_msg` refused.  On the way down no poller is left, and every
subsystem is asked to stop before a poll group goes.
-/

namespace ZnsBench.Nvmf.TargetLifecycle

variable {config : Config} {quiet : Prop} {target next : Target}

/-! ## What leaves the requests alone -/

/-- Requests to shut down that wait for the initial thread. -/
def shutdowns (target : Target) : Nat :=
  target.initQueue.count .shutdownCb

/-- No handler and no request has moved. -/
structure SameRequests (target next : Target) : Prop where
  intrReceived : next.intrReceived = target.intrReceived
  tested : next.tested = target.tested
  raised : next.raised = target.raised
  requests : next.requests = target.requests
  lost : next.lost = target.lost
  shutdowns : shutdowns next = shutdowns target

theorem SameRequests.trans
    {middle : Target}
    (first : SameRequests target middle)
    (second : SameRequests middle next) :
    SameRequests target next where
  intrReceived := second.intrReceived.trans first.intrReceived
  tested := second.tested.trans first.tested
  raised := second.raised.trans first.raised
  requests := second.requests.trans first.requests
  lost := second.lost.trans first.lost
  shutdowns := second.shutdowns.trans first.shutdowns

theorem sameRequests_of_eq
    (intrReceived : next.intrReceived = target.intrReceived)
    (tested : next.tested = target.tested)
    (raised : next.raised = target.raised)
    (requests : next.requests = target.requests)
    (lost : next.lost = target.lost)
    (initQueue : next.initQueue = target.initQueue) :
    SameRequests target next where
  intrReceived := intrReceived
  tested := tested
  raised := raised
  requests := requests
  lost := lost
  shutdowns := by rw [shutdowns, shutdowns, initQueue]

theorem shutdowns_dequeued
    {message : InitMessage} {rest : List InitMessage}
    (queue : target.initQueue = message :: rest) :
    shutdowns target =
      shutdowns (target.dequeued rest) +
        if message = .shutdownCb then 1 else 0 := by
  rw [shutdowns, shutdowns, queue, Target.dequeued, List.count_cons]
  simp only [beq_iff_eq]

/-- A message that is no request leaves the requests alone. -/
theorem sameRequests_dequeued
    {message : InitMessage} {rest : List InitMessage}
    (queue : target.initQueue = message :: rest)
    (other : message ≠ .shutdownCb) :
    SameRequests target (target.dequeued rest) where
  intrReceived := rfl
  tested := rfl
  raised := rfl
  requests := rfl
  lost := rfl
  shutdowns := by
    have parts := shutdowns_dequeued queue
    rw [if_neg other] at parts
    exact parts.symm

theorem sameRequests_enqueued
    (target : Target) {message : InitMessage}
    (other : message ≠ .shutdownCb) :
    SameRequests target
      (target.dequeued (target.initQueue ++ [message])) where
  intrReceived := rfl
  tested := rfl
  raised := rfl
  requests := rfl
  lost := rfl
  shutdowns := by
    rw [shutdowns, shutdowns, Target.dequeued, List.count_append,
      List.count_eq_zero.mpr fun member =>
        other (List.mem_singleton.mp member).symm, Nat.add_zero]

@[simp]
theorem shutdowns_append (target : Target) :
    (target.initQueue ++ [InitMessage.shutdownCb]).count .shutdownCb =
      shutdowns target + 1 := by
  rw [List.count_append]
  rfl

/-- A request that is put off still waits. -/
theorem sameRequests_deferred
    {rest : List InitMessage}
    (queue : target.initQueue = .shutdownCb :: rest) :
    SameRequests target (target.dequeued (rest ++ [.shutdownCb])) where
  intrReceived := rfl
  tested := rfl
  raised := rfl
  requests := rfl
  lost := rfl
  shutdowns := by
    have parts := shutdowns_dequeued queue
    rw [if_pos rfl] at parts
    rw [parts]
    exact shutdowns_append (target.dequeued rest)

/-! ### What the chains leave alone -/

theorem Stopped.requests
    {rest : List Nat} (stops : Stopped rest target next) :
    SameRequests target next := by
  cases stops with
  | waits => exact sameRequests_of_eq rfl rfl rfl rfl rfl rfl
  | passes => exact sameRequests_of_eq rfl rfl rfl rfl rfl rfl

theorem Stopped.pollers
    {rest : List Nat} (stops : Stopped rest target next) :
    next.pollers = target.pollers ∧
      next.migratePgPoller = target.migratePgPoller := by
  cases stops with
  | waits => exact ⟨rfl, rfl⟩
  | passes => exact ⟨rfl, rfl⟩

theorem Stopped.rank
    {rest : List Nat} (stops : Stopped rest target next)
    (state : target.targetState = .finiStopSubsystems) :
    TargetState.running.rank < next.targetState.rank := by
  cases stops with
  | waits =>
      rw [await_targetState, logging_targetState, state]
      decide
  | passes => exact show 4 < 6 by decide

theorem runningTarget_requests (config : Config) (target : Target) :
    SameRequests target (runningTarget config target) := by
  rw [runningTarget]
  split
  · exact sameRequests_of_eq rfl rfl rfl rfl rfl rfl
  · exact sameRequests_of_eq rfl rfl rfl rfl rfl rfl

theorem Started.requests
    {rest : List Nat} (starts : Started config rest target next) :
    SameRequests target next := by
  cases starts with
  | runs =>
      have called :
          SameRequests target
            (target.logging (rest.map .subsystemStart)) :=
        sameRequests_of_eq rfl rfl rfl rfl rfl rfl
      exact called.trans (runningTarget_requests config _)
  | waits => exact sameRequests_of_eq rfl rfl rfl rfl rfl rfl
  | refused begins stops =>
      have refused := stops.requests
      exact ⟨refused.intrReceived, refused.tested, refused.raised,
        refused.requests, refused.lost, refused.shutdowns⟩

theorem BroughtUp.requests (up : BroughtUp config target next) :
    SameRequests target next := by
  cases up with
  | withoutRpc => exact sameRequests_of_eq rfl rfl rfl rfl rfl rfl
  | withoutTarget => exact sameRequests_of_eq rfl rfl rfl rfl rfl rfl
  | withoutDiscovery => exact sameRequests_of_eq rfl rfl rfl rfl rfl rfl
  | asksForGroups => exact sameRequests_of_eq rfl rfl rfl rfl rfl rfl

theorem Launched.requests (launch : Launched config target next) :
    SameRequests target next := by
  cases launch with
  | waits => exact sameRequests_of_eq rfl rfl rfl rfl rfl rfl
  | goesOn up =>
      have raised := up.requests
      exact ⟨raised.intrReceived, raised.tested, raised.raised,
        raised.requests, raised.lost, raised.shutdowns⟩

theorem destroyingTarget_requests (target : Target) :
    SameRequests target (destroyingTarget target) := by
  rw [destroyingTarget]
  split
  · exact sameRequests_of_eq rfl rfl rfl rfl rfl rfl
  · exact sameRequests_of_eq rfl rfl rfl rfl rfl rfl

theorem destroyingTarget_rank
    (state : target.targetState = .finiTarget) :
    TargetState.running.rank <
      (destroyingTarget target).targetState.rank := by
  rw [destroyingTarget]
  split
  · rw [await_targetState, calling_targetState, state]
    decide
  · exact show 4 < 8 by decide

/-! ## The request -/

/-- What a turn can do to the handlers and the requests. -/
inductive RequestMove (target next : Target) : Prop where
  | none (same : SameRequests target next)
  | noticed
      (down : target.intrReceived = false)
      (same :
        SameRequests { target with tested := target.tested + 1 } next)
  | made
      (some : 0 < target.tested)
      (same : SameRequests (nvmfShutdownCbSet target) next)
  | sent
      (some : 0 < target.raised)
      (same :
        SameRequests
          { target with
            raised := target.raised - 1
            initQueue := target.initQueue ++ [.shutdownCb] } next)
  | unsent
      (some : 0 < target.raised)
      (same :
        SameRequests
          { target with
            raised := target.raised - 1
            lost := target.lost + 1 } next)
  | mislaid {rest : List InitMessage}
      (queue : target.initQueue = .shutdownCb :: rest)
      (same :
        SameRequests
          { target.dequeued rest with lost := target.lost + 1 } next)
  | taken {rest : List InitMessage}
      (queue : target.initQueue = .shutdownCb :: rest)
      (late : TargetState.running.rank < next.targetState.rank)
      (same : SameRequests (target.dequeued rest) next)

theorem requestMove_of_turn (turn : Turn config quiet target next) :
    RequestMove target next := by
  have still : SameRequests target target :=
    sameRequests_of_eq rfl rfl rfl rfl rfl rfl
  cases turn with
  | ignored => exact .none still
  | noticed down =>
      exact .noticed down (sameRequests_of_eq rfl rfl rfl rfl rfl rfl)
  | requested some =>
      exact .made some (sameRequests_of_eq rfl rfl rfl rfl rfl rfl)
  | sent some =>
      exact .sent some (sameRequests_of_eq rfl rfl rfl rfl rfl rfl)
  | unsent some =>
      exact .unsent some (sameRequests_of_eq rfl rfl rfl rfl rfl rfl)
  | launched queue launch =>
      exact .none
        ((sameRequests_dequeued queue (by decide)).trans launch.requests)
  | counted queue missing =>
      have shorter := sameRequests_dequeued queue nofun
      exact .none
        (shorter.trans (sameRequests_of_eq rfl rfl rfl rfl rfl rfl))
  | complete queue last starts =>
      have shorter := sameRequests_dequeued queue nofun
      have begun := starts.requests
      exact .none (shorter.trans
        ⟨begun.intrReceived, begun.tested, begun.raised, begun.requests,
          begun.lost, begun.shutdowns⟩)
  | removed queue left =>
      have shorter := sameRequests_dequeued queue (by decide)
      exact .none
        (shorter.trans (sameRequests_of_eq rfl rfl rfl rfl rfl rfl))
  | @emptied rest queue last =>
      have shorter := sameRequests_dequeued queue (by decide)
      have down := destroyingTarget_requests
        ((removing (target.dequeued rest)).moveTo .finiTarget)
      exact .none (shorter.trans
        ⟨down.intrReceived, down.tested, down.raised, down.requests,
          down.lost, down.shutdowns⟩)
  | deferred queue early => exact .none (sameRequests_deferred queue)
  | mislaid queue early =>
      exact .mislaid queue (sameRequests_of_eq rfl rfl rfl rfl rfl rfl)
  | dropped queue late =>
      exact .taken queue late (sameRequests_of_eq rfl rfl rfl rfl rfl rfl)
  | shut queue runs stops =>
      have down := stops.requests
      exact .taken queue (stops.rank rfl)
        ⟨down.intrReceived, down.tested, down.raised, down.requests,
          down.lost, down.shutdowns⟩
  | @groupCreated pg next =>
      have other : InitMessage.createPollGroupsDone pg ≠ .shutdownCb :=
        nofun
      have told := sameRequests_enqueued target other
      exact .none (told.trans (sameRequests_of_eq rfl rfl rfl rfl rfl rfl))
  | groupFailed next =>
      exact .none (sameRequests_of_eq rfl rfl rfl rfl rfl rfl)
  | groupLeaving next =>
      exact .none (sameRequests_of_eq rfl rfl rfl rfl rfl rfl)
  | migrated next =>
      exact .none (sameRequests_of_eq rfl rfl rfl rfl rfl rfl)
  | initialised waiting up =>
      have raised := up.requests
      exact .none
        ⟨raised.intrReceived, raised.tested, raised.raised,
          raised.requests, raised.lost, raised.shutdowns⟩
  | startedNext waiting starts =>
      have begun := starts.requests
      exact .none
        ⟨begun.intrReceived, begun.tested, begun.raised, begun.requests,
          begun.lost, begun.shutdowns⟩
  | stoppedNext waiting stops =>
      have down := stops.requests
      exact .none
        ⟨down.intrReceived, down.tested, down.raised, down.requests,
          down.lost, down.shutdowns⟩
  | groupGone waiting =>
      have told :=
        sameRequests_enqueued target
          (show InitMessage.destroyPollGroupsDone ≠ .shutdownCb by decide)
      exact .none (told.trans (sameRequests_of_eq rfl rfl rfl rfl rfl rfl))
  | threadLeft going =>
      exact .none (sameRequests_of_eq rfl rfl rfl rfl rfl rfl)
  | targetGone waiting =>
      exact .none (sameRequests_of_eq rfl rfl rfl rfl rfl rfl)
  | finished waiting =>
      exact .none (sameRequests_of_eq rfl rfl rfl rfl rfl rfl)
  | polled => exact .none (sameRequests_of_eq rfl rfl rfl rfl rfl rfl)
  | subsystemAdded made fresh early =>
      exact .none (sameRequests_of_eq rfl rfl rfl rfl rfl rfl)

/-- A target on its way down does not come up again. -/
theorem late_of_turn
    (phase : Phase config target) (turn : Turn config quiet target next)
    (late : TargetState.running.rank < target.targetState.rank) :
    TargetState.running.rank < next.targetState.rank := by
  have early {state : TargetState} {Claim : Prop}
      (here : target.targetState = state)
      (low : state.rank ≤ TargetState.running.rank) : Claim := by
    rw [here] at late
    omega
  cases turn with
  | launched queue launch =>
      have one := launches_dequeued queue
      rw [if_pos rfl] at one
      exact early (phase.of_launches (by omega)).1 (by decide)
  | complete queue last starts =>
      exact early (phase.told queue).1 (by decide)
  | emptied queue last => exact destroyingTarget_rank rfl
  | shut queue runs stops => exact stops.rank rfl
  | initialised waiting up =>
      exact early (phase.of_pending waiting).1 (by decide)
  | startedNext waiting starts =>
      have state : target.targetState = .initStartSubsystems :=
        (phase.of_pending waiting).1
      exact early state (by decide)
  | stoppedNext waiting stops =>
      have state : target.targetState = .finiStopSubsystems :=
        (phase.of_pending waiting).1
      exact stops.rank state
  | targetGone waiting => exact show 4 < 8 by decide
  | _ => exact late

/-- Requests that are about to be sent, wait, or could not be sent. -/
def placed (target : Target) : Nat :=
  target.raised + shutdowns target + target.lost

theorem SameRequests.placed (same : SameRequests target next) :
    placed next = placed target := by
  rw [TargetLifecycle.placed, TargetLifecycle.placed, same.raised,
    same.shutdowns, same.lost]

/-- A request is in its place until the target goes down. -/
structure Requested (target : Target) : Prop where
  flag : target.intrReceived = true ↔ 0 < target.requests
  bounded : placed target ≤ target.requests
  kept :
    target.targetState.rank ≤ TargetState.running.rank →
      placed target = target.requests

theorem requested_initial : Requested initial where
  flag := by decide
  bounded := le_refl 0
  kept := fun _ => rfl

/-- Steps that bring as many requests to their places as they make. -/
theorem Requested.step
    (requested : Requested target)
    (flag : next.intrReceived = true ↔ 0 < next.requests)
    (balance :
      placed next + target.requests = placed target + next.requests)
    (early :
      next.targetState.rank ≤ TargetState.running.rank →
        target.targetState.rank ≤ TargetState.running.rank) :
    Requested next where
  flag := flag
  bounded := by
    have bounded := requested.bounded
    omega
  kept := by
    intro low
    have kept := requested.kept (early low)
    omega

/-- A request that waits is taken by a target that goes down. -/
theorem placed_taken
    {rest : List InitMessage}
    (queue : target.initQueue = .shutdownCb :: rest) :
    placed (target.dequeued rest) + 1 = placed target := by
  have parts := shutdowns_dequeued queue
  rw [if_pos rfl] at parts
  simp only [placed, parts, Target.dequeued]
  omega

theorem requested_of_turn
    (phase : Phase config target) (requested : Requested target)
    (turn : Turn config quiet target next) :
    Requested next := by
  have early (low : next.targetState.rank ≤ TargetState.running.rank) :
      target.targetState.rank ≤ TargetState.running.rank := by
    by_contra high
    exact absurd (late_of_turn phase turn (Nat.lt_of_not_le high))
      (Nat.not_lt.mpr low)
  have flag := requested.flag
  cases requestMove_of_turn turn with
  | none same =>
      refine requested.step ?_ ?_ early
      · rw [same.intrReceived, same.requests, flag]
      · rw [same.placed, same.requests]
  | noticed down same =>
      have made : next.requests = target.requests := same.requests
      refine requested.step ?_ ?_ early
      · rw [same.intrReceived, made]
        exact flag
      · rw [same.placed, made]
        rfl
  | made some same =>
      have made : next.requests = target.requests + 1 := same.requests
      refine requested.step ?_ ?_ early
      · rw [same.intrReceived, made]
        exact iff_of_true rfl (Nat.succ_pos _)
      · rw [same.placed, made]
        change
          target.raised + 1 + shutdowns target + target.lost + _ =
            target.raised + shutdowns target + target.lost + _
        omega
  | sent some same =>
      have made : next.requests = target.requests := same.requests
      refine requested.step ?_ ?_ early
      · rw [same.intrReceived, made]
        exact flag
      · rw [same.placed, made]
        change
          target.raised - 1 +
              (target.initQueue ++ [InitMessage.shutdownCb]).count
                .shutdownCb + target.lost + _ =
            target.raised + shutdowns target + target.lost + _
        rw [shutdowns_append]
        omega
  | unsent some same =>
      have made : next.requests = target.requests := same.requests
      refine requested.step ?_ ?_ early
      · rw [same.intrReceived, made]
        exact flag
      · rw [same.placed, made]
        change
          target.raised - 1 + shutdowns target + (target.lost + 1) + _ =
            target.raised + shutdowns target + target.lost + _
        omega
  | @mislaid rest queue same =>
      have made : next.requests = target.requests := same.requests
      have taken := placed_taken queue
      refine requested.step ?_ ?_ early
      · rw [same.intrReceived, made]
        exact flag
      · rw [same.placed, made, ← taken]
        change
          target.raised + shutdowns (target.dequeued rest) +
              (target.lost + 1) + _ =
            target.raised + shutdowns (target.dequeued rest) +
              target.lost + 1 + _
        omega
  | taken queue late same =>
      have made : next.requests = target.requests := same.requests
      have taken := placed_taken queue
      have bounded := requested.bounded
      refine ⟨?_, ?_, ?_⟩
      · rw [same.intrReceived, made]
        exact flag
      · rw [same.placed, made]
        omega
      · exact fun low => absurd late (Nat.not_lt.mpr low)

/-! ## The poller -/

/-- A poller is registered while the target runs, and is the one known. -/
structure Polling (target : Target) : Prop where
  idle :
    target.targetState ≠ .running →
      target.pollers = [] ∧ target.migratePgPoller = none
  known : target.pollers = target.migratePgPoller.toList

theorem polling_initial : Polling initial where
  idle := fun _ => ⟨rfl, rfl⟩
  known := rfl

/-- Steps that leave the pollers alone and do not end in `running`. -/
theorem Polling.congr
    (polling : Polling target)
    (pollers : next.pollers = target.pollers)
    (known : next.migratePgPoller = target.migratePgPoller)
    (state :
      next.targetState ≠ .running → target.targetState ≠ .running) :
    Polling next where
  idle := by
    intro stopped
    rw [pollers, known]
    exact polling.idle (state stopped)
  known := by
    rw [pollers, known]
    exact polling.known

theorem Polling.unregisterPoller (polling : Polling target) :
    (TargetLifecycle.unregisterPoller target).pollers = [] ∧
      (TargetLifecycle.unregisterPoller target).migratePgPoller =
        none := by
  refine ⟨?_, rfl⟩
  have known := polling.known
  rw [TargetLifecycle.unregisterPoller]
  cases poller : target.migratePgPoller with
  | none =>
      rw [poller] at known
      exact known
  | some number =>
      rw [poller] at known
      simp only [known, Option.toList_some, List.erase_cons_head]

theorem polling_stopped
    (none :
      target.pollers = [] ∧ target.migratePgPoller = none)
    {rest : List Nat} (stops : Stopped rest target next) :
    Polling next := by
  rcases stops.pollers with ⟨pollers, known⟩
  refine ⟨fun _ => ?_, ?_⟩
  · exact ⟨pollers.trans none.1, known.trans none.2⟩
  · rw [pollers, known, none.1, none.2]
    rfl

theorem polling_started
    (polling : Polling target)
    (state : target.targetState = .initStartSubsystems)
    {rest : List Nat} (starts : Started config rest target next) :
    Polling next := by
  have none := polling.idle (by rw [state]; decide)
  cases starts with
  | runs =>
      rw [runningTarget]
      split
      · refine ⟨fun other => absurd rfl other, ?_⟩
        simp only [registerPoller, Target.calling, Target.moveTo,
          logging_pollers, none.1, List.nil_append, Option.toList_some]
      · exact ⟨fun other => absurd rfl other, polling.known⟩
  | waits =>
      exact polling.congr rfl rfl fun _ => by
        rw [state]
        decide
  | refused begins stops =>
      refine polling_stopped ?_ stops
      exact Polling.unregisterPoller
        ⟨fun _ => ⟨none.1, none.2⟩, polling.known⟩

theorem polling_broughtUp
    (polling : Polling target)
    (state : target.targetState = .initSubsystem)
    (up : BroughtUp config target next) :
    Polling next := by
  have early : target.targetState ≠ .running := by
    rw [state]
    decide
  cases up with
  | withoutRpc => exact polling.congr rfl rfl fun _ => early
  | withoutTarget => exact polling.congr rfl rfl fun _ => early
  | withoutDiscovery => exact polling.congr rfl rfl fun _ => early
  | asksForGroups => exact polling.congr rfl rfl fun _ => early

theorem polling_launched
    (phase : Phase config target) (polling : Polling target)
    {rest : List InitMessage}
    (queue : target.initQueue = .appStart :: rest)
    (launch : Launched config (target.dequeued rest) next) :
    Polling next := by
  have one := launches_dequeued queue
  rw [if_pos rfl] at one
  have state := (phase.of_launches (by omega)).1
  have early : target.targetState ≠ .running := by
    rw [state]
    decide
  cases launch with
  | waits => exact polling.congr rfl rfl fun _ => early
  | goesOn up =>
      refine polling_broughtUp ?_ ?_ up
      · exact polling.congr rfl rfl fun _ => early
      · rfl

theorem polling_destroyingTarget
    (polling : Polling target) (stopped : target.targetState ≠ .running) :
    Polling (destroyingTarget target) := by
  rw [destroyingTarget]
  split
  · exact polling.congr rfl rfl fun _ => stopped
  · exact polling.congr rfl rfl fun _ => stopped

theorem polling_of_turn
    (phase : Phase config target) (polling : Polling target)
    (turn : Turn config quiet target next) :
    Polling next := by
  have stopped {state : TargetState}
      (here : target.targetState = state) (other : state ≠ .running) :
      target.targetState ≠ .running := by
    rw [here]
    exact other
  cases turn with
  | ignored => exact polling
  | launched queue launch => exact polling_launched phase polling queue launch
  | complete queue last starts =>
      have before := stopped (phase.told queue).1 (by decide)
      refine polling_started ?_ ?_ starts
      · exact polling.congr rfl rfl fun _ => before
      · rfl
  | emptied queue last =>
      have before := stopped (phase.lost queue).1 (by decide)
      refine polling_destroyingTarget ?_ ?_
      · exact polling.congr rfl rfl fun _ => before
      · exact show TargetState.finiTarget ≠ .running by decide
  | shut queue runs stops =>
      refine polling_stopped ?_ stops
      rcases polling.unregisterPoller with ⟨pollers, known⟩
      exact ⟨pollers, known⟩
  | initialised waiting up =>
      have state : target.targetState = .initSubsystem :=
        (phase.of_pending waiting).1
      refine polling_broughtUp ?_ ?_ up
      · exact polling.congr rfl rfl fun other => other
      · exact state
  | startedNext waiting starts =>
      have state : target.targetState = .initStartSubsystems :=
        (phase.of_pending waiting).1
      refine polling_started ?_ ?_ starts
      · exact polling.congr rfl rfl fun other => other
      · exact state
  | stoppedNext waiting stops =>
      have state : target.targetState = .finiStopSubsystems :=
        (phase.of_pending waiting).1
      refine polling_stopped ?_ stops
      exact polling.idle (stopped state (by decide))
  | targetGone waiting =>
      have state := (phase.of_pending waiting).1
      exact polling.congr rfl rfl fun _ => stopped state (by decide)
  | _ => exact polling.congr rfl rfl fun other => other

theorem requested_of_reachable (reached : Reachable config target) :
    Requested target ∧ Polling target := by
  have all :
      Phase config target ∧ Requested target ∧ Polling target :=
    reached.preserves
      (fun target =>
        Phase config target ∧ Requested target ∧ Polling target)
      ⟨phase_initial, requested_initial, polling_initial⟩
      fun _ _ holds turn =>
        ⟨phase_of_turn holds.1 turn,
          requested_of_turn holds.1 holds.2.1 turn,
          polling_of_turn holds.1 holds.2.2 turn⟩
  exact all.2

/--
In every state reached the flag is up exactly when a handler has made a
request, and until the target goes down every request made is about to be
sent, waits, or is one whose message could not be sent.  There is at most one
poller, and none when the target does not run.
-/
theorem shutdown_request_is_kept
    (reached : Reachable config target) :
    (target.intrReceived = true ↔ 0 < target.requests) ∧
      target.raised + shutdowns target + target.lost ≤ target.requests ∧
      (target.targetState.rank ≤ TargetState.running.rank →
        target.raised + shutdowns target + target.lost =
          target.requests) ∧
      target.pollers.length ≤ 1 ∧
      (target.targetState ≠ .running → target.pollers = []) := by
  rcases requested_of_reachable reached with ⟨requested, polling⟩
  refine ⟨requested.flag, requested.bounded, requested.kept, ?_,
    fun other => (polling.idle other).1⟩
  rw [polling.known]
  cases target.migratePgPoller with
  | none => exact Nat.zero_le 1
  | some poller => exact le_refl 1

theorem shutdown_request_is_kept_booted :
    Reachable oneCore bootedTarget ∧
      bootedTarget.raised + shutdowns bootedTarget + bootedTarget.lost =
        bootedTarget.requests :=
  have reached :=
    reachable_of_foldlM bootEvents_obliged bootEvents_fold
  ⟨reached, (shutdown_request_is_kept reached).2.2.1 (by decide)⟩

/-! ## The subsystems -/

/-- How far a chain of stops has come. -/
structure StopsAll (target : Target) : Prop where
  bare :
    target.targetState = .initSubsystem →
      target.tgt = false ∧ target.subsystems = []
  waiting :
    ∀ subsystem, .stop subsystem ∈ target.pending →
      ∀ other ∈ target.subsystems, other ≤ subsystem →
        .subsystemStop other ∈ target.log
  passed :
    TargetState.finiStopSubsystems.rank < target.targetState.rank →
      ∀ other ∈ target.subsystems, .subsystemStop other ∈ target.log

theorem stopsAll_initial : StopsAll initial where
  bare := fun _ => ⟨rfl, rfl⟩
  waiting := fun _ member => (List.not_mem_nil member).elim
  passed := fun late => absurd late (by decide)

/-- Before the chain has begun there is nothing to show. -/
theorem stopsAll_of_early
    (phase : Phase config next)
    (early :
      next.targetState.rank < TargetState.finiStopSubsystems.rank)
    (bare :
      next.targetState = .initSubsystem →
        next.tgt = false ∧ next.subsystems = []) :
    StopsAll next where
  bare := bare
  waiting := by
    intro subsystem waiting
    have state : next.targetState = .finiStopSubsystems :=
      (phase.of_pending waiting).1
    rw [state] at early
    exact absurd early (by decide)
  passed := fun late => absurd late (Nat.not_lt.mpr early.le)

/-- Steps after the chain that keep the subsystems and the log. -/
theorem StopsAll.later
    (stopsAll : StopsAll target)
    (phase : Phase config next)
    (late : TargetState.finiStopSubsystems.rank < target.targetState.rank)
    (still : TargetState.finiStopSubsystems.rank < next.targetState.rank)
    (subsystems : next.subsystems = target.subsystems)
    (log : ∀ call ∈ target.log, call ∈ next.log) :
    StopsAll next where
  bare := by
    intro first
    rw [first] at still
    exact absurd still (by decide)
  waiting := by
    intro subsystem waiting
    rw [(phase.of_pending waiting).1] at still
    exact absurd still (lt_irrefl TargetState.finiStopSubsystems.rank)
  passed := by
    intro _ other member
    rw [subsystems] at member
    exact log _ (stopsAll.passed late other member)

theorem StopsAll.congr
    (stopsAll : StopsAll target)
    (subsystems : next.subsystems = target.subsystems)
    (log : ∀ call ∈ target.log, call ∈ next.log)
    (pending : next.pending = target.pending)
    (state : next.targetState = target.targetState)
    (tgt : next.tgt = target.tgt) :
    StopsAll next where
  bare := by
    rw [state, tgt, subsystems]
    exact stopsAll.bare
  waiting := by
    rw [pending, subsystems]
    intro subsystem waiting other member before
    exact log _ (stopsAll.waiting subsystem waiting other member before)
  passed := by
    rw [state, subsystems]
    intro late other member
    exact log _ (stopsAll.passed late other member)

/--
A chain over the subsystems that are left, in increasing order, misses none.
-/
theorem stopsAll_stopped
    (phase : Phase config next)
    {rest : List Nat} (increasing : rest.Pairwise (· < ·))
    (covers :
      ∀ other ∈ target.subsystems,
        other ∈ rest ∨ .subsystemStop other ∈ target.log)
    (state : target.targetState = .finiStopSubsystems)
    (stops : Stopped rest target next) :
    StopsAll next := by
  cases stops with
  | @waits made last begins =>
      refine ⟨?_, ?_, ?_⟩
      · intro first
        rw [await_targetState, logging_targetState, state] at first
        cases first
      · intro subsystem waiting other member before
        have alone := (phase.of_pending waiting).2 rfl
        have awaited :
            .stop last ∈
              ((target.logging
                ((made ++ [last]).map .subsystemStop)).await
                  (.stop last)).pending :=
          List.mem_append_right _ List.mem_cons_self
        rw [alone] at awaited
        cases List.mem_singleton.mp awaited
        refine List.mem_append.mpr ?_
        rcases covers other member with inside | old
        · -- what is after the chain's place is greater
          rcases begins with ⟨after, split⟩
          rw [← split] at inside increasing
          rcases List.mem_append.mp inside with reached | beyond
          · exact Or.inr (List.mem_map.mpr ⟨other, reached, rfl⟩)
          · have greater :=
              (List.pairwise_append.mp increasing).2.2 last
                (List.mem_append_right _ List.mem_cons_self) other beyond
            omega
        · exact Or.inl old
      · intro late
        rw [await_targetState, logging_targetState, state] at late
        exact absurd late (lt_irrefl _)
  | passes =>
      refine ⟨nofun, ?_, ?_⟩
      · intro subsystem waiting
        have stopping := (phase.of_pending waiting).1
        cases stopping
      · intro _ other member
        refine List.mem_append.mpr ?_
        rcases covers other member with inside | old
        · exact Or.inr (List.mem_map.mpr ⟨other, inside, rfl⟩)
        · exact Or.inl old

theorem stopsAll_started
    (phase : Phase config next)
    (sorted : target.subsystems.Pairwise (· < ·))
    (state : target.targetState = .initStartSubsystems)
    {rest : List Nat} (starts : Started config rest target next) :
    StopsAll next := by
  cases starts with
  | runs =>
      refine stopsAll_of_early phase
        (by rw [runningTarget_targetState]; decide) ?_
      intro first
      rw [runningTarget_targetState] at first
      cases first
  | @waits made subsystem begins =>
      have final :
          ((target.logging
            ((made ++ [subsystem]).map .subsystemStart)).await
              (.start subsystem)).targetState =
                .initStartSubsystems := state
      refine stopsAll_of_early phase (by rw [final]; decide) ?_
      intro first
      rw [final] at first
      cases first
  | refused begins stops =>
      rw [chain_of_sorted sorted] at stops
      refine stopsAll_stopped phase sorted ?_ ?_ stops
      · exact fun other member => Or.inl member
      · rfl

theorem stopsAll_broughtUp
    (phase : Phase config next)
    (bare : target.tgt = false ∧ target.subsystems = [])
    (state : target.targetState = .initSubsystem)
    (up : BroughtUp config target next) :
    StopsAll next := by
  cases up with
  | withoutRpc =>
      refine stopsAll_of_early phase ?_ fun _ => bare
      rw [logging_targetState, state]
      decide
  | withoutTarget =>
      refine ⟨nofun, ?_, ?_⟩
      · intro subsystem waiting
        cases (phase.of_pending waiting).1
      · intro _ other member
        change other ∈ target.subsystems at member
        rw [bare.2] at member
        exact (List.not_mem_nil member).elim
  | withoutDiscovery =>
      refine ⟨nofun, ?_, ?_⟩
      · intro subsystem waiting
        cases (phase.of_pending waiting).1
      · intro _ other member
        exact (List.not_mem_nil member).elim
  | asksForGroups =>
      exact stopsAll_of_early phase (show 2 < 5 by decide) nofun

/-- In the states behind the chain every call before is kept. -/
theorem StopsAll.behind
    (stopsAll : StopsAll target) (phase : Phase config next)
    {state : TargetState}
    (here : target.targetState = state)
    (late : TargetState.finiStopSubsystems.rank < state.rank)
    (rises : target.targetState.rank ≤ next.targetState.rank)
    (subsystems : next.subsystems = target.subsystems)
    (log : target.log <+: next.log) :
    StopsAll next := by
  rw [← here] at late
  exact stopsAll.later phase late (late.trans_le rises) subsystems
    fun _ member => log.subset member

theorem stopsAll_launched
    (phase : Phase config target) (stopsAll : StopsAll target)
    {rest : List InitMessage}
    (queue : target.initQueue = .appStart :: rest)
    (launch : Launched config (target.dequeued rest) next) :
    StopsAll next := by
  have reached := phase.launched queue launch
  have one := launches_dequeued queue
  rw [if_pos rfl] at one
  have bare := stopsAll.bare (phase.of_launches (by omega)).1
  cases launch with
  | waits =>
      exact stopsAll_of_early reached (show 0 < 5 by decide) fun _ => bare
  | goesOn up =>
      refine stopsAll_broughtUp reached ?_ ?_ up
      · exact bare
      · rfl

theorem stopsAll_emptied
    (phase : Phase config target) (stopsAll : StopsAll target)
    {rest : List InitMessage}
    (queue : target.initQueue = .destroyPollGroupsDone :: rest)
    (last : decremented target.numPollGroups = 0) :
    StopsAll
      (destroyingTarget
        ((removing (target.dequeued rest)).moveTo .finiTarget)) := by
  have reached := phase.emptied queue last
  have state := (phase.lost queue).1
  rw [destroyingTarget] at reached ⊢
  split at reached
  · rename_i made
    rw [if_pos made]
    refine stopsAll.behind reached state (by decide) ?_ rfl
      (List.prefix_append _ _)
    rw [state]
    exact show 6 ≤ 7 by decide
  · rename_i missing
    rw [if_neg missing]
    refine stopsAll.behind reached state (by decide) ?_ rfl
      (List.prefix_append _ _)
    rw [state]
    exact show 6 ≤ 8 by decide

theorem stopsAll_stoppedNext
    (phase : Phase config target) (ordered : Ordered target)
    (stopsAll : StopsAll target)
    {subsystem : Nat} (waiting : .stop subsystem ∈ target.pending)
    (stops :
      Stopped (target.subsystems.filter (subsystem < ·))
        (target.answered (.stop subsystem)) next) :
    StopsAll next := by
  refine stopsAll_stopped (phase.stoppedNext waiting stops)
    (ordered.subsystems.sublist List.filter_sublist) ?_ ?_ stops
  · intro other member
    rcases Nat.lt_or_ge subsystem other with after | before
    · exact Or.inl (List.mem_filter.mpr ⟨member, decide_eq_true after⟩)
    · exact Or.inr
        (stopsAll.waiting subsystem waiting other member before)
  · exact (phase.of_pending waiting).1

theorem stopsAll_of_turn
    (phase : Phase config target) (ordered : Ordered target)
    (stopsAll : StopsAll target) (turn : Turn config True target next) :
    StopsAll next := by
  have reached := phase_of_turn phase turn
  have sorted := ordered.subsystems
  cases turn with
  | ignored => exact stopsAll
  | launched queue launch => exact stopsAll_launched phase stopsAll queue launch
  | complete queue last starts =>
      refine stopsAll_started reached ?_ ?_ starts
      · exact sorted
      · rfl
  | emptied queue last => exact stopsAll_emptied phase stopsAll queue last
  | shut queue runs stops =>
      rw [chain_of_sorted sorted] at stops
      refine stopsAll_stopped reached sorted ?_ ?_ stops
      · exact fun other member => Or.inl member
      · rfl
  | groupCreated next =>
      exact stopsAll.congr rfl
        (fun _ member => List.mem_append_left _ member) rfl rfl rfl
  | groupFailed next =>
      exact stopsAll.congr rfl
        (fun _ member => List.mem_append_left _ member) rfl rfl rfl
  | groupLeaving next =>
      have state := (phase.dropped (mem_of_nextGroupMessage next)).1
      exact stopsAll.behind reached state (by decide) (le_refl _) rfl
        (List.prefix_append _ _)
  | initialised waiting up =>
      have state : target.targetState = .initSubsystem :=
        (phase.of_pending waiting).1
      refine stopsAll_broughtUp reached ?_ ?_ up
      · exact stopsAll.bare state
      · exact state
  | startedNext waiting starts =>
      have state : target.targetState = .initStartSubsystems :=
        (phase.of_pending waiting).1
      refine stopsAll_started reached ?_ ?_ starts
      · exact sorted
      · exact state
  | stoppedNext waiting stops =>
      exact stopsAll_stoppedNext phase ordered stopsAll waiting stops
  | groupGone waiting =>
      have state : target.targetState = .finiPollGroups :=
        (phase.of_pending waiting).1
      exact stopsAll.behind reached state (by decide) (le_refl _) rfl
        List.prefix_rfl
  | targetGone waiting =>
      have state : target.targetState = .finiTarget :=
        (phase.of_pending waiting).1
      refine stopsAll.behind reached state (by decide) ?_ rfl
        (List.prefix_append _ _)
      rw [state]
      exact show 7 ≤ 8 by decide
  | finished waiting =>
      have state : target.targetState = .finiSubsystem :=
        (phase.of_pending waiting).1
      exact stopsAll.behind reached state (by decide) (le_refl _) rfl
        (List.prefix_append _ _)
  | subsystemAdded made fresh early =>
      refine stopsAll_of_early reached ?_ ?_
      · exact lt_of_le_of_lt (early trivial) (by decide)
      · intro first
        exact absurd ((stopsAll.bare first).1.symm.trans made)
          Bool.false_ne_true
  | _ => exact stopsAll.congr rfl (fun _ member => member) rfl rfl rfl

/--
When no subsystem is given to a target that is going down, every subsystem of
the target has been asked to stop before its poll groups go, and before the
target and the library come down.
-/
theorem every_subsystem_is_stopped_first
    (reached : QuietlyReachable config target)
    (late : TargetState.finiStopSubsystems.rank < target.targetState.rank) :
    ∀ subsystem ∈ target.subsystems,
      target.log.count (.subsystemStop subsystem) = 1 := by
  have all :
      Phase config target ∧ Owned target ∧ Ordered target ∧
        StopsAll target :=
    reached.preserves
      (fun target =>
        Phase config target ∧ Owned target ∧ Ordered target ∧
          StopsAll target)
      ⟨phase_initial, owned_initial, ordered_initial, stopsAll_initial⟩
      fun _ _ holds turn =>
        ⟨phase_of_turn holds.1 turn, owned_of_turn holds.1 holds.2.1 turn,
          ordered_of_turn holds.1 holds.2.1 holds.2.2.1 turn,
          stopsAll_of_turn holds.1 holds.2.2.1 holds.2.2.2 turn⟩
  intro subsystem member
  exact List.count_eq_one_of_mem all.2.2.1.order.nodup
    (all.2.2.2.passed late subsystem member)

theorem shutdownEvents_early :
    ∀ event ∈ shutdownEvents, ∀ state, AddsEarly state event := by
  intro event member state subsystem added
  subst added
  simp [shutdownEvents, bootEvents] at member

theorem quietlyReachable_finishedTarget :
    QuietlyReachable oneCore finishedTarget := by
  refine ZnsBench.Core.GuardedRun.Run.of_foldlM ?_ shutdownEvents_fold
  intro event member state
  refine ⟨?_, shutdownEvents_early event member state⟩
  intro library given subsystem _
  subst given
  rw [shutdownEvents_obliged _ member library rfl]
  exact nofun

theorem every_subsystem_is_stopped_first_finished :
    QuietlyReachable oneCore finishedTarget ∧
      finishedTarget.subsystems = [0] ∧
      finishedTarget.log.count (.subsystemStop 0) = 1 :=
  ⟨quietlyReachable_finishedTarget, rfl,
    every_subsystem_is_stopped_first quietlyReachable_finishedTarget
      (by decide) 0 List.mem_cons_self⟩

end ZnsBench.Nvmf.TargetLifecycle

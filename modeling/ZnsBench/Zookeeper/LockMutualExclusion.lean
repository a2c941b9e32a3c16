import ZnsBench.Zookeeper.LockPhases

/-!
# Mutual exclusion of the lock

An announcement is rightful when the process's own node exists and has the
smallest number.  In runs in which session events only reach processes whose
`zmt.watch` is set, every announcement is rightful, and at most one process
is between its announcement and the deletion of its node.  Without that
assumption both fail: a session event before the create reply makes a process
announce the lock while another one holds it.

A client of ZooKeeper is told of its connection by a session event, and it is
told before `zmt.watch` can be set.  The results are about the runs in which
that event stays out; they do not say that it always does harm.
-/

namespace ZnsBench.Zookeeper.LockMutualExclusion

open ZnsBench.Core.GuardedRun
open ZnsBench.Zookeeper.ZnodeServer
open ZnsBench.Zookeeper.LockProtocol
open ZnsBench.Zookeeper.LockPhases

/-- The process has announced the lock and its node is not deleted yet. -/
def Holding (state : System) (session : Nat) : Prop :=
  (state.clients session).announced ≠ [] ∧
    state.server.owned session ≠ []

instance (state : System) (session : Nat) :
    Decidable (Holding state session) :=
  inferInstanceAs (Decidable (_ ∧ _))

/-- A process about to release the lock holds the smallest node. -/
theorem ownsSmallest_of_releasing
    {server : Server} {session seq : Nat} {client : Client}
    (follows : Follows server session client (.releasing seq)) :
    server.OwnsSmallest session := by
  refine ⟨seq, ?_, follows.sound⟩
  rw [follows.owned]
  exact List.mem_singleton_self seq

theorem ownsSmallest_of_holding
    {state : System} {session : Nat}
    (coherent : Coherent state)
    (holding : Holding state session) :
    state.server.OwnsSmallest session := by
  rcases coherent session with ⟨phase, follows⟩
  have announced := holding.1
  have owned := holding.2
  rw [follows.announced] at announced
  rw [follows.owned] at owned
  cases phase with
  | releasing seq => exact ownsSmallest_of_releasing follows
  | released seq rc => exact absurd rfl owned
  | finished seq => exact absurd rfl owned
  | closing seq => exact absurd rfl owned
  | closed seq => exact absurd rfl owned
  | _ => exact absurd rfl announced

/-- A step that announces is a callback of the owner of the smallest node. -/
theorem ownsSmallest_of_announcing
    {state next : System} {label : Label} {session : Nat}
    (coherent : Coherent state)
    (admitted : WatchIsSet state label)
    (taken : step state label = some next)
    (announces :
      (next.clients session).announced ≠
        (state.clients session).announced) :
    state.server.OwnsSmallest session := by
  rcases step_cases taken with
    ⟨acting, rfl, fresh, rfl⟩ | ⟨acting, rfl, connected, rfl⟩ |
      ⟨acting, order, request, rest, outcome, rfl, queued, handles, rfl⟩ |
      ⟨acting, message, rest, client, rfl, callable, queued, called, rfl⟩ |
      ⟨acting, client, rfl, callable, called, rfl⟩ |
      ⟨acting, rfl, running, quitting, rfl⟩
  · by_cases equal : session = acting
    · subst acting
      simp at announces
    · simp [equal] at announces
  · by_cases equal : session = acting
    · subst acting
      simp [zooAcreate, send] at announces
    · simp [equal] at announces
  · by_cases equal : session = acting
    · simp [System.apply, receive, equal] at announces
    · simp [System.apply, receive, equal] at announces
  · by_cases equal : session = acting
    · subst acting
      rw [Sessions.clients_put_self] at announces
      rcases coherent session with ⟨phase, follows⟩
      rcases follows_callback follows queued called with
        ⟨nextPhase, moved, _, unchanged | ⟨seq, rfl⟩⟩
      · exact absurd unchanged announces
      · exact ownsSmallest_of_releasing moved
    · simp [equal] at announces
  · rw [session_ignored admitted called, Sessions.put_self] at announces
    exact absurd rfl announces
  · by_cases equal : session = acting
    · subst acting
      simp [send] at announces
    · simp [equal] at announces

/-! ## The result -/

/--
In every run, for any number of processes, in which session events only reach
processes whose `zmt.watch` is set: a process announces the lock only when
its own node exists and is the smallest, and at most one process is between
its announcement and the deletion of its node.
-/
theorem lock_excludes_while_session_events_find_watch
    (state : System) (reachable : Reachable WatchIsSet state) :
    (∀ label next session,
      WatchIsSet state label →
        step state label = some next →
          (next.clients session).announced ≠
              (state.clients session).announced →
            state.server.OwnsSmallest session) ∧
      ∀ first second,
        Holding state first → Holding state second → first = second := by
  have coherent := coherent_of_reachable reachable
  constructor
  · intro label next session admitted taken announces
    exact ownsSmallest_of_announcing coherent admitted taken announces
  · intro first second firstHolds secondHolds
    exact
      Server.session_eq_of_ownsSmallest
        (ownsSmallest_of_holding coherent firstHolds)
        (ownsSmallest_of_holding coherent secondHolds)

/-- Of two processes with nodes, the first holds the lock. -/
theorem lock_excludes_two_processes :
    ∃ state,
      Reachable WatchIsSet state ∧
        Holding state 0 ∧
          state.server.owned 1 ≠ [] ∧ ¬ Holding state 1 := by
  have replayed :
      ∃ state,
        Reachable WatchIsSet state ∧
          Holding state 0 ∧ state.server.owned 1 ≠ [] :=
    Run.exists_of_replay _
      [.start 0, .submit 0, .serve 0 [], .start 1, .submit 1, .serve 1 [],
        .deliver 1, .serve 1 [1, 0], .deliver 1, .session 1, .deliver 0]
      (by decide +kernel)
  rcases replayed with ⟨state, reached, holds, owned⟩
  refine ⟨state, reached, holds, owned, ?_⟩
  intro second
  have exclusive :=
    (lock_excludes_while_session_events_find_watch state reached).2
  exact absurd (exclusive 0 1 holds second) (by decide)

/--
The second process gets a session event before its create reply.  It lists
the children with `seq_me` still zero, takes the node of the first process
for its own and announces the lock, while the first process holds it.
-/
theorem session_event_breaks_exclusion :
    ∃ state,
      Reachable Unrestricted state ∧
        Holding state 0 ∧
          ¬ state.server.OwnsSmallest 1 ∧
            ∃ next,
              step state (.deliver 1) = some next ∧
                (next.clients 1).announced ≠
                    (state.clients 1).announced ∧
                  Holding next 0 ∧ Holding next 1 := by
  have replayed :
      ∃ state,
        Reachable Unrestricted state ∧
          Holding state 0 ∧
            ¬ state.server.OwnsSmallest 1 ∧
              (step state (.deliver 1)).any
                (fun next =>
                  decide
                    ((next.clients 1).announced ≠
                        (state.clients 1).announced ∧
                      Holding next 0 ∧ Holding next 1)) =
                true :=
    Run.exists_of_replay _
      [.start 0, .submit 0, .serve 0 [], .deliver 0, .start 1, .session 1,
        .submit 1, .serve 1 [0], .serve 1 []]
      (by decide +kernel)
  rcases replayed with ⟨state, reached, holds, wrongful, announces⟩
  rw [Option.any_eq_true] at announces
  rcases announces with ⟨next, taken, both⟩
  exact
    ⟨state, reached, holds, wrongful, next, taken, of_decide_eq_true both⟩

end ZnsBench.Zookeeper.LockMutualExclusion

import ZnsBench.Zookeeper.LockPhases

/-!
# One acquisition and one release

Both `zk_create_lock_res1_es` and `zk_get_children_lock_res1` announce the
lock and delete a node.  In runs in which session events only reach processes
whose `zmt.watch` is set, at most one of them does so, once, and the deleted
path is the one that the create returned.  A session event that finds
`zmt.watch` empty starts a second listing: the process may then announce
twice, delete the node of another process, or delete the path of a null
pointer.  The event that tells a client of its connection is such an event;
the results are about the runs in which it stays out, and do not say that it
always does harm.
-/

namespace ZnsBench.Zookeeper.LockRelease

open ZnsBench.Core.ByteString
open ZnsBench.Core.GuardedRun
open ZnsBench.Zookeeper.ZnodeServer
open ZnsBench.Zookeeper.LockProtocol
open ZnsBench.Zookeeper.LockPhases

/-- Runs of the lock together with the paths that creates have returned. -/
def RecordedReachable
    (allowed : System → Label → Prop) (pair : System × Returns) : Prop :=
  Run (recorded step noteReturned)
    (fun pair label => allowed pair.1 label)
    (System.initial, fun _ => []) pair

theorem tracks_of_reachable
    {pair : System × Returns}
    (reachable : RecordedReachable WatchIsSet pair) :
    Tracks pair.2 pair.1 := by
  refine
    Run.preserves_recorded (fun state returns => Tracks returns state)
      reachable tracks_initial ?_
  intro state label next returns tracks admitted taken
  exact tracks_step tracks admitted taken

theorem length_announced_le (phase : Phase) :
    phase.announced.length ≤ 1 := by
  cases phase <;> simp [Phase.announced]

theorem returned_eq_of_mem_announced
    {phase : Phase} {path : Bytes}
    (member : path ∈ phase.announced) :
    phase.returned = [path] := by
  cases phase with
  | releasing seq =>
      rw [List.mem_singleton.mp member]
      rfl
  | released seq rc =>
      rw [List.mem_singleton.mp member]
      rfl
  | finished seq =>
      rw [List.mem_singleton.mp member]
      rfl
  | closing seq =>
      rw [List.mem_singleton.mp member]
      rfl
  | closed seq =>
      rw [List.mem_singleton.mp member]
      rfl
  | _ => cases member

/-! ## The result -/

/--
In every run, for any number of processes, in which session events only reach
processes whose `zmt.watch` is set: a process announces the lock at most
once, calls `zoo_adelete` at most once, with exactly the path that its create
returned, and what it deletes is no other process's node.
-/
theorem lock_acquires_and_releases_once
    (state : System) (returns : Returns)
    (reachable : RecordedReachable WatchIsSet (state, returns))
    (session : Nat) :
    (state.clients session).announced.length ≤ 1 ∧
      (state.clients session).deletes.length ≤ 1 ∧
        (∀ path ∈ (state.clients session).deletes,
          returns session = [path]) ∧
          ∀ path rest other,
            (state.clients session).requests = .adelete path :: rest →
              other ≠ session →
                (state.server.remove nodePath
                      (Server.atPath nodePath path)).owned other =
                  state.server.owned other := by
  rcases tracks_of_reachable reachable session with
    ⟨phase, follows, returned⟩
  refine ⟨?_, ?_, ?_, ?_⟩
  · rw [follows.announced]
    exact length_announced_le phase
  · rw [follows.deletes]
    exact length_announced_le phase
  · intro path member
    rw [follows.deletes] at member
    exact returned.trans (returned_eq_of_mem_announced member)
  · intro path rest other queued different
    exact
      owned_remove_of_deletesOwn (deletesOwn_of_follows follows queued)
        different

/-- The second of two processes has announced and deleted its own node. -/
theorem lock_acquires_and_releases_once_in_turn :
    ∃ state returns,
      RecordedReachable WatchIsSet (state, returns) ∧
        (state.clients 1).announced = [nodePath 1] ∧
          (state.clients 1).deletes.length ≤ 1 ∧
            returns 1 = [nodePath 1] := by
  have replayed :
      ∃ pair : System × Returns,
        RecordedReachable WatchIsSet pair ∧
          (pair.1.clients 1).announced = [nodePath 1] ∧
            (pair.1.clients 1).deletes = [nodePath 1] :=
    Run.exists_of_replay _
      [.start 0, .submit 0, .serve 0 [], .start 1, .submit 1, .serve 1 [],
        .deliver 1, .serve 1 [1, 0], .deliver 1, .serve 1 [], .deliver 0,
        .serve 0 [], .deliver 1, .deliver 1, .serve 1 [1], .session 1,
        .deliver 1]
      (by decide +kernel)
  rcases replayed with ⟨⟨state, returns⟩, reached, announced, deletes⟩
  have once := lock_acquires_and_releases_once state returns reached 1
  refine ⟨state, returns, reached, announced, once.2.1, ?_⟩
  apply once.2.2.1
  rw [deletes]
  exact List.mem_singleton_self _

/--
Session events that find `zmt.watch` empty: a process alone announces and
deletes twice; a process deletes the node of the first one; a process deletes
the path of a null pointer.
-/
theorem session_event_breaks_single_release :
    (∃ state,
      Reachable Unrestricted state ∧
        (state.clients 0).announced = [nodePath 0, nodePath 0] ∧
          (state.clients 0).deletes = [nodePath 0, nodePath 0]) ∧
      (∃ state,
        Reachable Unrestricted state ∧
          state.server.owned 0 = [0] ∧
            state.server.owned 1 = [1] ∧
              (state.clients 1).deletes = [nodePath 0]) ∧
        ∃ state,
          Reachable Unrestricted state ∧
            (state.clients 0).deletes = [lockPath none] := by
  refine ⟨?_, ?_, ?_⟩
  · exact
      Run.exists_of_replay _
        [.start 0, .submit 0, .session 0, .serve 0 [], .serve 0 [0],
          .deliver 0, .deliver 0]
        (by decide +kernel)
  · exact
      Run.exists_of_replay _
        [.start 0, .submit 0, .serve 0 [], .start 1, .session 1,
          .submit 1, .serve 1 [0], .serve 1 [], .deliver 1]
        (by decide +kernel)
  · exact
      Run.exists_of_replay _
        [.start 0, .session 0, .serve 0 [], .deliver 0]
        (by decide +kernel)

end ZnsBench.Zookeeper.LockRelease

import ZnsBench.Core.GuardedRun
import ZnsBench.Core.SortedPosition
import ZnsBench.Zookeeper.Sessions

/-!
# The leader election

Model of `zkleader.cc`: any number of processes run
`create_ephemeral_sequential_node`, `check_leadership` and `watcher_callback`
against one server.

The calls are synchronous, so `check_leadership` is cut at its calls: the
listing, the decision on the listing, and the existence check that sets the
watch are separate steps, between which other processes act.  A process runs
one `check_leadership` at a time.  The first one runs on the main thread; a
watch event can only arrive once its existence check is done, after which the
main thread only prints.  Later ones run in the watcher, which is called for
one event at a time.

`zoo_get_children` and `zoo_exists` may return an error.  An existence check
that the server handles sets its watch, whether or not the node exists.  A
process may die at any moment; its session ends and its node goes.
-/

namespace ZnsBench.Zookeeper.LeaderElection

open ZnsBench.Core.ByteString
open ZnsBench.Core.GuardedRun
open ZnsBench.Core.PaddedDecimal
open ZnsBench.Core.SortedPosition
open ZnsBench.Zookeeper.ZnodeServer

/-! ## Names -/

/-- The parent of the nodes of the candidates. -/
def electionPath : Bytes := ascii "/election"

/-- The name that a sequential create gives a node: `node%010d`. -/
def nodeName (seq : Nat) : Bytes := ascii "node" ++ padded 10 seq

/-- `election_path + "/" + name`. -/
def pathOf (name : Bytes) : Bytes := electionPath ++ ascii "/" ++ name

/-- The path of the node with a number. -/
def nodePath (seq : Nat) : Bytes := pathOf (nodeName seq)

/-- Names are ordered as their numbers are. -/
theorem nodeName_le_iff
    {first second : Nat}
    (firstSmall : first < counterLimit)
    (secondSmall : second < counterLimit) :
    nodeName first ≤ nodeName second ↔ first ≤ second := by
  rw [nodeName, nodeName, ← List.not_lt, stem_append_lt_iff, List.not_lt]
  exact
    padded_le_iff (fits_of_lt_counterLimit firstSmall)
      (fits_of_lt_counterLimit secondSmall)

theorem nodeName_inj
    {first second : Nat}
    (firstSmall : first < counterLimit)
    (secondSmall : second < counterLimit) :
    nodeName first = nodeName second ↔ first = second := by
  rw [nodeName, nodeName, List.append_cancel_left_eq]
  exact
    padded_inj (fits_of_lt_counterLimit firstSmall)
      (fits_of_lt_counterLimit secondSmall)

theorem nodePath_inj
    {first second : Nat}
    (firstSmall : first < counterLimit)
    (secondSmall : second < counterLimit) :
    nodePath first = nodePath second ↔ first = second := by
  rw [nodePath, nodePath, pathOf, pathOf, List.append_cancel_left_eq]
  exact nodeName_inj firstSmall secondSmall

/-! ## A process -/

/-- Where a process stands. -/
inductive Position where
  | fresh
  | connected
  /-- `check_leadership` is about to list the children. -/
  | listing
  /-- The children have been returned. -/
  | deciding (children : List Bytes)
  /-- `check_leadership` is about to check `predecessor_node`. -/
  | checking
  /-- `check_leadership` has returned. -/
  | idle
  | dead
deriving DecidableEq, Repr

/-- A process that takes part in the election. -/
structure Client where
  currentNode : Bytes
  predecessorNode : Bytes
  position : Position
  inbox : List WatchEvent
  /-- Whether the process has printed that it is the leader. -/
  announced : Bool
deriving DecidableEq, Repr

/-- A process before it has connected. -/
def Client.fresh : Client := ⟨[], [], .fresh, [], false⟩

/-- The outcome of the decision in `check_leadership`. -/
inductive Leadership where
  | leader
  | follower (predecessorNode : Bytes)
deriving DecidableEq, Repr

/--
The decision on a listing.  `std::find` gives the end of the sorted names
when the own name is missing; the position before it is the last one.
-/
def decideLeadership (currentNode : Bytes) (children : List Bytes) :
    Leadership :=
  let sortedNodes := sorted children
  let it := sortedNodes.idxOf (currentNode.drop (electionPath.length + 1))
  if it = 0 then
    .leader
  else
    .follower (pathOf (sortedNodes.getD (it - 1) []))

/-- `check_leadership` up to the return of `zoo_get_children`. -/
def childrenFetched (rc : Int) (children : List Bytes) (client : Client) :
    Client :=
  if rc ≠ zok then
    { client with position := .idle }
  else
    { client with position := .deciding children }

/-- `check_leadership` from there to its end, or to `zoo_exists`. -/
def leadershipDecided (children : List Bytes) (client : Client) :
    Client :=
  match decideLeadership client.currentNode children with
  | .leader => { client with announced := true, position := .idle }
  | .follower predecessorNode =>
      { client with
        predecessorNode := predecessorNode
        position := .checking }

/-- The watcher, which looks for its predecessor only. -/
def watcherCallback (event : WatchEvent) (client : Client) : Client :=
  if event.type = .deleted ∧ event.path = client.predecessorNode then
    { client with position := .listing }
  else
    client

/-- `create_ephemeral_sequential_node` after `zoo_create` has succeeded. -/
def nodeCreated (path : Bytes) (client : Client) : Client :=
  { client with currentNode := path, position := .listing }

/-! ## Runs -/

/-- The processes and the server. -/
abbrev System := Sessions Client

/-- An empty server and processes that have not connected. -/
def System.initial : System := ⟨Server.empty, fun _ => Client.fresh⟩

/-- Events arrive at a process. -/
def receive (events : List WatchEvent) (client : Client) : Client :=
  { client with inbox := client.inbox ++ events }

/-- The server changes and sends watch events. -/
def System.broadcast
    (state : System) (server : Server)
    (events : Nat → List WatchEvent) : System where
  server := server
  clients := fun session =>
    receive (events session) (state.clients session)

/--
The events of a run.  A code `rc` is what the call returns; for `check` the
code `zok` says that the server handles the call, which then returns `ZOK` or
`ZNONODE`.
-/
inductive Label where
  | connect (session : Nat)
  | create (session : Nat) (rc : Int)
  | getChildren (session : Nat) (rc : Int) (order : List Nat)
  | decide (session : Nat)
  | check (session : Nat) (rc : Int)
  | deliver (session : Nat)
  | session (session : Nat)
  | die (session : Nat)
deriving DecidableEq, Repr

/-- The transitions of the processes and of the server. -/
def step (state : System) : Label → Option System
  | .connect session =>
      if (state.clients session).position = .fresh then
        some
          (state.put session
            { state.clients session with position := .connected })
      else
        none
  | .create session rc =>
      if (state.clients session).position = .connected then
        if rc ≠ zok then
          -- `exit(EXIT_FAILURE)`
          some
            (state.put session
              { state.clients session with position := .dead })
        else if room : state.server.next < counterLimit then
          some
            ((state.broadcast
                (state.server.create nodePath session room)
                (state.server.createEvents nodePath)).put session
              (nodeCreated (nodePath state.server.next)
                (receive (state.server.createEvents nodePath session)
                  (state.clients session))))
        else
          none
      else
        none
  | .getChildren session rc order =>
      if (state.clients session).position = .listing ∧
          (rc = zok →
            order.isPerm (state.server.children.map Znode.seq) =
              true) then
        some
          (state.put session
            (childrenFetched rc (order.map nodeName)
              (state.clients session)))
      else
        none
  | .decide session =>
      match (state.clients session).position with
      | .deciding children =>
          some
            (state.put session
              (leadershipDecided children (state.clients session)))
      | _ => none
  | .check session rc =>
      if (state.clients session).position = .checking then
        let client :=
          { state.clients session with position := .idle }
        if rc = zok then
          some
            ((state.put session client).setWatch session
              client.predecessorNode)
        else
          some (state.put session client)
      else
        none
  | .deliver session =>
      match (state.clients session).inbox with
      | [] => none
      | event :: rest =>
          if (state.clients session).position = .idle then
            some
              (state.put session
                (watcherCallback event
                  { state.clients session with inbox := rest }))
          else
            none
  | .session session =>
      if (state.clients session).position ≠ .fresh ∧
          (state.clients session).position ≠ .dead then
        some
          (state.put session
            (watcherCallback ⟨.session, []⟩ (state.clients session)))
      else
        none
  | .die session =>
      if (state.clients session).position ≠ .dead then
        some
          ((state.broadcast
              (state.server.closeSession nodePath session)
              (state.server.removeEvents nodePath
                (Server.ownedBy session))).put session
            { state.clients session with position := .dead })
      else
        none

/-- The states of runs whose events meet an assumption. -/
def Reachable
    (allowed : System → Label → Prop) (state : System) : Prop :=
  Run step allowed System.initial state

/-! ## What a step can do -/

/-- The moves of the system, one for each way a step can go. -/
inductive Moves (state : System) : Label → System → Prop where
  | connect (session : Nat)
      (fresh : (state.clients session).position = .fresh) :
      Moves state (.connect session)
        (state.put session
          { state.clients session with position := .connected })
  | createFails (session : Nat) (rc : Int)
      (connected : (state.clients session).position = .connected) :
      Moves state (.create session rc)
        (state.put session
          { state.clients session with position := .dead })
  | create (session : Nat)
      (connected : (state.clients session).position = .connected)
      (room : state.server.next < counterLimit) :
      Moves state (.create session zok)
        ((state.broadcast
            (state.server.create nodePath session room)
            (state.server.createEvents nodePath)).put session
          (nodeCreated (nodePath state.server.next)
            (receive (state.server.createEvents nodePath session)
              (state.clients session))))
  | getChildren (session : Nat) (rc : Int) (order : List Nat)
      (listing : (state.clients session).position = .listing)
      (listed :
        rc = zok → order.Perm (state.server.children.map Znode.seq)) :
      Moves state (.getChildren session rc order)
        (state.put session
          (childrenFetched rc (order.map nodeName)
            (state.clients session)))
  | decide (session : Nat) (children : List Bytes)
      (deciding :
        (state.clients session).position = .deciding children) :
      Moves state (.decide session)
        (state.put session
          (leadershipDecided children (state.clients session)))
  | check (session : Nat)
      (checking : (state.clients session).position = .checking) :
      Moves state (.check session zok)
        ((state.put session
            { state.clients session with position := .idle }).setWatch
          session (state.clients session).predecessorNode)
  | checkFails (session : Nat) (rc : Int)
      (failed : rc ≠ zok)
      (checking : (state.clients session).position = .checking) :
      Moves state (.check session rc)
        (state.put session
          { state.clients session with position := .idle })
  | deliver (session : Nat) (event : WatchEvent)
      (rest : List WatchEvent)
      (queued : (state.clients session).inbox = event :: rest)
      (idle : (state.clients session).position = .idle) :
      Moves state (.deliver session)
        (state.put session
          (watcherCallback event
            { state.clients session with inbox := rest }))
  | session (session : Nat) :
      Moves state (.session session) state
  | die (session : Nat) :
      Moves state (.die session)
        ((state.broadcast
            (state.server.closeSession nodePath session)
            (state.server.removeEvents nodePath
              (Server.ownedBy session))).put session
          { state.clients session with position := .dead })

theorem moves_of_step
    {state next : System} {label : Label}
    (taken : step state label = some next) :
    Moves state label next := by
  cases label with
  | connect session =>
      simp only [step] at taken
      split at taken
      · cases taken
        exact .connect session (by assumption)
      · cases taken
  | create session rc =>
      simp only [step] at taken
      split at taken
      · split at taken
        · cases taken
          exact .createFails session rc (by assumption)
        · rename_i connected ok
          have equal : rc = zok := not_not.mp ok
          subst rc
          split at taken
          · cases taken
            exact .create session connected (by assumption)
          · cases taken
      · cases taken
  | getChildren session rc order =>
      simp only [step] at taken
      split at taken
      · rename_i enabled
        cases taken
        refine .getChildren session rc order enabled.1 ?_
        intro ok
        exact List.isPerm_iff.mp (enabled.2 ok)
      · cases taken
  | decide session =>
      simp only [step] at taken
      split at taken
      · cases taken
        exact .decide session _ (by assumption)
      · cases taken
  | check session rc =>
      simp only [step] at taken
      split at taken
      · split at taken
        · rename_i checking ok
          subst rc
          cases taken
          exact .check session checking
        · cases taken
          exact .checkFails session rc (by assumption) (by assumption)
      · cases taken
  | deliver session =>
      simp only [step] at taken
      split at taken
      · cases taken
      · rename_i event rest queued
        split at taken
        · cases taken
          exact .deliver session event rest queued (by assumption)
        · cases taken
  | session session =>
      simp only [step] at taken
      split at taken
      · have ignored :
            watcherCallback ⟨.session, []⟩ (state.clients session) =
              state.clients session := by
          simp [watcherCallback]
        rw [ignored, Sessions.put_self] at taken
        cases taken
        exact .session session
      · cases taken
  | die session =>
      simp only [step] at taken
      split at taken
      · cases taken
        exact .die session
      · cases taken

/-! ## The decision on a listing of election nodes -/

@[simp]
theorem drop_nodePath (seq : Nat) :
    (nodePath seq).drop (electionPath.length + 1) = nodeName seq := by
  have length :
      electionPath.length + 1 = (electionPath ++ ascii "/").length := by
    rw [List.length_append]
    rfl
  rw [nodePath, pathOf, length, List.drop_left]

section Decision

variable
    {seq : Nat} {listing : List Nat}
    (listed : seq ∈ listing)
    (small : ∀ other ∈ listing, other < counterLimit)

include listed small

/-- The leader is the process with the smallest number of the listing. -/
theorem decideLeadership_eq_leader_iff :
    decideLeadership (nodePath seq) (listing.map nodeName) = .leader ↔
      ∀ other ∈ listing, seq ≤ other := by
  have member : nodeName seq ∈ listing.map nodeName :=
    List.mem_map_of_mem listed
  have first :
      (∀ name ∈ listing.map nodeName, nodeName seq ≤ name) ↔
        ∀ other ∈ listing, seq ≤ other := by
    rw [List.forall_mem_map]
    apply forall₂_congr
    intro other otherMember
    exact nodeName_le_iff (small seq listed) (small other otherMember)
  rw [← first, ← idxOf_sorted_eq_zero_iff member]
  simp only [decideLeadership, drop_nodePath]
  split
  · rename_i zero
    simp [zero]
  · rename_i nonzero
    simp [nonzero]

/-- The others watch the greatest smaller number of the listing. -/
theorem predecessor_of_follower
    {predecessorNode : Bytes}
    (decided :
      decideLeadership (nodePath seq) (listing.map nodeName) =
        .follower predecessorNode) :
    ∃ found ∈ listing,
      predecessorNode = nodePath found ∧ found < seq ∧
        ∀ other ∈ listing, other < seq → other ≤ found := by
  have member : nodeName seq ∈ listing.map nodeName :=
    List.mem_map_of_mem listed
  simp only [decideLeadership, drop_nodePath] at decided
  split at decided
  · cases decided
  · rename_i nonzero
    rcases sorted_predecessor member nonzero with
      ⟨name, nameMember, value, below, different, greatest⟩
    rcases List.mem_map.mp nameMember with ⟨found, foundMember, rfl⟩
    have seqSmall := small seq listed
    have foundSmall := small found foundMember
    rw [List.getD_eq_getElem?_getD, value, Option.getD_some] at decided
    cases decided
    rw [nodeName_le_iff foundSmall seqSmall] at below
    rw [Ne, nodeName_inj foundSmall seqSmall] at different
    refine ⟨found, foundMember, rfl, lt_of_le_of_ne below different, ?_⟩
    intro other otherMember less
    have otherSmall := small other otherMember
    rw [← nodeName_le_iff otherSmall foundSmall]
    apply greatest _ (List.mem_map_of_mem otherMember)
    · rw [nodeName_le_iff otherSmall seqSmall]
      exact le_of_lt less
    · rw [Ne, nodeName_inj otherSmall seqSmall]
      exact ne_of_lt less

end Decision

end ZnsBench.Zookeeper.LeaderElection

import ZnsBench.Zookeeper.LeaderElection

/-!
# Agreement of the election

A process decides on a listing that may be stale when it announces.  What
saves the election is that a node with a smaller number than the process's
own was created before it: while such a node exists, it is in every listing
the process can hold.  So a process that finds itself first is first among
the nodes that are still there, and stays so.
-/

namespace ZnsBench.Zookeeper.LeaderAgreement

open ZnsBench.Core.ByteString
open ZnsBench.Core.GuardedRun
open ZnsBench.Zookeeper.ZnodeServer
open ZnsBench.Zookeeper.LeaderElection

/-! ## The invariant -/

/-- Between the creation of the node and the death of the process. -/
def inside : Position → Bool
  | .listing | .deciding _ | .checking | .idle => true
  | _ => false

/-- A live process with a node. -/
structure Candidate
    (server : Server) (session : Nat) (client : Client)
    (seq : Nat) : Prop where
  inside : inside client.position = true
  owned : server.owned session = [seq]
  current : client.currentNode = nodePath seq
  listed :
    ∀ children, client.position = .deciding children →
      ∃ listing,
        children = listing.map nodeName ∧ seq ∈ listing ∧
          (∀ other ∈ listing, other < counterLimit) ∧
            server.Covers listing seq
  leads : client.announced = true → server.Smallest seq

/-- What holds of every process. -/
inductive Standing
    (server : Server) (session : Nat) (client : Client) : Prop where
  | absent (outside : inside client.position = false)
      (owned : server.owned session = [])
      (silent : client.announced = true → client.position = .dead)
  | candidate (seq : Nat)
      (present : Candidate server session client seq)

/-- Every client stands where the protocol has led it. -/
def Orderly (state : System) : Prop := state.Each Standing

theorem orderly_initial : Orderly System.initial :=
  fun _ => .absent rfl rfl (fun announced => by cases announced)

theorem Candidate.le_next
    {server : Server} {session : Nat} {client : Client} {seq : Nat}
    (candidate : Candidate server session client seq) :
    seq ≤ server.next := by
  have member : seq ∈ server.owned session := by
    rw [candidate.owned]
    exact List.mem_singleton_self seq
  exact le_of_lt (server.below _ (Server.mem_owned.mp member))

/-- The changes of the server that leave a process's node alone. -/
theorem Candidate.evolve
    {server next : Server} {session : Nat} {client : Client} {seq : Nat}
    (candidate : Candidate server session client seq)
    (owned : next.owned session = server.owned session)
    (evolves : Server.Evolves server next)
    (events : List WatchEvent) :
    Candidate next session (receive events client) seq where
  inside := candidate.inside
  owned := owned.trans candidate.owned
  current := candidate.current
  listed := by
    intro children deciding
    rcases candidate.listed children deciding with
      ⟨listing, equal, listed, small, covers⟩
    refine ⟨listing, equal, listed, small, ?_⟩
    exact Server.covers_evolves covers evolves candidate.le_next
  leads := by
    intro announced
    exact
      Server.smallest_evolves (candidate.leads announced) evolves
        candidate.le_next

theorem Standing.evolve
    {server next : Server} {session : Nat} {client : Client}
    (standing : Standing server session client)
    (owned : next.owned session = server.owned session)
    (evolves : Server.Evolves server next)
    (events : List WatchEvent) :
    Standing next session (receive events client) := by
  cases standing with
  | absent outside none silent =>
      exact .absent outside (owned.trans none) silent
  | candidate seq present =>
      exact .candidate seq (present.evolve owned evolves events)

/-- A process inside the election is a candidate. -/
theorem Standing.exists_candidate
    {server : Server} {session : Nat} {client : Client}
    {position : Position}
    (standing : Standing server session client)
    (here : client.position = position)
    (isInside : inside position = true) :
    ∃ seq, Candidate server session client seq := by
  cases standing with
  | absent outside owned silent =>
      rw [here, isInside] at outside
      cases outside
  | candidate seq present => exact ⟨seq, present⟩

/-- A process that has yet to create its node has done nothing. -/
theorem Standing.silent_outside
    {server : Server} {session : Nat} {client : Client}
    {position : Position}
    (standing : Standing server session client)
    (here : client.position = position)
    (isOutside : inside position = false)
    (alive : position ≠ .dead) :
    server.owned session = [] ∧ client.announced = false := by
  cases standing with
  | absent outside owned silent =>
      refine ⟨owned, ?_⟩
      rw [← Bool.not_eq_true]
      intro announced
      exact alive (here.symm.trans (silent announced))
  | candidate seq present =>
      have isInside := present.inside
      rw [here, isOutside] at isInside
      cases isInside

/-! ## The steps -/

/-- The server changes, and one process with it. -/
theorem orderly_broadcast
    {state : System} {next : Server} {events : Nat → List WatchEvent}
    {session : Nat} {client : Client}
    (orderly : Orderly state)
    (evolves : Server.Evolves state.server next)
    (owned :
      ∀ other, other ≠ session →
        next.owned other = state.server.owned other)
    (own : Standing next session client) :
    Orderly ((state.broadcast next events).put session client) := by
  intro other
  by_cases equal : other = session
  · subst other
    rw [Sessions.clients_put_self]
    exact own
  · rw [Sessions.clients_put_of_ne equal]
    exact
      (orderly other).evolve (owned other equal) evolves (events other)

/-- Setting a watch changes no node. -/
theorem orderly_watch
    {state : System} (orderly : Orderly state)
    (session : Nat) (path : Bytes) :
    Orderly (state.setWatch session path) := by
  intro other
  cases orderly other with
  | absent outside owned silent => exact .absent outside owned silent
  | candidate seq present => exact .candidate seq { present with }

section Own

variable
    {server : Server} {session seq : Nat} {client : Client}

/-- Moving on inside `check_leadership` or in the watcher. -/
theorem Candidate.move
    (candidate : Candidate server session client seq)
    {position : Position}
    (isInside : LeaderAgreement.inside position = true)
    (notDeciding : ∀ children, position ≠ .deciding children) :
    Candidate server session { client with position := position } seq :=
  { candidate with
    inside := isInside
    listed := fun children deciding =>
      absurd deciding (notDeciding children) }

theorem Candidate.childrenFetched
    (candidate : Candidate server session client seq)
    {rc : Int} {order : List Nat}
    (listed :
      rc = zok → order.Perm (server.children.map Znode.seq)) :
    Candidate server session
      (childrenFetched rc (order.map nodeName) client) seq := by
  rw [LeaderElection.childrenFetched]
  split
  · exact candidate.move rfl (fun _ equal => by cases equal)
  · rename_i ok
    have permuted := listed (not_not.mp ok)
    refine { candidate with inside := rfl, listed := ?_ }
    rintro children deciding
    cases deciding
    refine ⟨order, rfl, ?_, ?_, Server.covers_of_perm seq permuted⟩
    · have own : seq ∈ server.owned session := by
        rw [candidate.owned]
        exact List.mem_singleton_self seq
      rw [permuted.mem_iff]
      exact List.mem_map_of_mem (Server.mem_owned.mp own)
    · intro other member
      rw [permuted.mem_iff] at member
      rcases List.mem_map.mp member with ⟨node, found, rfl⟩
      exact Server.seq_lt_counterLimit found

/-- A process that finds itself first owns the smallest node. -/
theorem Candidate.leadershipDecided
    (candidate : Candidate server session client seq)
    {children : List Bytes}
    (deciding : client.position = .deciding children) :
    Candidate server session (leadershipDecided children client) seq := by
  rcases candidate.listed children deciding with
    ⟨listing, rfl, listed, small, covers⟩
  rw [LeaderElection.leadershipDecided]
  split
  · rename_i leader
    rw [candidate.current] at leader
    have first :=
      (decideLeadership_eq_leader_iff listed small).mp leader
    exact
      { candidate with
        inside := rfl
        listed := fun _ equal => by cases equal
        leads := fun _ => Server.smallest_of_covers covers first }
  · exact
      { candidate with
        inside := rfl
        listed := fun _ equal => by cases equal }

theorem Candidate.watcherCallback
    (candidate : Candidate server session client seq)
    (event : WatchEvent) :
    Candidate server session (watcherCallback event client) seq := by
  rw [LeaderElection.watcherCallback]
  split
  · exact candidate.move rfl (fun _ equal => by cases equal)
  · exact candidate

/-- A new node is the last one and leads nothing. -/
theorem candidate_nodeCreated
    (standing : Standing server session client)
    (connected : client.position = .connected)
    (room : server.next < counterLimit)
    (events : List WatchEvent) :
    Candidate (server.create nodePath session room) session
      (nodeCreated (nodePath server.next) (receive events client))
      server.next := by
  rcases standing.silent_outside connected rfl (by decide) with
    ⟨owned, unannounced⟩
  constructor
  · rfl
  · rw [Server.owned_create, if_pos rfl, owned, List.nil_append]
  · rfl
  · intro children deciding
    cases deciding
  · intro announced
    have equal : client.announced = true := announced
    rw [unannounced] at equal
    cases equal

end Own

/-- Every step keeps the election orderly. -/
theorem orderly_step
    {state next : System} {label : Label}
    (orderly : Orderly state)
    (taken : step state label = some next) :
    Orderly next := by
  have moved := moves_of_step taken
  cases moved with
  | connect session fresh =>
      apply Sessions.each_put orderly
      rcases (orderly session).silent_outside fresh rfl (by decide) with
        ⟨owned, unannounced⟩
      refine .absent rfl owned ?_
      intro announced
      rw [unannounced] at announced
      cases announced
  | createFails session rc connected =>
      apply Sessions.each_put orderly
      rcases (orderly session).silent_outside connected rfl (by decide)
        with ⟨owned, _⟩
      exact .absent rfl owned fun _ => rfl
  | create session connected room =>
      apply orderly_broadcast orderly Server.evolves_create
      · intro other different
        rw [Server.owned_create, if_neg (Ne.symm different),
          List.append_nil]
      · exact
          .candidate _
            (candidate_nodeCreated (orderly session) connected room _)
  | getChildren session rc order listing listed =>
      apply Sessions.each_put orderly
      rcases (orderly session).exists_candidate listing rfl with
        ⟨seq, candidate⟩
      exact .candidate seq (candidate.childrenFetched listed)
  | decide session children deciding =>
      apply Sessions.each_put orderly
      rcases (orderly session).exists_candidate deciding rfl with
        ⟨seq, candidate⟩
      exact .candidate seq (candidate.leadershipDecided deciding)
  | check session checking =>
      apply orderly_watch
      apply Sessions.each_put orderly
      rcases (orderly session).exists_candidate checking rfl with
        ⟨seq, candidate⟩
      exact
        .candidate seq (candidate.move rfl fun _ equal => by cases equal)
  | checkFails session rc failed checking =>
      apply Sessions.each_put orderly
      rcases (orderly session).exists_candidate checking rfl with
        ⟨seq, candidate⟩
      exact
        .candidate seq (candidate.move rfl fun _ equal => by cases equal)
  | deliver session event rest queued idle =>
      apply Sessions.each_put orderly
      rcases (orderly session).exists_candidate idle rfl with
        ⟨seq, candidate⟩
      have popped :
          Candidate state.server session
            { state.clients session with inbox := rest } seq :=
        { candidate with }
      exact .candidate seq (popped.watcherCallback event)
  | session session => exact orderly
  | die session =>
      apply orderly_broadcast orderly Server.evolves_closeSession
      · intro other different
        exact Server.owned_closeSession_of_ne different
      · exact .absent rfl Server.owned_closeSession_self fun _ => rfl

theorem orderly_of_reachable
    {allowed : System → Label → Prop} {state : System}
    (reachable : Reachable allowed state) :
    Orderly state := by
  refine reachable.preserves orderly_initial ?_
  intro state label next orderly _ taken
  exact orderly_step orderly taken

/-! ## The result -/

/-- The process has announced that it leads, and its node still exists. -/
def Leads (state : System) (session : Nat) : Prop :=
  (state.clients session).announced = true ∧
    state.server.owned session ≠ []

instance (state : System) (session : Nat) :
    Decidable (Leads state session) :=
  inferInstanceAs (Decidable (_ ∧ _))

theorem ownsSmallest_of_leads
    {state : System} {session : Nat}
    (orderly : Orderly state) (leads : Leads state session) :
    state.server.OwnsSmallest session := by
  cases orderly session with
  | absent outside owned silent => exact absurd owned leads.2
  | candidate seq present =>
      refine ⟨seq, ?_, present.leads leads.1⟩
      rw [present.owned]
      exact List.mem_singleton_self seq

/--
In every reachable state, for any number of processes and whatever calls
fail, at most one process whose node still exists has announced that it
leads, and its node is the smallest one.
-/
theorem election_agrees
    (state : System) (reachable : Reachable Unrestricted state) :
    (∀ first second,
      Leads state first → Leads state second → first = second) ∧
      ∀ session,
        Leads state session → state.server.OwnsSmallest session := by
  have orderly := orderly_of_reachable reachable
  constructor
  · intro first second firstLeads secondLeads
    exact
      Server.session_eq_of_ownsSmallest
        (ownsSmallest_of_leads orderly firstLeads)
        (ownsSmallest_of_leads orderly secondLeads)
  · intro session leads
    exact ownsSmallest_of_leads orderly leads

/-- The second of two processes takes over when the first one dies. -/
theorem election_agrees_after_death :
    ∃ state,
      Reachable Unrestricted state ∧
        (state.clients 0).announced = true ∧
          Leads state 1 ∧ ¬ Leads state 0 := by
  have replayed :
      ∃ state,
        Reachable Unrestricted state ∧
          (state.clients 0).announced = true ∧ Leads state 1 :=
    Run.exists_of_replay _
      [.connect 0, .create 0 0, .getChildren 0 0 [0], .decide 0,
        .connect 1, .create 1 0, .getChildren 1 0 [1, 0], .decide 1,
        .check 1 0, .die 0, .deliver 1, .getChildren 1 0 [1], .decide 1]
      (by decide +kernel)
  rcases replayed with ⟨state, reached, announced, leads⟩
  refine ⟨state, reached, announced, leads, ?_⟩
  intro first
  exact
    absurd ((election_agrees state reached).1 0 1 first leads) (by decide)

end ZnsBench.Zookeeper.LeaderAgreement

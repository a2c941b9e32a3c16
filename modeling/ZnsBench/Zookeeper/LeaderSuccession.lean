import ZnsBench.Zookeeper.LeaderAgreement

/-!
# Succession in the election

`check_leadership` gives up when `zoo_get_children` fails, and it ignores the
result of the `zoo_exists` that sets its watch.  A process for which one of
the calls fails, or whose predecessor dies between the two, is never called
again.  In runs in which the listings succeed and every existence check finds
its node, every process that has finished `check_leadership` leads, watches a
predecessor that exists, or has the event of its deletion on the way; and the
process with the smallest node never waits for nothing.
-/

namespace ZnsBench.Zookeeper.LeaderSuccession

open ZnsBench.Core.ByteString
open ZnsBench.Core.GuardedRun
open ZnsBench.Zookeeper.ZnodeServer
open ZnsBench.Zookeeper.LeaderElection
open ZnsBench.Zookeeper.LeaderAgreement

/-! ## Waiting -/

/-- The process watches a predecessor that still exists. -/
def WatchesPredecessor
    (server : Server) (session : Nat) (client : Client) : Prop :=
  client.predecessorNode ∈ server.watches session ∧
    server.hasNode nodePath client.predecessorNode = true

/-- The deletion of the predecessor has yet to be told to the process. -/
def DeletionUndelivered (client : Client) : Prop :=
  (⟨.deleted, client.predecessorNode⟩ : WatchEvent) ∈ client.inbox

/-- What a live process that has finished `check_leadership` relies on. -/
def Settled
    (server : Server) (session : Nat) (client : Client) : Prop :=
  client.announced = true ∨
    WatchesPredecessor server session client ∨
      DeletionUndelivered client

instance (server : Server) (session : Nat) (client : Client) :
    Decidable (WatchesPredecessor server session client) :=
  inferInstanceAs (Decidable (_ ∧ _))

instance (client : Client) : Decidable (DeletionUndelivered client) :=
  inferInstanceAs (Decidable (_ ∈ _))

instance (server : Server) (session : Nat) (client : Client) :
    Decidable (Settled server session client) :=
  inferInstanceAs (Decidable (_ ∨ _ ∨ _))

/-- Every live process that has finished `check_leadership` is settled. -/
def NoLostSuccession (state : System) : Prop :=
  ∀ session,
    (state.clients session).position = .idle →
      Settled state.server session (state.clients session)

/-- Somebody is going to evaluate the leadership for the smallest node. -/
def SmallestReevaluates (state : System) : Prop :=
  ∀ session,
    state.server.OwnsSmallest session →
      (state.clients session).announced = true ∨
        (state.clients session).position ≠ .idle ∨
          DeletionUndelivered (state.clients session)

/-- Listings succeed, and existence checks find their nodes. -/
def callsSucceed (state : System) : Label → Bool
  | .getChildren _ rc _ => rc = zok
  | .check session rc =>
      rc = zok &&
        state.server.hasNode nodePath
          (state.clients session).predecessorNode
  | _ => true

/-- No call of a step fails. -/
def CallsSucceed (state : System) (label : Label) : Prop :=
  callsSucceed state label = true

instance (state : System) (label : Label) :
    Decidable (CallsSucceed state label) :=
  inferInstanceAs (Decidable (_ = true))

/-! ## The invariant -/

/-- The process's part of the invariant. -/
structure Attentive
    (server : Server) (session : Nat) (client : Client) : Prop where
  settled :
    client.position = .idle → Settled server session client
  smaller :
    client.position = .checking ∨
        client.position = .idle ∧ client.announced = false →
      ∃ own ∈ server.owned session,
        ∃ seq < own, client.predecessorNode = nodePath seq

/-- Every process watches what it has to. -/
def Vigilant (state : System) : Prop := state.Each Attentive

/-- Whether the process waits, or is about to. -/
def waits : Position → Bool
  | .checking | .idle => true
  | _ => false

/-- Nothing is asked of the other positions. -/
theorem attentive_elsewhere
    {server : Server} {session : Nat} {client : Client}
    (elsewhere : waits client.position = false) :
    Attentive server session client where
  settled := by
    intro idle
    rw [idle] at elsewhere
    cases elsewhere
  smaller := by
    rintro (checking | ⟨idle, _⟩)
    · rw [checking] at elsewhere
      cases elsewhere
    · rw [idle] at elsewhere
      cases elsewhere

/-! ## The server's part -/

/-- A watch that goes leaves the event of the deletion behind. -/
theorem Attentive.relay
    {server next : Server} {session : Nat} {client : Client}
    {events : List WatchEvent}
    (attentive : Attentive server session client)
    (relays : Relays nodePath server next session events)
    (owned : next.owned session = server.owned session) :
    Attentive next session (receive events client) where
  settled := by
    intro idle
    rcases attentive.settled idle with announced | watches | undelivered
    · exact Or.inl announced
    · rcases relays _ watches.1 watches.2 with stays | told
      · exact Or.inr (Or.inl stays)
      · exact Or.inr (Or.inr (List.mem_append_right _ told))
    · exact Or.inr (Or.inr (List.mem_append_left _ undelivered))
  smaller := by
    rw [owned]
    exact attentive.smaller

/-! ## The steps -/

theorem vigilant_broadcast
    {state : System} {next : Server} {events : Nat → List WatchEvent}
    {session : Nat} {client : Client}
    (vigilant : Vigilant state)
    (relays :
      ∀ other, other ≠ session →
        Relays nodePath state.server next other (events other))
    (owned :
      ∀ other, other ≠ session →
        next.owned other = state.server.owned other)
    (own : Attentive next session client) :
    Vigilant ((state.broadcast next events).put session client) := by
  intro other
  by_cases equal : other = session
  · subst other
    rw [Sessions.clients_put_self]
    exact own
  · rw [Sessions.clients_put_of_ne equal]
    exact
      (vigilant other).relay (relays other equal) (owned other equal)

/-- A process whose check finds its node waits for it. -/
theorem vigilant_check
    {state : System} {session : Nat}
    (vigilant : Vigilant state)
    (checking : (state.clients session).position = .checking)
    (found :
      state.server.hasNode nodePath
          (state.clients session).predecessorNode = true) :
    Vigilant
      ((state.put session
          { state.clients session with position := .idle }).setWatch
        session (state.clients session).predecessorNode) := by
  intro other
  simp only [Sessions.setWatch]
  by_cases equal : other = session
  · subst other
    rw [Sessions.clients_put_self]
    constructor
    · intro _
      exact Or.inr (Or.inl ⟨Server.mem_watch_self _ _ _, found⟩)
    · intro _
      exact (vigilant session).smaller (Or.inl checking)
  · rw [Sessions.clients_put_of_ne equal]
    have attentive :=
      (vigilant other).relay
        (relays_watch nodePath state.server other session
          (state.clients session).predecessorNode)
        rfl
    simpa [receive] using attentive

/-- The decision makes a leader, or names a smaller node. -/
theorem attentive_leadershipDecided
    {server : Server} {session seq : Nat} {client : Client}
    {children : List Bytes}
    (candidate : Candidate server session client seq)
    (deciding : client.position = .deciding children) :
    Attentive server session (leadershipDecided children client) := by
  rcases candidate.listed children deciding with
    ⟨listing, rfl, listed, small, _⟩
  rw [leadershipDecided]
  split
  · constructor
    · intro _
      exact Or.inl rfl
    · rintro (checking | ⟨_, unannounced⟩)
      · cases checking
      · cases unannounced
  · rename_i predecessorNode follower
    rw [candidate.current] at follower
    rcases predecessor_of_follower listed small follower with
      ⟨found, _, named, less, _⟩
    constructor
    · intro idle
      cases idle
    · intro _
      refine ⟨seq, ?_, found, less, named⟩
      rw [candidate.owned]
      exact List.mem_singleton_self seq

/-- The deletion of the predecessor is not overlooked. -/
theorem attentive_watcherCallback
    {server : Server} {session : Nat} {client : Client}
    {event : WatchEvent} {rest : List WatchEvent}
    (attentive : Attentive server session client)
    (queued : client.inbox = event :: rest)
    (idle : client.position = .idle) :
    Attentive server session
      (watcherCallback event { client with inbox := rest }) := by
  rw [watcherCallback]
  split
  · exact attentive_elsewhere rfl
  · rename_i ignored
    constructor
    · intro _
      rcases attentive.settled idle with
        announced | watches | undelivered
      · exact Or.inl announced
      · exact Or.inr (Or.inl watches)
      · rw [DeletionUndelivered, queued] at undelivered
        rcases List.mem_cons.mp undelivered with first | later
        · exfalso
          apply ignored
          rw [← first]
          exact ⟨rfl, rfl⟩
        · exact Or.inr (Or.inr later)
    · exact attentive.smaller

/-- Every step whose calls succeed leaves the processes attentive. -/
theorem vigilant_step
    {state next : System} {label : Label}
    (orderly : Orderly state)
    (vigilant : Vigilant state)
    (admitted : CallsSucceed state label)
    (taken : step state label = some next) :
    Vigilant next := by
  have moved := moves_of_step taken
  cases moved with
  | connect session fresh =>
      apply Sessions.each_put vigilant
      exact attentive_elsewhere rfl
  | createFails session rc connected =>
      apply Sessions.each_put vigilant
      exact attentive_elsewhere rfl
  | create session connected room =>
      apply vigilant_broadcast vigilant
      · intro other _
        exact
          relays_create nodePath nodePath_inj state.server session other
            room
      · intro other different
        rw [Server.owned_create, if_neg (Ne.symm different),
          List.append_nil]
      · exact attentive_elsewhere rfl
  | getChildren session rc order listing listed =>
      have ok : rc = zok := by
        simpa [CallsSucceed, callsSucceed] using admitted
      subst rc
      apply Sessions.each_put vigilant
      exact attentive_elsewhere rfl
  | decide session children deciding =>
      apply Sessions.each_put vigilant
      rcases (orderly session).exists_candidate deciding rfl with
        ⟨seq, candidate⟩
      exact attentive_leadershipDecided candidate deciding
  | check session checking =>
      apply vigilant_check vigilant checking
      simpa [CallsSucceed, callsSucceed] using admitted
  | checkFails session rc failed checking =>
      have ok : rc = zok := by
        simp only [CallsSucceed, callsSucceed, Bool.and_eq_true,
          decide_eq_true_eq] at admitted
        exact admitted.1
      exact absurd ok failed
  | deliver session event rest queued idle =>
      apply Sessions.each_put vigilant
      exact attentive_watcherCallback (vigilant session) queued idle
  | session session => exact vigilant
  | die session =>
      apply vigilant_broadcast vigilant
      · intro other different
        exact relays_closeSession nodePath different state.server
      · intro other different
        exact Server.owned_closeSession_of_ne different
      · exact attentive_elsewhere rfl

theorem vigilant_of_reachable
    {state : System} (reachable : Reachable CallsSucceed state) :
    Vigilant state := by
  refine reachable.preserves_along ?_ ?_
  · intro session
    exact attentive_elsewhere rfl
  · intro state label next before vigilant admitted taken
    exact
      vigilant_step (orderly_of_reachable before) vigilant admitted taken

/-- The node that a candidate watches is smaller than its own. -/
theorem not_smallest_of_watching
    {server : Server} {session own seq : Nat} {client : Client}
    (ownMember : own ∈ server.owned session)
    (less : seq < own)
    (named : client.predecessorNode = nodePath seq)
    (watches : WatchesPredecessor server session client) :
    ¬ server.Smallest own := by
  intro smallest
  have ownSmall :=
    Server.seq_lt_counterLimit (Server.mem_owned.mp ownMember)
  have existing := watches.2
  rw [named] at existing
  rcases Server.hasNode_iff.mp existing with ⟨node, member, equal⟩
  have sameSeq : node.seq = seq :=
    (nodePath_inj (Server.seq_lt_counterLimit member)
      (lt_trans less ownSmall)).mp equal
  have least := smallest node member
  omega

/-- The process with the smallest node does not wait for another one. -/
theorem smallestReevaluates_of_vigilant
    {state : System}
    (orderly : Orderly state) (vigilant : Vigilant state) :
    SmallestReevaluates state := by
  rintro session ⟨smallest, member, least⟩
  by_cases idle : (state.clients session).position = .idle
  · rcases (vigilant session).settled idle with
      announced | watches | undelivered
    · exact Or.inl announced
    · by_cases announced : (state.clients session).announced = true
      · exact Or.inl announced
      · exfalso
        rw [Bool.not_eq_true] at announced
        rcases (vigilant session).smaller (Or.inr ⟨idle, announced⟩) with
          ⟨own, ownMember, seq, less, named⟩
        rcases (orderly session).exists_candidate idle rfl with
          ⟨number, candidate⟩
        have same : own = smallest := by
          rw [candidate.owned, List.mem_singleton] at ownMember member
          rw [ownMember, member]
        rw [← same] at least
        exact
          not_smallest_of_watching ownMember less named watches least
    · exact Or.inr (Or.inr undelivered)
  · exact Or.inr (Or.inl idle)

/-! ## The result -/

/--
In every run, for any number of processes, in which the listings succeed and
every existence check finds its node: a live process that has finished
`check_leadership` has announced, watches a predecessor that exists, or has
the event of its deletion on the way; and the process with the smallest node
leads, is inside `check_leadership`, or is about to enter it again.
-/
theorem no_succession_lost_while_calls_succeed
    (state : System) (reachable : Reachable CallsSucceed state) :
    NoLostSuccession state ∧ SmallestReevaluates state := by
  have orderly := orderly_of_reachable reachable
  have vigilant := vigilant_of_reachable reachable
  constructor
  · intro session idle
    exact (vigilant session).settled idle
  · exact smallestReevaluates_of_vigilant orderly vigilant

/-- The leader dies, and its successor is told. -/
theorem no_succession_lost_after_death :
    ∃ state,
      Reachable CallsSucceed state ∧
        (state.clients 0).position = .dead ∧
          (state.clients 1).position = .idle ∧
            (state.clients 1).announced = false ∧
              DeletionUndelivered (state.clients 1) := by
  have replayed :
      ∃ state,
        Reachable CallsSucceed state ∧
          (state.clients 0).position = .dead ∧
            (state.clients 1).position = .idle ∧
              (state.clients 1).announced = false ∧
                state.server.OwnsSmallest 1 :=
    Run.exists_of_replay _
      [.connect 0, .create 0 0, .getChildren 0 0 [0], .decide 0,
        .connect 1, .create 1 0, .getChildren 1 0 [1, 0], .decide 1,
        .check 1 0, .die 0]
      (by decide +kernel)
  rcases replayed with ⟨state, reached, dead, idle, unannounced, owns⟩
  refine ⟨state, reached, dead, idle, unannounced, ?_⟩
  rcases (no_succession_lost_while_calls_succeed state reached).2 1 owns
    with announced | notIdle | undelivered
  · rw [unannounced] at announced
    cases announced
  · exact absurd idle notIdle
  · exact undelivered

/--
The leader dies between the listing and the existence check of its
successor, or the listing of the successor fails: the successor has finished
`check_leadership` and waits for nothing.
-/
theorem succession_lost_between_calls :
    (∃ state,
      Reachable Unrestricted state ∧
        (state.clients 1).position = .idle ∧
          (state.clients 1).inbox = [] ∧
            state.server.OwnsSmallest 1 ∧
              ¬ Settled state.server 1 (state.clients 1)) ∧
      ∃ state,
        Reachable Unrestricted state ∧
          (state.clients 0).position = .idle ∧
            (state.clients 0).inbox = [] ∧
              state.server.OwnsSmallest 0 ∧
                ¬ Settled state.server 0 (state.clients 0) := by
  constructor
  · exact
      Run.exists_of_replay _
        [.connect 0, .create 0 0, .getChildren 0 0 [0], .decide 0,
          .connect 1, .create 1 0, .getChildren 1 0 [0, 1], .decide 1,
          .die 0, .check 1 0]
        (by decide +kernel)
  · exact
      Run.exists_of_replay _
        [.connect 0, .create 0 0, .getChildren 0 (-4) []]
        (by decide +kernel)

end ZnsBench.Zookeeper.LeaderSuccession

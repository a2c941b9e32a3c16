import ZnsBench.Zookeeper.ZnodeServer

/-!
# Sessions of a server

The processes of a program and the server they share.  A step of one process
changes that process, the server, and the inboxes of the others; an invariant
of the whole is a property of each session together with the server.
-/

namespace ZnsBench.Zookeeper

open ZnsBench.Core.ByteString
open ZnsBench.Zookeeper.ZnodeServer

/-- A server and the processes that may connect to it. -/
structure Sessions (Client : Type) where
  server : Server
  clients : Nat → Client

namespace Sessions

variable {Client : Type}

/-- One process moves on. -/
def put (state : Sessions Client) (session : Nat) (client : Client) :
    Sessions Client :=
  { state with clients := Function.update state.clients session client }

@[simp]
theorem put_self (state : Sessions Client) (session : Nat) :
    state.put session (state.clients session) = state := by
  rw [put, Function.update_eq_self]

@[simp]
theorem server_put
    (state : Sessions Client) (session : Nat) (client : Client) :
    (state.put session client).server = state.server :=
  rfl

@[simp]
theorem clients_put_self
    (state : Sessions Client) (session : Nat) (client : Client) :
    (state.put session client).clients session = client :=
  Function.update_self _ _ _

@[simp]
theorem clients_put_of_ne
    {session other : Nat} (different : other ≠ session)
    (state : Sessions Client) (client : Client) :
    (state.put session client).clients other = state.clients other :=
  Function.update_of_ne different _ _

/-- The server sets a watch for a session. -/
def setWatch
    (state : Sessions Client) (session : Nat) (path : Bytes) :
    Sessions Client :=
  { state with server := state.server.watch session path }

/-- Every session has a property. -/
def Each
    (Property : Server → Nat → Client → Prop)
    (state : Sessions Client) : Prop :=
  ∀ session, Property state.server session (state.clients session)

/-- The process that moves and the others may be looked at apart. -/
theorem each_put_of_others
    {Property : Server → Nat → Client → Prop}
    {state : Sessions Client} {session : Nat} {client : Client}
    (others :
      ∀ other, other ≠ session →
        Property state.server other (state.clients other))
    (own : Property state.server session client) :
    Each Property (state.put session client) := by
  intro other
  by_cases equal : other = session
  · subst other
    rw [clients_put_self]
    exact own
  · rw [clients_put_of_ne equal]
    exact others other equal

/-- Only the process that moves has to be looked at. -/
theorem each_put
    {Property : Server → Nat → Client → Prop}
    {state : Sessions Client} {session : Nat} {client : Client}
    (each : Each Property state)
    (own : Property state.server session client) :
    Each Property (state.put session client) :=
  each_put_of_others (fun other _ => each other) own

end Sessions

/-! ## What a step of the server means to a watcher -/

section Relays

variable (nodePath : Nat → Bytes)

/-- A watch on an existing node stays so, or its deletion is told. -/
def Relays
    (server next : Server) (session : Nat)
    (events : List WatchEvent) : Prop :=
  ∀ path ∈ server.watches session,
    server.hasNode nodePath path = true →
      (path ∈ next.watches session ∧
          next.hasNode nodePath path = true) ∨
        (⟨.deleted, path⟩ : WatchEvent) ∈ events

theorem relays_refl (server : Server) (session : Nat) :
    Relays nodePath server server session [] :=
  fun _ watched existing => Or.inl ⟨watched, existing⟩

theorem relays_watch
    (server : Server) (session other : Nat) (path : Bytes) :
    Relays nodePath server (server.watch other path) session [] :=
  fun _ watched existing =>
    Or.inl ⟨Server.mem_watch_of_mem watched, existing⟩

/-- The name of a new node is the name of no existing one. -/
theorem relays_create
    (distinct :
      ∀ {first second : Nat},
        first < counterLimit → second < counterLimit →
          (nodePath first = nodePath second ↔ first = second))
    (server : Server) (owner session : Nat)
    (room : server.next < counterLimit) :
    Relays nodePath server (server.create nodePath owner room) session
      (server.createEvents nodePath session) := by
  intro path watched existing
  rcases Server.hasNode_iff.mp existing with ⟨node, member, named⟩
  left
  constructor
  · apply Server.mem_watches_fire.mpr
    refine ⟨watched, ?_⟩
    rw [List.mem_singleton, ← named,
      distinct (Server.seq_lt_counterLimit member) room]
    exact ne_of_lt (server.below node member)
  · apply Server.hasNode_iff.mpr
    exact ⟨node, Server.mem_children_create.mpr (Or.inl member), named⟩

theorem relays_remove
    (server : Server) (leaves : Znode → Bool) (session : Nat) :
    Relays nodePath server (server.remove nodePath leaves) session
      (server.removeEvents nodePath leaves session) := by
  intro path watched existing
  by_cases gone :
      path ∈ (server.children.filter leaves).map fun node =>
        nodePath node.seq
  · exact Or.inr (Server.mem_fired.mpr ⟨rfl, watched, gone⟩)
  · left
    constructor
    · exact Server.mem_watches_fire.mpr ⟨watched, gone⟩
    · rcases Server.hasNode_iff.mp existing with ⟨node, member, named⟩
      apply Server.hasNode_iff.mpr
      refine ⟨node, Server.mem_children_remove.mpr ⟨member, ?_⟩, named⟩
      rw [← Bool.not_eq_true]
      intro leaving
      apply gone
      rw [← named]
      exact
        List.mem_map_of_mem (List.mem_filter.mpr ⟨member, leaving⟩)

/-- The end of a session does not touch the watches of the others. -/
theorem relays_closeSession
    {session other : Nat} (different : other ≠ session)
    (server : Server) :
    Relays nodePath server (server.closeSession nodePath session) other
      (server.removeEvents nodePath (Server.ownedBy session) other) := by
  intro path watched existing
  rw [Server.watches_closeSession_of_ne different]
  exact
    relays_remove nodePath server (Server.ownedBy session) other path
      watched existing

end Relays

end ZnsBench.Zookeeper

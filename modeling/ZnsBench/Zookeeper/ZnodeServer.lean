import ZnsBench.Core.PaddedDecimal
import Mathlib.Logic.Function.Basic
import Mathlib.Data.List.Nodup
import Mathlib.Data.List.Perm.Basic

/-!
# The ZooKeeper server

The part of a ZooKeeper server that the lock and the election rely on: one
directory whose children are ephemeral sequential nodes, and one-shot watches
on paths.  `zookeeper.h` is not part of the repository; what is modelled is
its documented behaviour.

* A sequential create takes the next number of the directory's counter.  The
  counter does not wrap: creation is enabled while it is below `2 ^ 31`.
* A watch set by an existence check fires once, when a node of that path is
  created or deleted, whether or not the node existed at the check.
* Closing a session removes its ephemeral nodes and its watches.

How a number becomes a path is a parameter of the operations: the two
programs use different directories and name stems.
-/

namespace ZnsBench.Zookeeper.ZnodeServer

open ZnsBench.Core.ByteString

/-! ## State -/

/-- The return codes the programs meet. -/
def zok : Int := 0

/-- `ZNONODE` of the ZooKeeper client. -/
def znonode : Int := -101

/-- Sequence numbers are non-negative `int` values. -/
def counterLimit : Nat := 2 ^ 31

/-- The names keep ten digits for a number. -/
theorem fits_of_lt_counterLimit
    {seq : Nat} (small : seq < counterLimit) : seq < 10 ^ 10 :=
  lt_trans small (by decide)

/-- A child: its sequence number and the session that owns it. -/
structure Znode where
  seq : Nat
  owner : Nat
deriving DecidableEq, Repr

/-- The directory and the watches of each session. -/
structure Server where
  children : List Znode
  next : Nat
  watches : Nat → List Bytes
  /-- Children are kept in the order of their creation. -/
  ordered : children.Pairwise fun first second => first.seq < second.seq
  below : ∀ node ∈ children, node.seq < next
  bounded : next ≤ counterLimit

/-- The kinds of events a watcher is told about. -/
inductive EventType where
  | created
  | deleted
  | session
deriving DecidableEq, Repr

/-- What a watcher is called with. -/
structure WatchEvent where
  type : EventType
  path : Bytes
deriving DecidableEq, Repr

namespace Server

/-- The server before any client connects. -/
def empty : Server where
  children := []
  next := 0
  watches := fun _ => []
  ordered := List.Pairwise.nil
  below := by simp
  bounded := Nat.zero_le _

theorem seq_lt_counterLimit
    {server : Server} {node : Znode} (member : node ∈ server.children) :
    node.seq < counterLimit :=
  lt_of_lt_of_le (server.below node member) server.bounded

/-- A sequence number is in use at most once. -/
theorem eq_of_seq_eq
    {server : Server} {first second : Znode}
    (firstMember : first ∈ server.children)
    (secondMember : second ∈ server.children)
    (equal : first.seq = second.seq) :
    first = second := by
  have distinct : (server.children.map Znode.seq).Nodup := by
    rw [List.Nodup, List.pairwise_map]
    exact server.ordered.imp fun less => ne_of_lt less
  exact List.inj_on_of_nodup_map distinct firstMember secondMember equal

/-- The sequence numbers of the nodes that a session owns. -/
def owned (server : Server) (session : Nat) : List Nat :=
  (server.children.filter fun node => node.owner == session).map Znode.seq

@[simp]
theorem mem_owned
    {server : Server} {session seq : Nat} :
    seq ∈ server.owned session ↔ ⟨seq, session⟩ ∈ server.children := by
  constructor
  · intro member
    rcases List.mem_map.mp member with ⟨⟨number, owner⟩, found, rfl⟩
    rw [List.mem_filter] at found
    have equal : owner = session := by simpa using found.2
    rw [← equal]
    exact found.1
  · intro member
    apply List.mem_map.mpr
    exact ⟨⟨seq, session⟩, by simp [member], rfl⟩

/-! ## Watches -/

/-- Remove the watches on some paths. -/
def fire (server : Server) (paths : List Bytes) : Server :=
  { server with
    watches := fun session =>
      (server.watches session).filter fun path => path ∉ paths }

/-- The events that the removed watches send to a session. -/
def fired
    (server : Server) (type : EventType) (paths : List Bytes)
    (session : Nat) : List WatchEvent :=
  ((server.watches session).filter fun path => path ∈ paths).map fun path =>
    ⟨type, path⟩

/-- A session sets a watch; setting it twice is setting it once. -/
def watch (server : Server) (session : Nat) (path : Bytes) : Server :=
  { server with
    watches :=
      Function.update server.watches session
        (if path ∈ server.watches session then
          server.watches session
        else
          server.watches session ++ [path]) }

theorem fired_eq_nil
    {server : Server} {session : Nat}
    (unwatched : server.watches session = [])
    (type : EventType) (paths : List Bytes) :
    server.fired type paths session = [] := by
  rw [fired, unwatched]
  rfl

@[simp]
theorem mem_watches_fire
    {server : Server} {paths : List Bytes} {session : Nat} {path : Bytes} :
    path ∈ (server.fire paths).watches session ↔
      path ∈ server.watches session ∧ path ∉ paths := by
  simp [fire]

@[simp]
theorem mem_fired
    {server : Server} {type : EventType} {paths : List Bytes}
    {session : Nat} {event : WatchEvent} :
    event ∈ server.fired type paths session ↔
      event.type = type ∧ event.path ∈ server.watches session ∧
        event.path ∈ paths := by
  constructor
  · intro member
    rcases List.mem_map.mp member with ⟨path, found, rfl⟩
    rw [List.mem_filter] at found
    exact ⟨rfl, found.1, by simpa using found.2⟩
  · rintro ⟨rfl, watched, listed⟩
    apply List.mem_map.mpr
    exact ⟨event.path, by simp [watched, listed], rfl⟩

theorem watches_watch_self
    (server : Server) (session : Nat) (path : Bytes) :
    (server.watch session path).watches session =
      if path ∈ server.watches session then
        server.watches session
      else
        server.watches session ++ [path] := by
  show Function.update _ _ _ _ = _
  rw [Function.update_self]

theorem watches_watch_of_ne
    {session other : Nat} (different : other ≠ session)
    (server : Server) (path : Bytes) :
    (server.watch session path).watches other =
      server.watches other := by
  show Function.update _ _ _ _ = _
  rw [Function.update_of_ne different]

theorem mem_watch_self (server : Server) (session : Nat) (path : Bytes) :
    path ∈ (server.watch session path).watches session := by
  rw [watches_watch_self]
  split
  · assumption
  · simp

theorem mem_watch_of_mem
    {server : Server} {session other : Nat} {path added : Bytes}
    (watched : path ∈ server.watches session) :
    path ∈ (server.watch other added).watches session := by
  by_cases equal : session = other
  · subst other
    rw [watches_watch_self]
    split
    · exact watched
    · exact List.mem_append_left _ watched
  · rw [watches_watch_of_ne equal]
    exact watched

/-! ## Creation and deletion -/

section Paths

variable (nodePath : Nat → Bytes)

/-- `ZOO_EPHEMERAL | ZOO_SEQUENCE` creation by a session. -/
def create
    (server : Server) (owner : Nat)
    (room : server.next < counterLimit) : Server where
  children := server.children ++ [⟨server.next, owner⟩]
  next := server.next + 1
  watches := (server.fire [nodePath server.next]).watches
  ordered := by
    rw [List.pairwise_append]
    refine ⟨server.ordered, List.pairwise_singleton _ _, ?_⟩
    intro node member added addedMember
    rw [List.mem_singleton] at addedMember
    subst added
    exact server.below node member
  below := by
    intro node member
    rcases List.mem_append.mp member with old | new
    · exact Nat.lt_succ_of_lt (server.below node old)
    · rw [List.mem_singleton] at new
      subst node
      exact Nat.lt_succ_self _
  bounded := room

/-- The events of a creation. -/
def createEvents (server : Server) : Nat → List WatchEvent :=
  server.fired .created [nodePath server.next]

/-- Remove the nodes that a predicate selects. -/
def remove (server : Server) (leaves : Znode → Bool) : Server where
  children := server.children.filter fun node => !leaves node
  next := server.next
  watches :=
    (server.fire
      ((server.children.filter leaves).map fun node =>
        nodePath node.seq)).watches
  ordered := server.ordered.filter _
  below := fun node member =>
    server.below node (List.mem_of_mem_filter member)
  bounded := server.bounded

/-- The events of a removal. -/
def removeEvents (server : Server) (leaves : Znode → Bool) :
    Nat → List WatchEvent :=
  server.fired .deleted
    ((server.children.filter leaves).map fun node => nodePath node.seq)

/-- Whether a path names an existing node. -/
def hasNode (server : Server) (path : Bytes) : Bool :=
  server.children.any fun node => nodePath node.seq == path

/-- The nodes that deleting a path removes. -/
def atPath (path : Bytes) (node : Znode) : Bool :=
  nodePath node.seq == path

/-- The nodes that the end of a session removes. -/
def ownedBy (session : Nat) (node : Znode) : Bool :=
  node.owner == session

/-- The end of a session: its nodes and its watches go. -/
def closeSession (server : Server) (session : Nat) : Server :=
  let removed := server.remove nodePath (ownedBy session)
  { removed with
    watches := Function.update removed.watches session [] }

end Paths

/-! ## What a node keeps while others come and go -/

/-- No existing node has a smaller number. -/
def Smallest (server : Server) (seq : Nat) : Prop :=
  ∀ node ∈ server.children, seq ≤ node.seq

/-- A session owns the smallest node. -/
def OwnsSmallest (server : Server) (session : Nat) : Prop :=
  ∃ seq ∈ server.owned session, server.Smallest seq

instance (server : Server) (seq : Nat) :
    Decidable (server.Smallest seq) :=
  inferInstanceAs (Decidable (∀ node ∈ server.children, _))

instance (server : Server) (session : Nat) :
    Decidable (server.OwnsSmallest session) :=
  inferInstanceAs (Decidable (∃ seq ∈ server.owned session, _))

/-- The smallest node has one owner. -/
theorem session_eq_of_ownsSmallest
    {server : Server} {first second : Nat}
    (firstOwns : server.OwnsSmallest first)
    (secondOwns : server.OwnsSmallest second) :
    first = second := by
  rcases firstOwns with ⟨firstSeq, firstOwned, firstSmallest⟩
  rcases secondOwns with ⟨secondSeq, secondOwned, secondSmallest⟩
  rw [mem_owned] at firstOwned secondOwned
  have equal : firstSeq = secondSeq :=
    le_antisymm (firstSmallest _ secondOwned)
      (secondSmallest _ firstOwned)
  have same := eq_of_seq_eq firstOwned secondOwned equal
  exact congrArg Znode.owner same

/-- A listing holds every node that is still there and precedes a number. -/
def Covers (server : Server) (listing : List Nat) (seq : Nat) : Prop :=
  ∀ node ∈ server.children, node.seq < seq → node.seq ∈ listing

variable {nodePath : Nat → Bytes} {server : Server}

theorem mem_children_create
    {owner : Nat} {room : server.next < counterLimit} {node : Znode} :
    node ∈ (server.create nodePath owner room).children ↔
      node ∈ server.children ∨ node = ⟨server.next, owner⟩ := by
  simp [create]

@[simp]
theorem mem_children_remove
    {leaves : Znode → Bool} {node : Znode} :
    node ∈ (server.remove nodePath leaves).children ↔
      node ∈ server.children ∧ leaves node = false := by
  simp [remove]

@[simp]
theorem mem_children_closeSession
    {session : Nat} {node : Znode} :
    node ∈ (server.closeSession nodePath session).children ↔
      node ∈ server.children ∧ ownedBy session node = false := by
  change node ∈ (server.remove nodePath (ownedBy session)).children ↔ _
  exact mem_children_remove

@[simp]
theorem watches_closeSession_self {session : Nat} :
    (server.closeSession nodePath session).watches session = [] := by
  show Function.update _ _ _ _ = _
  rw [Function.update_self]

theorem watches_closeSession_of_ne
    {session other : Nat} (different : other ≠ session) :
    (server.closeSession nodePath session).watches other =
      (server.remove nodePath (ownedBy session)).watches other := by
  show Function.update _ _ _ _ = _
  rw [Function.update_of_ne different]

@[simp]
theorem hasNode_iff {path : Bytes} :
    server.hasNode nodePath path = true ↔
      ∃ node ∈ server.children, nodePath node.seq = path := by
  simp [hasNode]

/-- The nodes of a later server have stayed or carry new numbers. -/
def Evolves (server next : Server) : Prop :=
  ∀ node ∈ next.children,
    node ∈ server.children ∨ server.next ≤ node.seq

theorem evolves_create
    {owner : Nat} {room : server.next < counterLimit} :
    Evolves server (server.create nodePath owner room) := by
  intro node member
  rcases mem_children_create.mp member with old | rfl
  · exact Or.inl old
  · exact Or.inr (le_refl _)

theorem evolves_remove {leaves : Znode → Bool} :
    Evolves server (server.remove nodePath leaves) :=
  fun _ member => Or.inl (mem_children_remove.mp member).1

theorem evolves_closeSession {session : Nat} :
    Evolves server (server.closeSession nodePath session) :=
  fun _ member => Or.inl (mem_children_closeSession.mp member).1

/-- The smallest node stays the smallest. -/
theorem smallest_evolves
    {next : Server} {seq : Nat}
    (smallest : server.Smallest seq)
    (evolves : Evolves server next)
    (existing : seq ≤ server.next) :
    next.Smallest seq := by
  intro node member
  rcases evolves node member with old | new
  · exact smallest node old
  · exact le_trans existing new

/-- A listing goes on covering what precedes an old number. -/
theorem covers_evolves
    {next : Server} {listing : List Nat} {seq : Nat}
    (covers : server.Covers listing seq)
    (evolves : Evolves server next)
    (existing : seq ≤ server.next) :
    next.Covers listing seq := by
  intro node member less
  rcases evolves node member with old | new
  · exact covers node old less
  · exact absurd less (not_lt_of_ge (le_trans existing new))

/-- The first element of a listing that covers it is the smallest node. -/
theorem smallest_of_covers
    {listing : List Nat} {seq : Nat}
    (covers : server.Covers listing seq)
    (first : ∀ other ∈ listing, seq ≤ other) :
    server.Smallest seq := by
  intro node member
  by_contra smaller
  have less : node.seq < seq := not_le.mp smaller
  exact smaller (first _ (covers node member less))

/-- A full listing covers everything. -/
theorem covers_of_perm
    {listing : List Nat} (seq : Nat)
    (listed : listing.Perm (server.children.map Znode.seq)) :
    server.Covers listing seq := by
  intro node member _
  rw [listed.mem_iff]
  exact List.mem_map_of_mem member

theorem owned_create
    {owner session : Nat} {room : server.next < counterLimit} :
    (server.create nodePath owner room).owned session =
      server.owned session ++
        if owner = session then [server.next] else [] := by
  by_cases equal : owner = session
  · simp [owned, create, equal]
  · simp [owned, create, equal]

theorem owned_remove_of_notMem
    {leaves : Znode → Bool} {session : Nat}
    (stays : ∀ node ∈ server.children,
      node.owner = session → leaves node = false) :
    (server.remove nodePath leaves).owned session =
      server.owned session := by
  rw [owned, owned, remove, List.filter_filter]
  congr 1
  apply List.filter_congr
  intro node member
  by_cases equal : node.owner = session
  · simp [equal, stays node member equal]
  · simp [equal]

theorem owned_remove_subset
    {leaves : Znode → Bool} {session : Nat} :
    (server.remove nodePath leaves).owned session ⊆
      server.owned session := by
  intro seq member
  rw [mem_owned] at member ⊢
  exact (mem_children_remove.mp member).1

theorem owned_eq_nil_remove
    {leaves : Znode → Bool} {session : Nat}
    (goes : ∀ node ∈ server.children,
      node.owner = session → leaves node = true) :
    (server.remove nodePath leaves).owned session = [] := by
  rw [List.eq_nil_iff_forall_not_mem]
  intro seq member
  rw [mem_owned, mem_children_remove] at member
  rw [goes _ member.1 rfl] at member
  exact absurd member.2 (by simp)

@[simp]
theorem owned_closeSession_self {session : Nat} :
    (server.closeSession nodePath session).owned session = [] := by
  change (server.remove nodePath (ownedBy session)).owned session = []
  apply owned_eq_nil_remove
  intro node _ owner
  simp [ownedBy, owner]

theorem owned_closeSession_of_ne
    {session other : Nat} (different : other ≠ session) :
    (server.closeSession nodePath session).owned other =
      server.owned other := by
  change
    (server.remove nodePath (ownedBy session)).owned other =
      server.owned other
  apply owned_remove_of_notMem
  intro node _ owner
  rw [ownedBy, beq_eq_false_iff_ne, owner]
  exact different

end Server

end ZnsBench.Zookeeper.ZnodeServer

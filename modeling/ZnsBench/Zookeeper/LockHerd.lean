import ZnsBench.Zookeeper.LockScan

/-!
# Every waiter of the lock watches another node

A process chooses the node it watches from a listing that may be old when it
is delivered.  The listings that reach a process after its create reply were
taken after its node was created, because replies come in the order of the
requests.  Such a listing holds every node below the process's own that is
still there, so the watched node is at or above each of them.  Of two
processes whose nodes exist, the later one therefore watches a node that is
not below the earlier one's node, and the earlier one watches a node below
its own: they never watch the same node.

Nothing is assumed of the session events.  A listing that a session event
starts before the create reply meets `seq_me = 0`, finds no smaller number
and sets no watch.
-/

namespace ZnsBench.Zookeeper.LockHerd

open ZnsBench.Core.ByteString
open ZnsBench.Core.GuardedRun
open ZnsBench.Core.PaddedDecimal
open ZnsBench.Zookeeper.ZnodeServer
open ZnsBench.Zookeeper.LockProtocol
open ZnsBench.Zookeeper.LockScan

/-! ## What is on its way to a process -/

/--
No create reply, and listings that hold every existing node below a number.
-/
def Quiet (server : Server) (seq : Nat) (messages : List Message) : Prop :=
  ∀ message ∈ messages,
    (∀ rc value, message ≠ .created rc value) ∧
      ∀ rc strings,
        message = .children rc strings →
          rc = zok ∧
            ∃ listing : List Nat,
              strings = listing.map nodeName ∧
                (∀ other ∈ listing, other < counterLimit) ∧
                  server.Covers listing seq

@[simp]
theorem quiet_append
    {server : Server} {seq : Nat} {first second : List Message} :
    Quiet server seq (first ++ second) ↔
      Quiet server seq first ∧ Quiet server seq second := by
  constructor
  · intro quiet
    constructor
    · intro message member
      exact quiet message (List.mem_append_left _ member)
    · intro message member
      exact quiet message (List.mem_append_right _ member)
  · rintro ⟨firstQuiet, secondQuiet⟩ message member
    rcases List.mem_append.mp member with old | new
    · exact firstQuiet message old
    · exact secondQuiet message new

/-- Messages that say nothing of nodes. -/
theorem quiet_of_silent
    {messages : List Message}
    (silent :
      ∀ message ∈ messages,
        (∀ rc value, message ≠ .created rc value) ∧
          ∀ rc strings, message ≠ .children rc strings)
    (server : Server) (seq : Nat) :
    Quiet server seq messages := by
  intro message member
  refine ⟨(silent message member).1, ?_⟩
  intro rc strings equal
  exact absurd equal ((silent message member).2 rc strings)

theorem quiet_events
    (server : Server) (seq : Nat) (events : List WatchEvent) :
    Quiet server seq (events.map Message.event) := by
  apply quiet_of_silent
  intro message member
  rcases List.mem_map.mp member with ⟨event, _, rfl⟩
  simp

/-- Old listings stay good when other nodes come and go. -/
theorem quiet_evolves
    {server next : Server} {seq : Nat} {messages : List Message}
    (quiet : Quiet server seq messages)
    (evolves : Server.Evolves server next)
    (existing : seq ≤ server.next) :
    Quiet next seq messages := by
  intro message member
  refine ⟨(quiet message member).1, ?_⟩
  intro rc strings equal
  rcases (quiet message member).2 rc strings equal with
    ⟨ok, listing, listed, small, covers⟩
  exact
    ⟨ok, listing, listed, small,
      Server.covers_evolves covers evolves existing⟩

/-- Every answer but that to a create is quiet for every number. -/
theorem quiet_reply
    {order : List Nat} {session : Nat} {server : Server}
    {request : Request} {outcome : Outcome}
    (handles : Handles order session server request outcome)
    (notCreate : request ≠ .acreate) (seq : Nat) :
    Quiet outcome.server seq outcome.reply := by
  cases handles with
  | acreate room => exact absurd rfl notCreate
  | agetChildren listed =>
      intro message member
      rw [List.mem_singleton] at member
      subst message
      constructor
      · intro rc value equal
        cases equal
      · intro rc strings equal
        cases equal
        refine
          ⟨rfl, order, rfl, ?_, Server.covers_of_perm seq listed⟩
        intro other found
        rw [listed.mem_iff] at found
        rcases List.mem_map.mp found with ⟨node, existing, rfl⟩
        exact Server.seq_lt_counterLimit existing
  | aexists path =>
      apply quiet_of_silent
      simp
  | adelete path =>
      apply quiet_of_silent
      simp
  | close =>
      apply quiet_of_silent
      simp

/-! ## Where a process stands -/

/-- The process has not learned its number and watches nothing. -/
def Unset (zmt : ZkMutex) : Prop := zmt.seqMe = 0 ∧ zmt.watch = []

/-- `main` has not called `zoo_acreate`. -/
def Stage.Early (stage : Stage) : Prop :=
  stage = .fresh ∨ stage = .connected

/-- The node of the process has got its number. -/
structure Born
    (server : Server) (session : Nat) (client : Client) (seq : Nat) :
    Prop where
  owned : ∀ number ∈ server.owned session, number = seq
  below : seq < server.next
  created : Request.acreate ∉ client.requests
  late : ¬ Stage.Early client.stage

/-- The watched node is below the own one, and above every other such. -/
structure WatchesBelow (server : Server) (seq : Nat) (zmt : ZkMutex)
    (number : Nat) : Prop where
  watch : zmt.watch = nodePath number
  seqWatch : zmt.seqWatch = number
  smaller : number < seq
  greatest : ∀ node ∈ server.children, node.seq < seq → node.seq ≤ number

/-- What a process knows of its node. -/
inductive Standing
    (server : Server) (session : Nat) (client : Client) : Prop where
  /-- No node yet. -/
  | unborn
      (owned : server.owned session = [])
      (creates : client.requests.count .acreate ≤ 1)
      (early :
        Stage.Early client.stage → Request.acreate ∉ client.requests)
      (quiet : Quiet server 0 client.inbox)
      (unset : Unset client.zmt)
  /-- The create reply is on its way. -/
  | arriving (seq : Nat) (before after : List Message)
      (born : Born server session client seq)
      (inbox :
        client.inbox = before ++ .created zok (nodePath seq) :: after)
      (quiet : Quiet server 0 before)
      (listed : Quiet server seq after)
      (unset : Unset client.zmt)
  /-- The process knows its number. -/
  | arrived (seq : Nat)
      (born : Born server session client seq)
      (mine : client.zmt.seqMe = seq)
      (quiet : Quiet server seq client.inbox)
      (watch :
        client.zmt.watch = [] ∨
          ∃ number, WatchesBelow server seq client.zmt number)

/-! ## The server's part -/

section Server

variable {server next : Server} {session : Nat} {client : Client}

theorem Born.evolves
    {seq : Nat} {messages : List Message} {rest : List Request}
    (born : Born server session client seq)
    (owned : next.owned session ⊆ server.owned session)
    (grows : server.next ≤ next.next)
    (queue : rest ⊆ client.requests) :
    Born next session
      (receive messages { client with requests := rest }) seq where
  owned := fun number member => born.owned number (owned member)
  below := lt_of_lt_of_le born.below grows
  created := fun member => born.created (queue member)
  late := born.late

theorem WatchesBelow.evolves
    {seq number : Nat} {zmt : ZkMutex}
    (watches : WatchesBelow server seq zmt number)
    (evolves : Server.Evolves server next)
    (existing : seq ≤ server.next) :
    WatchesBelow next seq zmt number where
  watch := watches.watch
  seqWatch := watches.seqWatch
  smaller := watches.smaller
  greatest := by
    intro node member less
    rcases evolves node member with old | new
    · exact watches.greatest node old less
    · exact absurd less (not_lt_of_ge (le_trans existing new))

/-- Anything but its own create leaves a process where it stands. -/
theorem Standing.evolves
    {messages : List Message} {rest : List Request}
    (standing : Standing server session client)
    (evolves : Server.Evolves server next)
    (owned : next.owned session ⊆ server.owned session)
    (grows : server.next ≤ next.next)
    (queue : rest.Sublist client.requests)
    (added : ∀ seq, Quiet next seq messages) :
    Standing next session
      (receive messages { client with requests := rest }) := by
  cases standing with
  | unborn none creates early quiet unset =>
      refine .unborn ?_ ?_ ?_ ?_ unset
      · rw [none] at owned
        exact List.subset_nil.mp owned
      · exact le_trans (queue.count_le _) creates
      · intro stage member
        exact early stage (queue.subset member)
      · exact
          quiet_append.mpr
            ⟨quiet_evolves quiet evolves (Nat.zero_le _), added 0⟩
  | arriving seq before after born inbox quiet listed unset =>
      refine
        .arriving seq before (after ++ messages)
          (born.evolves owned grows queue.subset) ?_
          (quiet_evolves quiet evolves (Nat.zero_le _)) ?_ unset
      · rw [receive]
        simp [inbox]
      · exact
          quiet_append.mpr
            ⟨quiet_evolves listed evolves born.below.le, added seq⟩
  | arrived seq born mine quiet watch =>
      refine
        .arrived seq (born.evolves owned grows queue.subset) mine
          (quiet_append.mpr
            ⟨quiet_evolves quiet evolves born.below.le, added seq⟩) ?_
      rcases watch with empty | ⟨number, watches⟩
      · exact Or.inl empty
      · exact Or.inr ⟨number, watches.evolves evolves born.below.le⟩

/-- Its own create gives a process its number. -/
theorem Standing.create
    {rest : List Request}
    (standing : Standing server session client)
    (queued : client.requests = .acreate :: rest)
    (room : server.next < counterLimit) (events : List WatchEvent) :
    Standing (server.create nodePath session room) session
      (receive
        (events.map Message.event ++ [.created zok (nodePath server.next)])
        { client with requests := rest }) := by
  have first : Request.acreate ∈ client.requests := by simp [queued]
  cases standing with
  | unborn none creates early quiet unset =>
      refine
        .arriving server.next (client.inbox ++ events.map Message.event) []
          ?_ ?_ ?_ ?_ unset
      · constructor
        · intro number member
          rw [Server.owned_create, none, if_pos rfl] at member
          exact List.mem_singleton.mp member
        · exact Nat.lt_succ_self _
        · rw [queued, List.count_cons_self] at creates
          have none : rest.count .acreate = 0 := by omega
          exact List.count_eq_zero.mp none
        · exact fun stage => early stage first
      · simp [receive]
      · exact
          quiet_append.mpr
            ⟨quiet_evolves quiet Server.evolves_create (Nat.zero_le _),
              quiet_events _ _ _⟩
      · intro message member
        cases member
  | arriving seq before after born => exact absurd first born.created
  | arrived seq born => exact absurd first born.created

end Server

/-! ## The process's part -/

section Callbacks

variable {server : Server} {session : Nat} {client next : Client}

/-- A process sends requests, or moves on in `main`, and changes no more. -/
structure Sends (client next : Client) : Prop where
  seqMe : next.zmt.seqMe = client.zmt.seqMe
  watch : next.zmt.watch = client.zmt.watch
  seqWatch : next.zmt.seqWatch = client.zmt.seqWatch
  stage : Stage.Early next.stage → Stage.Early client.stage
  inbox : next.inbox = client.inbox
  creates : next.requests.count .acreate = client.requests.count .acreate

namespace Sends

theorem created (sends : Sends client next)
    (absent : Request.acreate ∉ client.requests) :
    Request.acreate ∉ next.requests := by
  rw [← List.count_eq_zero] at absent ⊢
  rw [sends.creates, absent]

theorem unset (sends : Sends client next) (unset : Unset client.zmt) :
    Unset next.zmt :=
  ⟨sends.seqMe.trans unset.1, sends.watch.trans unset.2⟩

theorem born {seq : Nat} (sends : Sends client next)
    (born : Born server session client seq) :
    Born server session next seq where
  owned := born.owned
  below := born.below
  created := sends.created born.created
  late := fun stage => born.late (sends.stage stage)

end Sends

theorem Standing.sends
    (standing : Standing server session client)
    (sends : Sends client next) :
    Standing server session next := by
  cases standing with
  | unborn owned creates early quiet unset =>
      refine .unborn owned ?_ ?_ ?_ (sends.unset unset)
      · rw [sends.creates]
        exact creates
      · intro stage
        exact sends.created (early (sends.stage stage))
      · rw [sends.inbox]
        exact quiet
  | arriving seq before after born split quiet listed unset =>
      exact
        .arriving seq before after (sends.born born)
          (sends.inbox.trans split) quiet listed (sends.unset unset)
  | arrived seq born mine quiet watch =>
      refine
        .arrived seq (sends.born born) (sends.seqMe.trans mine) ?_ ?_
      · rw [sends.inbox]
        exact quiet
      · rw [sends.watch]
        rcases watch with empty | ⟨number, watches⟩
        · exact Or.inl empty
        · right
          exact
            ⟨number, sends.watch.trans watches.watch,
              sends.seqWatch.trans watches.seqWatch, watches.smaller,
              watches.greatest⟩

/-- A message other than a create reply leaves the inbox. -/
theorem Standing.drop
    {message : Message} {rest : List Message}
    (standing : Standing server session client)
    (queued : client.inbox = message :: rest)
    (notReply : ∀ rc value, message ≠ .created rc value) :
    Standing server session { client with inbox := rest } := by
  have remaining :
      ∀ seq, Quiet server seq client.inbox → Quiet server seq rest := by
    intro seq quiet other member
    apply quiet
    rw [queued]
    exact List.mem_cons_of_mem _ member
  cases standing with
  | unborn owned creates early quiet unset =>
      exact .unborn owned creates early (remaining 0 quiet) unset
  | arriving seq before after born split quiet listed unset =>
      cases before with
      | nil =>
          rw [queued, List.nil_append, List.cons.injEq] at split
          exact absurd split.1 (notReply _ _)
      | cons first before =>
          rw [queued, List.cons_append, List.cons.injEq] at split
          refine
            .arriving seq before after
              ⟨born.owned, born.below, born.created, born.late⟩ split.2 ?_
              listed unset
          intro other member
          exact quiet other (List.mem_cons_of_mem _ member)
  | arrived seq born mine quiet watch =>
      exact
        .arrived seq ⟨born.owned, born.below, born.created, born.late⟩ mine
          (remaining seq quiet) watch

/-- Asking for the children, or announcing and deleting, only sends. -/
theorem sends_agetChildren (client : Client) :
    Sends client (zooAgetChildren client) :=
  ⟨rfl, rfl, rfl, id, rfl, by simp [zooAgetChildren, send]⟩

theorem sends_release (path : Bytes) (client : Client) :
    Sends client (zooAdelete path (announce path client)) :=
  ⟨rfl, rfl, rfl, id, rfl, by simp [zooAdelete, send, announce]⟩

/-- The watcher ignores an event or asks for the children. -/
theorem sends_watcher
    {event : WatchEvent}
    (called : zkWatcherDisconnect 0 event client = some next) :
    Sends client next := by
  rcases zkWatcherDisconnect_cases called with ⟨_, rfl⟩ | ⟨_, rfl⟩
  · exact sends_agetChildren client
  · exact ⟨rfl, rfl, rfl, id, rfl, rfl⟩

/-- The create reply tells the process its number. -/
theorem standing_created
    {rc : Int} {value : Bytes} {rest : List Message}
    (standing : Standing server session client)
    (queued : client.inbox = .created rc value :: rest)
    (called :
      callback (.created rc value) { client with inbox := rest } =
        some next) :
    Standing server session next := by
  have first : Message.created rc value ∈ client.inbox := by simp [queued]
  cases standing with
  | unborn owned creates early quiet unset =>
      exact absurd rfl ((quiet _ first).1 rc value)
  | arriving seq before after born split quiet listed unset =>
      cases before with
      | cons message before =>
          rw [queued, List.cons_append, List.cons.injEq] at split
          have other := (quiet message (by simp)).1 rc value
          exact absurd split.1.symm other
      | nil =>
          rw [queued, List.nil_append, List.cons.injEq,
            Message.created.injEq] at split
          rcases split with ⟨⟨rfl, rfl⟩, rfl⟩
          have small : seq < counterLimit :=
            lt_of_lt_of_le born.below server.bounded
          have scanned :
              (scanIntAfter lockDirectory (nodePath seq)).getD 0 =
                (seq : Int) := by
            rw [scanIntAfter_nodePath small]
            rfl
          have named :
              Standing server session
                { client with
                  inbox := rest
                  zmt := { client.zmt with seqMe := seq } } :=
            .arrived seq ⟨born.owned, born.below, born.created, born.late⟩
              rfl listed (Or.inl unset.2)
          rcases zkCreateLockRes1Es_cases scanned called with
            ⟨_, rfl⟩ | ⟨_, rfl⟩
          · exact named.sends (sends_agetChildren _)
          · exact named.sends (sends_release _ _)
  | arrived seq born mine quiet watch =>
      exact absurd rfl ((quiet _ first).1 rc value)

/-- A listing without a smaller number makes the process release. -/
theorem sends_children_of_first
    {listing : List Nat} {seq : Nat}
    (mine : client.zmt.seqMe = seq)
    (small : ∀ other ∈ listing, other < counterLimit)
    (first : ∀ other ∈ listing, seq ≤ other) :
    Sends client
      (zkGetChildrenLockRes1 zok (listing.map nodeName) client) := by
  have scanned := scanned_scanChildren mine small
  have none : (scanChildren client.zmt (listing.map nodeName)).n = 0 :=
    scanned.first.mpr first
  rcases zkGetChildrenLockRes1_cases (listing.map nodeName) client with
    ⟨_, equal⟩ | ⟨nonzero, _⟩
  · rw [equal]
    refine ⟨rfl, rfl, (scanned.untouched none).1, id, rfl, ?_⟩
    simp [zooAdelete, send, announce]
  · exact absurd none nonzero

/-- Before the create reply no number is smaller. -/
theorem standing_children_of_unset
    {listing : List Nat}
    (standing : Standing server session client)
    (unset : Unset client.zmt)
    (small : ∀ other ∈ listing, other < counterLimit) :
    Standing server session
      (zkGetChildrenLockRes1 zok (listing.map nodeName) client) := by
  have mine : client.zmt.seqMe = ((0 : Nat) : Int) := unset.1
  exact
    standing.sends
      (sends_children_of_first mine small fun _ _ => Nat.zero_le _)

/-- Later a listing makes a process watch the node before its own. -/
theorem standing_children_of_arrived
    {listing : List Nat} {seq : Nat}
    (born : Born server session client seq)
    (mine : client.zmt.seqMe = seq)
    (quiet : Quiet server seq client.inbox)
    (watch :
      client.zmt.watch = [] ∨
        ∃ number, WatchesBelow server seq client.zmt number)
    (small : ∀ other ∈ listing, other < counterLimit)
    (covers : server.Covers listing seq) :
    Standing server session
      (zkGetChildrenLockRes1 zok (listing.map nodeName) client) := by
  rcases first_or_exists_greatest mine small with
    first | ⟨number, listed, smaller, greatest⟩
  · have standing : Standing server session client :=
      .arrived seq born mine quiet watch
    exact standing.sends (sends_children_of_first mine small first)
  · rw [zkGetChildrenLockRes1_of_smaller mine small listed smaller greatest]
    refine .arrived seq ?_ mine quiet (Or.inr ⟨number, ?_⟩)
    · refine ⟨born.owned, born.below, ?_, born.late⟩
      simpa [zooAexists, send] using born.created
    · refine ⟨rfl, rfl, smaller, ?_⟩
      intro node member less
      exact greatest _ (covers node member less) less

theorem standing_children
    {rc : Int} {strings : List Bytes} {rest : List Message}
    (standing : Standing server session client)
    (queued : client.inbox = .children rc strings :: rest) :
    Standing server session
      (zkGetChildrenLockRes1 rc strings { client with inbox := rest }) := by
  have first : Message.children rc strings ∈ client.inbox := by
    simp [queued]
  have dropped := standing.drop queued (by simp)
  cases standing with
  | unborn owned creates early quiet unset =>
      rcases (quiet _ first).2 rc strings rfl with
        ⟨rfl, listing, rfl, small, _⟩
      exact standing_children_of_unset dropped unset small
  | arriving seq before after born split quiet listed unset =>
      cases before with
      | nil =>
          rw [queued, List.nil_append, List.cons.injEq] at split
          cases split.1
      | cons message before =>
          rw [queued, List.cons_append, List.cons.injEq] at split
          rcases (quiet message (by simp)).2 rc strings split.1.symm with
            ⟨rfl, listing, rfl, small, _⟩
          exact standing_children_of_unset dropped unset small
  | arrived seq born mine quiet watch =>
      rcases (quiet _ first).2 rc strings rfl with
        ⟨rfl, listing, rfl, small, covers⟩
      refine
        standing_children_of_arrived
          ⟨born.owned, born.below, born.created, born.late⟩ mine ?_ watch
          small covers
      intro other member
      apply quiet
      rw [queued]
      exact List.mem_cons_of_mem _ member

/-- Every delivered message leaves its process with a standing. -/
theorem standing_callback
    {message : Message} {rest : List Message}
    (standing : Standing server session client)
    (queued : client.inbox = message :: rest)
    (called :
      callback message { client with inbox := rest } = some next) :
    Standing server session next := by
  cases message with
  | created rc value => exact standing_created standing queued called
  | children rc strings =>
      cases called
      exact standing_children standing queued
  | stat rc =>
      cases called
      exact standing.drop queued (by simp)
  | deleted rc =>
      cases called
      have dropped := standing.drop queued (by simp)
      exact dropped.sends ⟨rfl, rfl, rfl, id, rfl, rfl⟩
  | event event =>
      have dropped := standing.drop queued (by simp)
      exact dropped.sends (sends_watcher called)

end Callbacks

/-! ## Runs -/

/-- Every process has a standing. -/
def Ranked (state : System) : Prop :=
  state.Each fun server session client => Standing server session client

theorem ranked_initial : Ranked System.initial := by
  intro session
  refine .unborn rfl (Nat.zero_le _) ?_ ?_ ⟨rfl, rfl⟩
  · intro _ member
    cases member
  · intro message member
    cases member

theorem ranked_apply
    {order : List Nat} {state : System} {session : Nat}
    {request : Request} {rest : List Request} {outcome : Outcome}
    (ranked : Ranked state)
    (queued : (state.clients session).requests = request :: rest)
    (handles : Handles order session state.server request outcome) :
    Ranked (state.apply session rest outcome) := by
  have evolves := evolves_handles handles
  have grows := next_le_handles handles
  intro other
  by_cases equal : other = session
  · subst other
    simp only [System.apply, if_true]
    by_cases create : request = .acreate
    · subst request
      cases handles with
      | acreate room => exact (ranked session).create queued room _
    · apply (ranked session).evolves evolves _ grows
      · rw [queued]
        exact List.sublist_cons_self _ _
      · intro seq
        exact
          quiet_append.mpr
            ⟨quiet_events _ _ _, quiet_reply handles create seq⟩
      · exact owned_handles_subset handles fun _ => create
  · simp only [System.apply, if_neg equal]
    apply
      (ranked other).evolves evolves _ grows (List.Sublist.refl _)
        (fun seq => quiet_events _ _ _)
    exact owned_handles_subset handles fun same => absurd same equal

/-- Every step of every run leaves every process with a standing. -/
theorem ranked_step
    {state next : System} {label : Label}
    (ranked : Ranked state)
    (taken : step state label = some next) :
    Ranked next := by
  rcases step_cases taken with
    ⟨session, rfl, fresh, rfl⟩ | ⟨session, rfl, connected, rfl⟩ |
      ⟨session, order, request, rest, outcome, rfl, queued, handles, rfl⟩ |
      ⟨session, message, rest, client, rfl, callable, queued, called,
        rfl⟩ |
      ⟨session, client, rfl, callable, called, rfl⟩ |
      ⟨session, rfl, running, quitting, rfl⟩
  · apply Sessions.each_put ranked
    apply (ranked session).sends
    exact ⟨rfl, rfl, rfl, fun _ => Or.inl fresh, rfl, rfl⟩
  · apply Sessions.each_put ranked
    cases ranked session with
    | unborn owned creates early quiet unset =>
        have none := early (Or.inr connected)
        rw [← List.count_eq_zero] at none
        refine .unborn owned ?_ ?_ quiet unset
        · simp [zooAcreate, send, none]
        · rintro (stage | stage)
          · cases stage
          · cases stage
    | arriving seq before after born =>
        exact absurd (Or.inr connected) born.late
    | arrived seq born => exact absurd (Or.inr connected) born.late
  · exact ranked_apply ranked queued handles
  · apply Sessions.each_put ranked
    exact standing_callback (ranked session) queued called
  · apply Sessions.each_put ranked
    exact (ranked session).sends (sends_watcher called)
  · apply Sessions.each_put ranked
    apply (ranked session).sends
    refine ⟨rfl, rfl, rfl, ?_, rfl, by simp [send]⟩
    rintro (stage | stage)
    · cases stage
    · cases stage

theorem ranked_of_reachable
    {allowed : System → Label → Prop} {state : System}
    (reachable : Reachable allowed state) :
    Ranked state := by
  refine reachable.preserves ranked_initial ?_
  intro state label next ranked _ taken
  exact ranked_step ranked taken

/-! ## The result -/

/-- A process whose node exists and that has set `zmt.watch`. -/
def Waits (state : System) (session : Nat) : Prop :=
  state.server.owned session ≠ [] ∧
    (state.clients session).zmt.watch ≠ []

instance (state : System) (session : Nat) :
    Decidable (Waits state session) :=
  inferInstanceAs (Decidable (_ ∧ _))

theorem watchesBelow_of_waits
    {state : System} {session : Nat}
    (ranked : Ranked state) (waits : Waits state session) :
    ∃ seq number,
      state.server.owned session ⊆ [seq] ∧
        ⟨seq, session⟩ ∈ state.server.children ∧
          WatchesBelow state.server seq (state.clients session).zmt
            number := by
  rcases waits with ⟨existing, watching⟩
  cases ranked session with
  | unborn owned => exact absurd owned existing
  | arriving seq before after born inbox quiet listed unset =>
      exact absurd unset.2 watching
  | arrived seq born mine quiet watch =>
      rcases watch with empty | ⟨number, watches⟩
      · exact absurd empty watching
      · rcases List.exists_mem_of_ne_nil _ existing with ⟨own, member⟩
        have same := born.owned own member
        subst own
        refine ⟨seq, number, ?_, Server.mem_owned.mp member, watches⟩
        intro other found
        exact List.mem_singleton.mpr (born.owned other found)

/-- The later of two waiters watches a node above what the other watches. -/
theorem watch_ne_of_lt
    {server : Server} {first second : Znode} {firstZmt secondZmt : ZkMutex}
    {firstNumber secondNumber : Nat}
    (firstExists : first ∈ server.children)
    (secondExists : second ∈ server.children)
    (less : first.seq < second.seq)
    (firstWatches : WatchesBelow server first.seq firstZmt firstNumber)
    (secondWatches :
      WatchesBelow server second.seq secondZmt secondNumber) :
    firstZmt.watch ≠ secondZmt.watch := by
  have firstBound := Server.seq_lt_counterLimit firstExists
  have secondBound := Server.seq_lt_counterLimit secondExists
  have between : first.seq ≤ secondNumber :=
    secondWatches.greatest first firstExists less
  have below := firstWatches.smaller
  have secondBelow := secondWatches.smaller
  rw [firstWatches.watch, secondWatches.watch, ne_eq,
    nodePath_inj (by omega) (by omega)]
  omega

/-- Two waiters never watch the same node. -/
theorem watch_ne_of_waits
    {state : System} {first second : Nat}
    (ranked : Ranked state)
    (different : first ≠ second)
    (firstWaits : Waits state first)
    (secondWaits : Waits state second) :
    (state.clients first).zmt.watch ≠ (state.clients second).zmt.watch := by
  rcases watchesBelow_of_waits ranked firstWaits with
    ⟨firstSeq, firstNumber, _, firstExists, firstWatches⟩
  rcases watchesBelow_of_waits ranked secondWaits with
    ⟨secondSeq, secondNumber, _, secondExists, secondWatches⟩
  rcases lt_trichotomy firstSeq secondSeq with less | equal | greater
  · exact
      watch_ne_of_lt firstExists secondExists less firstWatches
        secondWatches
  · have same := Server.eq_of_seq_eq firstExists secondExists equal
    exact absurd (congrArg Znode.owner same) different
  · exact
      (watch_ne_of_lt secondExists firstExists greater secondWatches
        firstWatches).symm

/--
The deletion of a path sends a process an event, and the process takes it for
the one that it waits for.
-/
def Woken (state : System) (path : Bytes) (session : Nat) : Prop :=
  ⟨.deleted, path⟩ ∈
      state.server.removeEvents nodePath
        (Server.atPath nodePath path) session ∧
    (state.clients session).zmt.watch = path

/--
In every run, for any number of processes and whatever session events arrive:
two processes whose nodes exist and that have set `zmt.watch` watch different
nodes, each of them below its own number; so the deletion of a node wakes at
most one process whose node exists.
-/
theorem lock_has_no_herd
    (state : System) (reachable : Reachable Unrestricted state) :
    (∀ first second,
      first ≠ second →
        Waits state first →
          Waits state second →
            (state.clients first).zmt.watch ≠
              (state.clients second).zmt.watch) ∧
      (∀ session,
        Waits state session →
          ∃ number : Nat,
            (state.clients session).zmt.watch = nodePath number ∧
              (state.clients session).zmt.seqWatch = number ∧
                ∀ seq ∈ state.server.owned session, number < seq) ∧
        ∀ path first second,
          Waits state first →
            Waits state second →
              Woken state path first →
                Woken state path second → first = second := by
  have ranked := ranked_of_reachable reachable
  refine ⟨?_, ?_, ?_⟩
  · intro first second different firstWaits secondWaits
    exact watch_ne_of_waits ranked different firstWaits secondWaits
  · intro session waits
    rcases watchesBelow_of_waits ranked waits with
      ⟨seq, number, owned, _, watches⟩
    refine ⟨number, watches.watch, watches.seqWatch, ?_⟩
    intro own member
    rw [List.mem_singleton.mp (owned member)]
    exact watches.smaller
  · intro path first second firstWaits secondWaits firstWoken secondWoken
    by_contra different
    apply watch_ne_of_waits ranked different firstWaits secondWaits
    rw [firstWoken.2, secondWoken.2]

/-- Three processes: the second watches the first, the third the second. -/
theorem lock_has_no_herd_three_processes :
    ∃ state,
      Reachable Unrestricted state ∧
        Waits state 1 ∧
          Waits state 2 ∧
            (state.clients 1).zmt.watch ≠
              (state.clients 2).zmt.watch := by
  have replayed :
      ∃ state,
        Reachable Unrestricted state ∧ Waits state 1 ∧ Waits state 2 :=
    Run.exists_of_replay _
      [.start 0, .submit 0, .serve 0 [], .start 1, .submit 1, .serve 1 [],
        .start 2, .submit 2, .session 2, .serve 2 [], .deliver 1,
        .serve 1 [2, 0, 1], .deliver 1, .deliver 2, .serve 2 [0, 1, 2],
        .deliver 2]
      (by decide +kernel)
  rcases replayed with ⟨state, reached, secondWaits, thirdWaits⟩
  exact
    ⟨state, reached, secondWaits, thirdWaits,
      (lock_has_no_herd state reached).1 1 2 (by decide) secondWaits
        thirdWaits⟩

end ZnsBench.Zookeeper.LockHerd

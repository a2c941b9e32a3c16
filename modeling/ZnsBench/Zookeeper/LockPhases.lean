import ZnsBench.Zookeeper.LockScan

/-!
# The phases of a process

The watcher of `zklock.cc` compares the path of every event with `zmt.watch`,
and session events carry the empty path.  A session event that arrives while
`zmt.watch` is still empty is therefore taken for the deletion of a node.

As long as session events only reach processes whose `zmt.watch` is set, a
process goes through a fixed sequence of phases, with one request, one reply
or one watch under way at a time.  The phases carry the facts that make an
announcement rightful: the node is there, and a listing that is under way
holds every smaller node that is still there.
-/

namespace ZnsBench.Zookeeper.LockPhases

open ZnsBench.Core.ByteString
open ZnsBench.Core.GuardedRun
open ZnsBench.Core.PaddedDecimal
open ZnsBench.Zookeeper.ZnodeServer
open ZnsBench.Zookeeper.LockProtocol
open ZnsBench.Zookeeper.LockScan

/-! ## Phases -/

/-- What a process waits for. -/
inductive Phase where
  | outside
  | creating
  | entered (seq : Nat)
  | asking (seq : Nat)
  | deciding (seq : Nat) (listing : List Nat)
  | arming (seq : Nat) (path : Bytes)
  | waiting (seq : Nat) (path : Bytes)
  | woken (seq : Nat) (event : WatchEvent)
  | releasing (seq : Nat)
  | released (seq : Nat) (rc : Int)
  | finished (seq : Nat)
  | closing (seq : Nat)
  | closed (seq : Nat)

namespace Phase

/-- The requests that are on their way in a phase. -/
def requests : Phase → List Request
  | .creating => [.acreate]
  | .asking _ => [.agetChildren]
  | .arming _ path => [.aexists path]
  | .releasing seq => [.adelete (nodePath seq)]
  | .closing _ => [.close]
  | _ => []

/-- The messages that have still to be delivered in a phase. -/
def messages : Phase → List Message
  | .entered seq => [.created zok (nodePath seq)]
  | .deciding _ listing => [.children zok (listing.map nodeName)]
  | .woken _ event => [.event event]
  | .released _ rc => [.deleted rc]
  | _ => []

/-- The paths that are watched in a phase. -/
def watches : Phase → List Bytes
  | .waiting _ path => [path]
  | _ => []

/-- The nodes of the process. -/
def owned : Phase → List Nat
  | .entered seq | .asking seq | .deciding seq _ | .arming seq _
  | .waiting seq _ | .woken seq _ | .releasing seq => [seq]
  | _ => []

/-- What the process has announced, and what it has deleted. -/
def announced : Phase → List Bytes
  | .releasing seq | .released seq _ | .finished seq | .closing seq
  | .closed seq => [nodePath seq]
  | _ => []

/-- The path that the process's create has returned to it. -/
def returned : Phase → List Bytes
  | .outside | .creating | .entered _ => []
  | .asking seq | .deciding seq _ | .arming seq _ | .waiting seq _
  | .woken seq _ | .releasing seq | .released seq _ | .finished seq
  | .closing seq | .closed seq => [nodePath seq]

/-- Whether the process has been told to quit. -/
def quit : Phase → Bool
  | .finished _ | .closing _ | .closed _ => true
  | _ => false

/-- The stages of a client in a phase. -/
def InStage (stage : Stage) : Phase → Prop
  | .outside => stage = .fresh ∨ stage = .connected
  | .closing _ | .closed _ => stage = .closed
  | _ => stage = .running

/-- What the process remembers. -/
def Remembers (zmt : ZkMutex) : Phase → Prop
  | .asking seq | .deciding seq _ => zmt.seqMe = seq
  | .arming seq path | .waiting seq path =>
      zmt.seqMe = seq ∧ zmt.watch = path
  | .woken seq event => zmt.seqMe = seq ∧ zmt.watch = event.path
  | _ => True

/-- What the process may rely on. -/
def Sound (server : Server) : Phase → Prop
  | .deciding seq listing =>
      seq ∈ listing ∧ (∀ other ∈ listing, other < counterLimit) ∧
        server.Covers listing seq
  | .releasing seq => server.Smallest seq
  | _ => True

end Phase

/-- The replies to existence checks are only printed. -/
def acts : Message → Bool
  | .stat _ => false
  | _ => true

/-- A process and its session are in a phase. -/
structure Follows
    (server : Server) (session : Nat) (client : Client)
    (phase : Phase) : Prop where
  requests : client.requests = phase.requests
  messages : client.inbox.filter acts = phase.messages
  watches : server.watches session = phase.watches
  owned : server.owned session = phase.owned
  announced : client.announced = phase.announced
  deletes : client.deletes = phase.announced
  quit : client.quit = phase.quit
  stage : phase.InStage client.stage
  remembers : phase.Remembers client.zmt
  sound : phase.Sound server

/-- Every process is in some phase. -/
def Coherent (state : System) : Prop :=
  state.Each fun server session client =>
    ∃ phase, Follows server session client phase

/-! ## The others' steps -/

/-- What a step of another session may do to a session. -/
structure Passes
    (server next : Server) (session : Nat)
    (events : List WatchEvent) : Prop where
  owned : next.owned session = server.owned session
  evolves : Server.Evolves server next
  watches :
    ∃ type paths,
      next.watches session = (server.fire paths).watches session ∧
        events = server.fired type paths session

theorem sound_passes
    {server next : Server} {session : Nat} {events : List WatchEvent}
    {phase : Phase}
    (sound : phase.Sound server)
    (owned : server.owned session = phase.owned)
    (passes : Passes server next session events) :
    phase.Sound next := by
  have below :
      ∀ seq, phase.owned = [seq] → seq ≤ server.next := by
    intro seq equal
    have member : seq ∈ server.owned session := by simp [owned, equal]
    exact
      le_of_lt (server.below _ (Server.mem_owned.mp member))
  cases phase with
  | deciding seq listing =>
      refine ⟨sound.1, sound.2.1, ?_⟩
      exact
        Server.covers_evolves sound.2.2 passes.evolves (below seq rfl)
  | releasing seq =>
      exact
        Server.smallest_evolves sound passes.evolves (below seq rfl)
  | _ => exact True.intro

/-- A waiting process may be woken; nothing else happens to a session. -/
theorem follows_passes
    {server next : Server} {session : Nat} {client : Client}
    {events : List WatchEvent} {phase : Phase}
    (follows : Follows server session client phase)
    (passes : Passes server next session events) :
    ∃ nextPhase,
      Follows next session (receive (events.map Message.event) client)
          nextPhase ∧
        nextPhase.returned = phase.returned := by
  have sound := sound_passes follows.sound follows.owned passes
  have owned := passes.owned.trans follows.owned
  rcases passes.watches with ⟨type, paths, watches, rfl⟩
  by_cases quiet : server.fired type paths session = []
  · refine ⟨phase, ?_, rfl⟩
    rw [quiet, receive, List.map_nil, List.append_nil]
    have kept : next.watches session = server.watches session := by
      rw [watches]
      apply List.filter_eq_self.mpr
      intro path member
      rw [decide_eq_true_eq]
      intro listed
      have fired : (⟨type, path⟩ : WatchEvent) ∈ ([] : List WatchEvent) := by
        rw [← quiet]
        exact Server.mem_fired.mpr ⟨rfl, member, listed⟩
      cases fired
    exact
      { follows with
        watches := kept.trans follows.watches
        owned := owned
        sound := sound }
  · cases phase with
    | waiting seq path =>
        have watched : server.watches session = [path] := follows.watches
        have listed : path ∈ paths := by
          by_contra unlisted
          apply quiet
          simp [Server.fired, watched, unlisted]
        have event :
            server.fired type paths session = [⟨type, path⟩] := by
          simp [Server.fired, watched, listed]
        refine ⟨.woken seq ⟨type, path⟩, ?_, rfl⟩
        rw [event]
        exact
          { follows with
            messages := by
              have messages : client.inbox.filter acts = [] :=
                follows.messages
              simp [receive, messages, acts, Phase.messages]
            watches := by
              rw [watches]
              simp [Server.fire, watched, listed, Phase.watches]
            owned := owned
            sound := True.intro }
    | _ =>
        exact absurd (Server.fired_eq_nil follows.watches type paths) quiet

/-- Only its owner deletes a node. -/
def DeletesOwn (server : Server) (session : Nat) (request : Request) :
    Prop :=
  ∀ path, request = .adelete path →
    ∃ seq ∈ server.owned session, path = nodePath seq

/-- A deletion of an own node leaves the others' nodes alone. -/
theorem owned_remove_of_deletesOwn
    {server : Server} {session other : Nat} {path : Bytes}
    (deletes : DeletesOwn server session (.adelete path))
    (different : other ≠ session) :
    (server.remove nodePath (Server.atPath nodePath path)).owned other =
      server.owned other := by
  apply Server.owned_remove_of_notMem
  intro node member owner
  rcases deletes path rfl with ⟨seq, own, rfl⟩
  have ownMember := Server.mem_owned.mp own
  rw [Server.atPath, beq_eq_false_iff_ne]
  intro equal
  have sameSeq : node.seq = seq :=
    (nodePath_inj (Server.seq_lt_counterLimit member)
      (Server.seq_lt_counterLimit ownMember)).mp equal
  have same := Server.eq_of_seq_eq member ownMember sameSeq
  rw [same] at owner
  exact different owner.symm

/-- Handling a request of one session passes the others. -/
theorem passes_handles
    {order : List Nat} {session other : Nat} {server : Server}
    {request : Request} {outcome : Outcome}
    (handles : Handles order session server request outcome)
    (deletes : DeletesOwn server session request)
    (different : other ≠ session) :
    Passes server outcome.server other (outcome.events other) := by
  have unchanged :
      ∃ (type : EventType) (paths : List Bytes),
        server.watches other = (server.fire paths).watches other ∧
          [] = server.fired type paths other :=
    ⟨.deleted, [], by simp [Server.fire], by simp [Server.fired]⟩
  refine ⟨?_, evolves_handles handles, ?_⟩
  · cases handles with
    | acreate room =>
        rw [Server.owned_create, if_neg (Ne.symm different),
          List.append_nil]
    | agetChildren listed => rfl
    | aexists path => rfl
    | adelete path => exact owned_remove_of_deletesOwn deletes different
    | close => exact Server.owned_closeSession_of_ne different
  · cases handles with
    | acreate room => exact ⟨_, _, rfl, rfl⟩
    | agetChildren listed => exact unchanged
    | aexists path =>
        rw [Server.watches_watch_of_ne different]
        exact unchanged
    | adelete path => exact ⟨_, _, rfl, rfl⟩
    | close =>
        rw [Server.watches_closeSession_of_ne different]
        exact ⟨_, _, rfl, rfl⟩

/-! ## A session's own requests -/

section Requests

variable {server : Server} {session : Nat} {client : Client}

theorem deletesOwn_of_follows
    {phase : Phase} {request : Request} {rest : List Request}
    (follows : Follows server session client phase)
    (queued : client.requests = request :: rest) :
    DeletesOwn server session request := by
  rintro path rfl
  rw [follows.requests] at queued
  cases phase with
  | releasing seq =>
      cases queued
      exact ⟨seq, by simp [follows.owned, Phase.owned], rfl⟩
  | _ => cases queued

/-- The node gets the next number. -/
theorem follows_acreate
    (follows : Follows server session client .creating)
    (room : server.next < counterLimit) :
    Follows (server.create nodePath session room) session
      (receive
        ((server.createEvents nodePath session).map Message.event ++
          [.created zok (nodePath server.next)])
        { client with requests := [] })
      (.entered server.next) := by
  have messages : client.inbox.filter acts = [] := follows.messages
  have unwatched : server.watches session = [] := follows.watches
  exact
    { follows with
      requests := rfl
      messages := by
        simp [receive, Server.createEvents,
          Server.fired_eq_nil unwatched, messages, acts, Phase.messages]
      watches := by
        simp [Server.create, Server.fire, unwatched, Phase.watches]
      owned := by
        rw [Server.owned_create, follows.owned, if_pos rfl]
        rfl
      remembers := True.intro
      sound := True.intro }

/-- The listing holds the own node and every other one. -/
theorem follows_agetChildren
    {seq : Nat} {order : List Nat}
    (follows : Follows server session client (.asking seq))
    (listed : order.Perm (server.children.map Znode.seq)) :
    Follows server session
      (receive [.children zok (order.map nodeName)]
        { client with requests := [] })
      (.deciding seq order) := by
  have messages : client.inbox.filter acts = [] := follows.messages
  refine
    { follows with
      requests := rfl
      messages := by simp [receive, messages, acts, Phase.messages]
      sound := ⟨?_, ?_, Server.covers_of_perm seq listed⟩ }
  · have own : seq ∈ server.owned session := by
      simp [follows.owned, Phase.owned]
    rw [listed.mem_iff]
    exact List.mem_map_of_mem (Server.mem_owned.mp own)
  · intro other member
    rw [listed.mem_iff] at member
    rcases List.mem_map.mp member with ⟨node, found, rfl⟩
    exact Server.seq_lt_counterLimit found

/-- The watch is set, whatever the check finds. -/
theorem follows_aexists
    {seq : Nat} {path : Bytes}
    (follows : Follows server session client (.arming seq path))
    (rc : Int) :
    Follows (server.watch session path) session
      (receive [.stat rc] { client with requests := [] })
      (.waiting seq path) := by
  have messages : client.inbox.filter acts = [] := follows.messages
  have unwatched : server.watches session = [] := follows.watches
  exact
    { follows with
      requests := rfl
      messages := by simp [receive, messages, acts, Phase.messages]
      watches := by
        rw [Server.watches_watch_self, unwatched]
        simp [Phase.watches]
      sound := True.intro }

/-- The own node goes. -/
theorem follows_adelete
    {seq : Nat}
    (follows : Follows server session client (.releasing seq))
    (rc : Int) :
    Follows
      (server.remove nodePath (Server.atPath nodePath (nodePath seq)))
      session
      (receive
        ((server.removeEvents nodePath
            (Server.atPath nodePath (nodePath seq)) session).map
            Message.event ++
          [.deleted rc])
        { client with requests := [] })
      (.released seq rc) := by
  have messages : client.inbox.filter acts = [] := follows.messages
  have unwatched : server.watches session = [] := follows.watches
  exact
    { follows with
      requests := rfl
      messages := by
        simp [receive, Server.removeEvents,
          Server.fired_eq_nil unwatched, messages, acts, Phase.messages]
      watches := by
        simp [Server.remove, Server.fire, unwatched, Phase.watches]
      owned := by
        apply Server.owned_eq_nil_remove
        intro node member owner
        have own : node.seq ∈ server.owned session := by
          rw [Server.mem_owned, ← owner]
          exact member
        rw [follows.owned, Phase.owned, List.mem_singleton] at own
        simp [Server.atPath, own]
      remembers := True.intro
      sound := True.intro }

/-- The session ends. -/
theorem follows_close
    {seq : Nat}
    (follows : Follows server session client (.closing seq)) :
    Follows (server.closeSession nodePath session) session
      (receive
        ((server.removeEvents nodePath (Server.ownedBy session)
            session).map Message.event ++ [])
        { client with requests := [] })
      (.closed seq) := by
  have messages : client.inbox.filter acts = [] := follows.messages
  have unwatched : server.watches session = [] := follows.watches
  exact
    { follows with
      requests := rfl
      messages := by
        simp [receive, Server.removeEvents,
          Server.fired_eq_nil unwatched, messages, Phase.messages]
      watches := Server.watches_closeSession_self
      owned := Server.owned_closeSession_self
      remembers := True.intro
      sound := True.intro }

/-- A handled request moves its process to the next phase. -/
theorem follows_handles
    {order : List Nat} {phase : Phase} {request : Request}
    {rest : List Request} {outcome : Outcome}
    (follows : Follows server session client phase)
    (queued : client.requests = request :: rest)
    (handles : Handles order session server request outcome) :
    ∃ nextPhase,
      Follows outcome.server session
          (receive
            ((outcome.events session).map Message.event ++ outcome.reply)
            { client with requests := rest })
          nextPhase ∧
        nextPhase.returned = phase.returned := by
  rw [follows.requests] at queued
  cases phase with
  | creating =>
      cases queued
      cases handles with
      | acreate room => exact ⟨_, follows_acreate follows room, rfl⟩
  | asking seq =>
      cases queued
      cases handles with
      | agetChildren listed =>
          exact ⟨_, follows_agetChildren follows listed, rfl⟩
  | arming seq path =>
      cases queued
      cases handles with
      | aexists path => exact ⟨_, follows_aexists follows _, rfl⟩
  | releasing seq =>
      cases queued
      cases handles with
      | adelete path => exact ⟨_, follows_adelete follows _, rfl⟩
  | closing seq =>
      cases queued
      cases handles with
      | close => exact ⟨_, follows_close follows, rfl⟩
  | _ => cases queued

end Requests

/-! ## A process's own callbacks -/

/-- The path that a message returns to `zk_create_lock_res1_es`. -/
def returnedBy : Message → List Bytes
  | .created rc value => if rc = zok then [value] else []
  | .children _ _ | .stat _ | .deleted _ | .event _ => []

section Callbacks

variable
    {server : Server} {session : Nat} {client next : Client}
    {rest : List Message} {phase : Phase}

/-- The create reply: a node of number zero is the first. -/
theorem follows_created
    {rc : Int} {value : Bytes}
    (follows : Follows server session client phase)
    (messages :
      .created rc value :: rest.filter acts = phase.messages)
    (called :
      callback (.created rc value) { client with inbox := rest } =
        some next) :
    ∃ nextPhase,
      Follows server session next nextPhase ∧
        nextPhase.returned =
            phase.returned ++ returnedBy (.created rc value) ∧
          (next.announced = client.announced ∨
            ∃ seq, nextPhase = .releasing seq) := by
  cases phase with
  | entered seq =>
      rw [Phase.messages, List.cons.injEq, Message.created.injEq]
        at messages
      rcases messages with ⟨⟨rfl, rfl⟩, emptied⟩
      have own : seq ∈ server.owned session := by
        simp [follows.owned, Phase.owned]
      have scanned :
          (scanIntAfter lockDirectory (nodePath seq)).getD 0 =
            (seq : Int) := by
        rw [scanIntAfter_nodePath
          (Server.seq_lt_counterLimit (Server.mem_owned.mp own))]
        rfl
      rcases zkCreateLockRes1Es_cases scanned called with
        ⟨positive, rfl⟩ | ⟨notPositive, rfl⟩
      · refine ⟨.asking seq, ?_, rfl, Or.inl rfl⟩
        exact
          { follows with
            requests := by
              simp [zooAgetChildren, send, follows.requests,
                Phase.requests]
            messages := emptied
            remembers := rfl
            sound := True.intro }
      · have zero : seq = 0 := by omega
        subst seq
        refine ⟨.releasing 0, ?_, rfl, Or.inr ⟨0, rfl⟩⟩
        exact
          { follows with
            requests := by
              simp [zooAdelete, send, announce, follows.requests,
                Phase.requests]
            messages := emptied
            announced := by
              simp [zooAdelete, send, announce, follows.announced,
                Phase.announced]
            deletes := by
              simp [zooAdelete, send, announce, follows.deletes,
                Phase.announced]
            remembers := True.intro
            sound := fun _ _ => Nat.zero_le _ }
  | _ => cases messages

/-- A listing: without a smaller number the process is the first. -/
theorem follows_children
    {rc : Int} {strings : List Bytes}
    (follows : Follows server session client phase)
    (messages :
      .children rc strings :: rest.filter acts = phase.messages)
    (called :
      callback (.children rc strings) { client with inbox := rest } =
        some next) :
    ∃ nextPhase,
      Follows server session next nextPhase ∧
        nextPhase.returned = phase.returned ∧
          (next.announced = client.announced ∨
            ∃ seq, nextPhase = .releasing seq) := by
  cases phase with
  | deciding seq listing =>
      rw [Phase.messages, List.cons.injEq, Message.children.injEq]
        at messages
      rcases messages with ⟨⟨rfl, rfl⟩, emptied⟩
      rcases follows.sound with ⟨listed, small, covers⟩
      have mine :
          ({ client with inbox := rest } : Client).zmt.seqMe = seq :=
        follows.remembers
      cases called
      rcases first_or_exists_greatest mine small with
        first | ⟨found, foundListed, smaller, greatest⟩
      · rw [zkGetChildrenLockRes1_of_first mine small listed first]
        refine ⟨.releasing seq, ?_, rfl, Or.inr ⟨seq, rfl⟩⟩
        exact
          { follows with
            requests := by
              simp [zooAdelete, send, announce, follows.requests,
                Phase.requests]
            messages := emptied
            announced := by
              simp [zooAdelete, send, announce, follows.announced,
                Phase.announced]
            deletes := by
              simp [zooAdelete, send, announce, follows.deletes,
                Phase.announced]
            remembers := True.intro
            sound := Server.smallest_of_covers covers first }
      · rw [zkGetChildrenLockRes1_of_smaller mine small foundListed smaller
          greatest]
        refine ⟨.arming seq (nodePath found), ?_, rfl, Or.inl rfl⟩
        exact
          { follows with
            requests := by
              simp [zooAexists, send, follows.requests, Phase.requests]
            messages := emptied
            remembers := ⟨mine, rfl⟩
            sound := True.intro }
  | _ => cases messages

/-- A watch event: the process asks again. -/
theorem follows_event
    {event : WatchEvent}
    (follows : Follows server session client phase)
    (messages : .event event :: rest.filter acts = phase.messages)
    (called :
      callback (.event event) { client with inbox := rest } =
        some next) :
    ∃ nextPhase,
      Follows server session next nextPhase ∧
        nextPhase.returned = phase.returned ∧
          (next.announced = client.announced ∨
            ∃ seq, nextPhase = .releasing seq) := by
  cases phase with
  | woken seq expected =>
      rw [Phase.messages, List.cons.injEq, Message.event.injEq]
        at messages
      rcases messages with ⟨rfl, emptied⟩
      rcases zkWatcherDisconnect_cases called with
        ⟨_, rfl⟩ | ⟨different, _⟩
      · refine ⟨.asking seq, ?_, rfl, Or.inl rfl⟩
        exact
          { follows with
            requests := by
              simp [zooAgetChildren, send, follows.requests,
                Phase.requests]
            messages := emptied
            remembers := follows.remembers.1
            sound := True.intro }
      · exact absurd follows.remembers.2 different
  | _ => cases messages

/-- The delete reply: `main` may leave its loop. -/
theorem follows_deleted
    {rc : Int}
    (follows : Follows server session client phase)
    (messages : .deleted rc :: rest.filter acts = phase.messages) :
    ∃ nextPhase,
      Follows server session
          (zkDeleteLockRes1Children rc { client with inbox := rest })
          nextPhase ∧
        nextPhase.returned = phase.returned := by
  cases phase with
  | released seq expected =>
      rw [Phase.messages, List.cons.injEq] at messages
      refine ⟨.finished seq, ?_, rfl⟩
      exact
        { follows with
          messages := messages.2
          quit := rfl
          sound := True.intro }
  | _ => cases messages

/-- A delivered message moves its process on; announcing starts a release. -/
theorem follows_callback
    {message : Message}
    (follows : Follows server session client phase)
    (queued : client.inbox = message :: rest)
    (called :
      callback message { client with inbox := rest } = some next) :
    ∃ nextPhase,
      Follows server session next nextPhase ∧
        nextPhase.returned = phase.returned ++ returnedBy message ∧
          (next.announced = client.announced ∨
            ∃ seq, nextPhase = .releasing seq) := by
  have messages := follows.messages
  rw [queued] at messages
  cases message with
  | created rc value => exact follows_created follows messages called
  | children rc strings =>
      rw [returnedBy, List.append_nil]
      exact follows_children follows messages called
  | stat rc =>
      cases called
      rw [returnedBy, List.append_nil]
      exact
        ⟨phase, { follows with messages := messages }, rfl, Or.inl rfl⟩
  | deleted rc =>
      cases called
      rw [returnedBy, List.append_nil]
      rcases follows_deleted follows messages with
        ⟨nextPhase, moved, same⟩
      exact ⟨nextPhase, moved, same, Or.inl rfl⟩
  | event event =>
      rw [returnedBy, List.append_nil]
      exact follows_event follows messages called

end Callbacks

/-! ## Runs -/

/-- Session events only reach processes whose `zmt.watch` is set. -/
def watchIsSet (state : System) : Label → Bool
  | .session session => (state.clients session).zmt.watch ≠ []
  | _ => true

/-- A session event does not reach a process without a watch. -/
def WatchIsSet (state : System) (label : Label) : Prop :=
  watchIsSet state label = true

instance (state : System) (label : Label) :
    Decidable (WatchIsSet state label) :=
  inferInstanceAs (Decidable (_ = true))

/-- The paths that create replies have returned, session by session. -/
abbrev Returns := Nat → List Bytes

/-- A delivered create reply is noted. -/
def noteReturned (state : System) (label : Label) (returns : Returns) :
    Returns :=
  match label with
  | .deliver session =>
      match (state.clients session).inbox with
      | [] => returns
      | message :: _ =>
          Function.update returns session
            (returns session ++ returnedBy message)
  | _ => returns

/-- Every process is in a phase that agrees with what was returned to it. -/
def Tracks (returns : Returns) (state : System) : Prop :=
  state.Each fun server session client =>
    ∃ phase,
      Follows server session client phase ∧
        returns session = phase.returned

theorem Tracks.coherent {returns : Returns} {state : System}
    (tracks : Tracks returns state) : Coherent state := by
  intro session
  rcases tracks session with ⟨phase, follows, _⟩
  exact ⟨phase, follows⟩

theorem exists_tracks {state : System} (coherent : Coherent state) :
    ∃ returns, Tracks returns state := by
  choose phase follows using coherent
  exact
    ⟨fun session => (phase session).returned,
      fun session => ⟨phase session, follows session, rfl⟩⟩

theorem tracks_initial : Tracks (fun _ => []) System.initial := by
  intro session
  refine ⟨.outside, ?_, rfl⟩
  exact
    ⟨rfl, rfl, rfl, rfl, rfl, rfl, rfl, Or.inl rfl, True.intro, True.intro⟩

theorem tracks_apply
    {returns : Returns} {order : List Nat} {state : System} {session : Nat}
    {request : Request} {rest : List Request} {outcome : Outcome}
    (tracks : Tracks returns state)
    (queued : (state.clients session).requests = request :: rest)
    (handles : Handles order session state.server request outcome) :
    Tracks returns (state.apply session rest outcome) := by
  rcases tracks session with ⟨phase, follows, returned⟩
  intro other
  by_cases equal : other = session
  · subst other
    rcases follows_handles follows queued handles with
      ⟨nextPhase, moved, same⟩
    refine ⟨nextPhase, ?_, returned.trans same.symm⟩
    simpa [System.apply] using moved
  · rcases tracks other with ⟨otherPhase, otherFollows, otherReturned⟩
    have passes :=
      passes_handles handles (deletesOwn_of_follows follows queued) equal
    rcases follows_passes otherFollows passes with
      ⟨nextPhase, moved, same⟩
    refine ⟨nextPhase, ?_, otherReturned.trans same.symm⟩
    simpa [System.apply, equal] using moved

/-- An event with another path than the watched one is ignored. -/
theorem session_ignored
    {state : System} {session : Nat} {client : Client}
    (admitted : WatchIsSet state (.session session))
    (called :
      callback (.event sessionEvent) (state.clients session) =
        some client) :
    client = state.clients session := by
  rcases zkWatcherDisconnect_cases called with
    ⟨equal, _⟩ | ⟨_, same⟩
  · have set : (state.clients session).zmt.watch ≠ [] := by
      simpa [WatchIsSet, watchIsSet] using admitted
    exact absurd equal set
  · exact same

/-- Every admitted step leaves every process in a phase. -/
theorem tracks_step
    {returns : Returns} {state next : System} {label : Label}
    (tracks : Tracks returns state)
    (admitted : WatchIsSet state label)
    (taken : step state label = some next) :
    Tracks (noteReturned state label returns) next := by
  rcases step_cases taken with
    ⟨session, rfl, fresh, rfl⟩ | ⟨session, rfl, connected, rfl⟩ |
      ⟨session, order, request, rest, outcome, rfl, queued, handles, rfl⟩ |
      ⟨session, message, rest, client, rfl, callable, queued, called,
        rfl⟩ |
      ⟨session, client, rfl, callable, called, rfl⟩ |
      ⟨session, rfl, running, quitting, rfl⟩
  · apply Sessions.each_put tracks
    rcases tracks session with ⟨phase, follows, returned⟩
    have stage := follows.stage
    rw [fresh] at stage
    cases phase with
    | outside =>
        exact ⟨.outside, { follows with stage := Or.inr rfl }, returned⟩
    | _ => cases stage
  · apply Sessions.each_put tracks
    rcases tracks session with ⟨phase, follows, returned⟩
    have stage := follows.stage
    rw [connected] at stage
    cases phase with
    | outside =>
        refine ⟨.creating, ?_, returned⟩
        exact
          { follows with
            requests := by
              simp [zooAcreate, send, follows.requests, Phase.requests]
            stage := rfl }
    | _ => cases stage
  · exact tracks_apply tracks queued handles
  · simp only [noteReturned, queued]
    apply Sessions.each_put_of_others
    · intro other different
      rw [Function.update_of_ne different]
      exact tracks other
    · rcases tracks session with ⟨phase, follows, returned⟩
      rcases follows_callback follows queued called with
        ⟨nextPhase, moved, added, _⟩
      refine ⟨nextPhase, moved, ?_⟩
      rw [Function.update_self, returned, added]
  · apply Sessions.each_put tracks
    rw [session_ignored admitted called]
    exact tracks session
  · apply Sessions.each_put tracks
    rcases tracks session with ⟨phase, follows, returned⟩
    have stage := follows.stage
    have quit := follows.quit
    rw [running] at stage
    rw [quitting] at quit
    cases phase with
    | finished seq =>
        refine ⟨.closing seq, ?_, returned⟩
        exact
          { follows with
            requests := by
              simp [send, follows.requests, Phase.requests]
            stage := rfl }
    | closing seq => cases stage
    | closed seq => cases stage
    | _ => cases quit

theorem coherent_of_reachable
    {state : System} (reachable : Reachable WatchIsSet state) :
    Coherent state := by
  refine reachable.preserves tracks_initial.coherent ?_
  intro state label next coherent admitted taken
  rcases exists_tracks coherent with ⟨returns, tracks⟩
  exact (tracks_step tracks admitted taken).coherent

end ZnsBench.Zookeeper.LockPhases

import ZnsBench.Zookeeper.LockProtocol

/-!
# Waking the waiters of the lock

A process that does not hold the lock waits for a watch on the node before
its own.  `zk_watch_children` ignores the result of the existence check that
sets the watch, so a predecessor that goes between the listing and the check
leaves its successor waiting forever.  Every other part of the exchange keeps
a process alert: in every run in which each existence check finds its node,
no wakeup is lost, whatever session events arrive.
-/

namespace ZnsBench.Zookeeper.LockWakeup

open ZnsBench.Core.ByteString
open ZnsBench.Core.GuardedRun
open ZnsBench.Zookeeper.ZnodeServer
open ZnsBench.Zookeeper.LockProtocol

/-! ## Waiting -/

/-- A request, or a reply to one, is still under way. -/
def Outstanding (client : Client) : Prop :=
  client.requests ≠ [] ∨
    ∃ message ∈ client.inbox, ∀ event, message ≠ .event event

/-- The node that the process waits for exists, and its watch is set. -/
def WatchesLiveNode
    (server : Server) (session : Nat) (client : Client) : Prop :=
  client.zmt.watch ∈ server.watches session ∧
    server.hasNode nodePath client.zmt.watch = true

/-- The event that the process waits for is on its way. -/
def WakeupUndelivered (client : Client) : Prop :=
  ∃ event,
    Message.event event ∈ client.inbox ∧ event.path = client.zmt.watch

/-- The process has a node and has not announced the lock. -/
def Contends (state : System) (session : Nat) : Prop :=
  (state.clients session).announced = [] ∧
    state.server.owned session ≠ []

instance (state : System) (session : Nat) :
    Decidable (Contends state session) :=
  inferInstanceAs (Decidable (_ ∧ _))

/-- Every contender still has something that will make it go on. -/
def NoLostWakeup (state : System) : Prop :=
  ∀ session,
    Contends state session →
      Outstanding (state.clients session) ∨
        WatchesLiveNode state.server session (state.clients session) ∨
          WakeupUndelivered (state.clients session)

/--
A contender that has sent everything, and to which at most results of
existence checks are on their way, does not wait for a node that is gone.
-/
def NoneWaitsForGoneNode (state : System) : Prop :=
  ∀ session,
    Contends state session →
      (state.clients session).requests = [] →
        (∀ message ∈ (state.clients session).inbox,
          ∃ rc, message = .stat rc) →
          WatchesLiveNode state.server session (state.clients session)

/-- The existence checks of a step find their nodes. -/
def checksExistingNode (state : System) : Label → Bool
  | .serve session _ =>
      match (state.clients session).requests with
      | .aexists path :: _ => state.server.hasNode nodePath path
      | _ => true
  | _ => true

/-- A step does not look for a node that is gone. -/
def ChecksExistingNode (state : System) (label : Label) : Prop :=
  checksExistingNode state label = true

instance (state : System) (label : Label) :
    Decidable (ChecksExistingNode state label) :=
  inferInstanceAs (Decidable (_ = true))

/-! ## Alertness -/

/-- What will make a contender look at the children again. -/
inductive Alert
    (server : Server) (session : Nat) (client : Client) : Prop where
  | created (value : Bytes)
      (member : Message.created zok value ∈ client.inbox)
  | asking (member : Request.agetChildren ∈ client.requests)
  | deciding (strings : List Bytes)
      (member : Message.children zok strings ∈ client.inbox)
  | arming (member : Request.aexists client.zmt.watch ∈ client.requests)
  | waiting (watches : WatchesLiveNode server session client)
  | woken (undelivered : WakeupUndelivered client)

namespace Alert

variable {server : Server} {session : Nat} {client : Client}

/-- Queues may grow as long as the watched path stays. -/
theorem mono
    {grown : Client}
    (alert : Alert server session client)
    (watch : grown.zmt.watch = client.zmt.watch)
    (requests : client.requests ⊆ grown.requests)
    (inbox : client.inbox ⊆ grown.inbox) :
    Alert server session grown := by
  cases alert with
  | created value member => exact .created value (inbox member)
  | asking member => exact .asking (requests member)
  | deciding strings member => exact .deciding strings (inbox member)
  | arming member =>
      apply Alert.arming
      rw [watch]
      exact requests member
  | waiting watches =>
      apply Alert.waiting
      rw [WatchesLiveNode, watch]
      exact watches
  | woken undelivered =>
      rcases undelivered with ⟨event, member, path⟩
      exact .woken ⟨event, inbox member, path.trans watch.symm⟩

/-- The first request leaves the queue. -/
theorem pop
    {request : Request} {rest : List Request}
    (alert : Alert server session client)
    (queued : client.requests = request :: rest) :
    Alert server session { client with requests := rest } ∨
      request = .agetChildren ∨
        request = .aexists client.zmt.watch := by
  cases alert with
  | created value member => exact Or.inl (.created value member)
  | asking member =>
      rw [queued] at member
      rcases List.mem_cons.mp member with first | later
      · exact Or.inr (Or.inl first.symm)
      · exact Or.inl (.asking later)
  | deciding strings member => exact Or.inl (.deciding strings member)
  | arming member =>
      rw [queued] at member
      rcases List.mem_cons.mp member with first | later
      · exact Or.inr (Or.inr first.symm)
      · exact Or.inl (.arming later)
  | waiting watches => exact Or.inl (.waiting watches)
  | woken undelivered => exact Or.inl (.woken undelivered)

/-- The first message leaves the inbox. -/
theorem drop
    {message : Message} {rest : List Message}
    (alert : Alert server session client)
    (queued : client.inbox = message :: rest) :
    Alert server session { client with inbox := rest } ∨
      (∃ value, message = .created zok value) ∨
        (∃ strings, message = .children zok strings) ∨
          ∃ event, message = .event event ∧
            event.path = client.zmt.watch := by
  cases alert with
  | created value member =>
      rw [queued] at member
      rcases List.mem_cons.mp member with first | later
      · exact Or.inr (Or.inl ⟨value, first.symm⟩)
      · exact Or.inl (.created value later)
  | asking member => exact Or.inl (.asking member)
  | deciding strings member =>
      rw [queued] at member
      rcases List.mem_cons.mp member with first | later
      · exact Or.inr (Or.inr (Or.inl ⟨strings, first.symm⟩))
      · exact Or.inl (.deciding strings later)
  | arming member => exact Or.inl (.arming member)
  | waiting watches => exact Or.inl (.waiting watches)
  | woken undelivered =>
      rcases undelivered with ⟨event, member, path⟩
      rw [queued] at member
      rcases List.mem_cons.mp member with first | later
      · exact Or.inr (Or.inr (Or.inr ⟨event, first.symm, path⟩))
      · exact Or.inl (.woken ⟨event, later, path⟩)

end Alert

/-! ## The server's part -/

/-- A watch that goes leaves its event behind. -/
theorem Alert.relay
    {server next : Server} {session : Nat} {client : Client}
    {events : List WatchEvent}
    (alert : Alert server session client)
    (relays : Relays nodePath server next session events)
    (reply : List Message) :
    Alert next session
      (receive (events.map Message.event ++ reply) client) := by
  have grows :
      client.inbox ⊆
        (receive (events.map Message.event ++ reply) client).inbox :=
    List.subset_append_left _ _
  cases alert with
  | created value member => exact .created value (grows member)
  | asking member => exact .asking member
  | deciding strings member => exact .deciding strings (grows member)
  | arming member => exact .arming member
  | waiting watches =>
      rcases relays _ watches.1 watches.2 with stays | sent
      · exact .waiting stays
      · apply Alert.woken
        refine ⟨⟨.deleted, client.zmt.watch⟩, ?_, rfl⟩
        apply List.mem_append_right
        apply List.mem_append_left
        exact List.mem_map_of_mem sent
  | woken undelivered =>
      rcases undelivered with ⟨event, member, path⟩
      exact .woken ⟨event, grows member, path⟩

/-- Handling a request relays the watches of the other sessions. -/
theorem relays_handles
    {order : List Nat} {session other : Nat} {server : Server}
    {request : Request} {outcome : Outcome}
    (handles : Handles order session server request outcome)
    (different : other ≠ session) :
    Relays nodePath server outcome.server other
      (outcome.events other) := by
  cases handles with
  | acreate room =>
      exact relays_create nodePath nodePath_inj server session other room
  | agetChildren listed => exact relays_refl nodePath server other
  | aexists path => exact relays_watch nodePath server other session path
  | adelete path => exact relays_remove nodePath server _ other
  | close => exact relays_closeSession nodePath different server

/-! ## The process's part -/

/-- A listing makes the process announce, or set out to watch. -/
theorem announced_or_arming_of_children
    (strings : List Bytes) (client : Client) :
    (zkGetChildrenLockRes1 zok strings client).announced ≠ [] ∨
      Request.aexists
          (zkGetChildrenLockRes1 zok strings client).zmt.watch ∈
        (zkGetChildrenLockRes1 zok strings client).requests := by
  rcases zkGetChildrenLockRes1_cases strings client with
    ⟨_, equal⟩ | ⟨_, equal⟩
  · left
    rw [equal]
    simp [zooAdelete, send, announce]
  · right
    rw [equal]
    simp [zooAexists, send]

/-- The reply to the create makes the process announce, or ask. -/
theorem announced_or_asking_of_created
    {value : Bytes} {client next : Client}
    (called : zkCreateLockRes1Es 0 zok value client = some next) :
    next.announced ≠ [] ∨ Request.agetChildren ∈ next.requests := by
  rcases zkCreateLockRes1Es_cases rfl called with
    ⟨_, rfl⟩ | ⟨_, rfl⟩
  · right
    simp [zooAgetChildren, send]
  · left
    simp [zooAdelete, send, announce]

/-- Watch events never make a process less alert. -/
theorem alert_watcher
    {server : Server} {session : Nat} {event : WatchEvent}
    {client next : Client}
    (alert :
      Alert server session client ∨ event.path = client.zmt.watch)
    (called : zkWatcherDisconnect 0 event client = some next) :
    Alert server session next := by
  rcases zkWatcherDisconnect_cases called with
    ⟨_, rfl⟩ | ⟨different, rfl⟩
  · apply Alert.asking
    simp [zooAgetChildren, send]
  · rcases alert with alert | equal
    · exact alert
    · exact absurd equal.symm different

/-- A delivered message leaves a contender alert. -/
theorem alert_callback
    {server : Server} {session : Nat} {message : Message}
    {rest : List Message} {client next : Client}
    (alert : Alert server session client)
    (queued : client.inbox = message :: rest)
    (called :
      callback message { client with inbox := rest } = some next)
    (unannounced : next.announced = []) :
    Alert server session next := by
  have dropped := alert.drop queued
  cases message with
  | created rc value =>
      by_cases ok : rc = zok
      · subst rc
        rcases announced_or_asking_of_created called with
          announced | asking
        · exact absurd unannounced announced
        · exact .asking asking
      · rw [(callback_failed ok value [] _).1] at called
        cases called
        rcases dropped with
          kept | ⟨value, equal⟩ | ⟨strings, equal⟩ | ⟨event, equal, path⟩
        · exact kept
        · exact absurd (Message.created.inj equal).1 ok
        · cases equal
        · cases equal
  | children rc strings =>
      by_cases ok : rc = zok
      · subst rc
        cases called
        rcases announced_or_arming_of_children strings
            { client with inbox := rest } with
          announced | arming
        · exact absurd unannounced announced
        · exact .arming arming
      · rw [(callback_failed ok [] strings _).2] at called
        cases called
        rcases dropped with
          kept | ⟨value, equal⟩ | ⟨strings, equal⟩ | ⟨event, equal, path⟩
        · exact kept
        · cases equal
        · exact absurd (Message.children.inj equal).1 ok
        · cases equal
  | stat rc =>
      cases called
      rcases dropped with
        kept | ⟨value, equal⟩ | ⟨strings, equal⟩ | ⟨event, equal, path⟩
      · exact kept
      · cases equal
      · cases equal
      · cases equal
  | deleted rc =>
      cases called
      rcases dropped with
        kept | ⟨value, equal⟩ | ⟨strings, equal⟩ | ⟨event, equal, path⟩
      · exact
          kept.mono rfl (List.Subset.refl _) (List.Subset.refl _)
      · cases equal
      · cases equal
      · cases equal
  | event event =>
      refine alert_watcher ?_ called
      rcases dropped with
        kept | ⟨value, equal⟩ | ⟨strings, equal⟩ | ⟨found, equal, path⟩
      · exact Or.inl kept
      · cases equal
      · cases equal
      · cases equal
        exact Or.inr path

/-! ## The invariant -/

/-- Every contender is alert. -/
def Vigilant (state : System) : Prop :=
  state.Each fun server session client =>
    client.announced = [] ∧ server.owned session ≠ [] →
      Alert server session client

/-- Queues may grow as long as nothing else changes. -/
theorem vigilant_grow
    {state : System} {session : Nat} {client : Client}
    (vigilant : Vigilant state)
    (announced :
      client.announced = (state.clients session).announced)
    (watch : client.zmt.watch = (state.clients session).zmt.watch)
    (requests : (state.clients session).requests ⊆ client.requests)
    (inbox : (state.clients session).inbox ⊆ client.inbox) :
    Vigilant (state.put session client) := by
  apply Sessions.each_put vigilant
  intro contends
  rw [announced] at contends
  exact (vigilant session contends).mono watch requests inbox

/-- The session whose request is handled stays alert. -/
theorem alert_handles_own
    {order : List Nat} {session : Nat} {server : Server}
    {client : Client} {request : Request} {rest : List Request}
    {outcome : Outcome}
    (alert : server.owned session ≠ [] → Alert server session client)
    (found :
      ∀ path, request = .aexists path →
        server.hasNode nodePath path = true)
    (queued : client.requests = request :: rest)
    (handles : Handles order session server request outcome)
    (owned : outcome.server.owned session ≠ []) :
    Alert outcome.server session
      (receive
        ((outcome.events session).map Message.event ++ outcome.reply)
        { client with requests := rest }) := by
  cases handles with
  | acreate room =>
      apply Alert.created (nodePath server.next)
      simp [receive]
  | agetChildren listed =>
      apply Alert.deciding (order.map nodeName)
      simp [receive]
  | aexists path =>
      rcases (alert owned).pop queued with kept | equal | equal
      · exact
          kept.relay (relays_watch nodePath server session session path) _
      · cases equal
      · cases equal
        exact .waiting ⟨Server.mem_watch_self _ _ _, found _ rfl⟩
  | adelete path =>
      have before : server.owned session ≠ [] := by
        intro none
        apply owned
        rw [← List.subset_nil, ← none]
        exact Server.owned_remove_subset
      rcases (alert before).pop queued with kept | equal | equal
      · exact kept.relay (relays_remove nodePath server _ session) _
      · cases equal
      · cases equal
  | close => exact absurd Server.owned_closeSession_self owned

/-- A handled request leaves every contender alert. -/
theorem vigilant_apply
    {order : List Nat} {session : Nat} {state : System}
    {request : Request} {rest : List Request} {outcome : Outcome}
    (vigilant : Vigilant state)
    (found :
      ∀ path, request = .aexists path →
        state.server.hasNode nodePath path = true)
    (queued : (state.clients session).requests = request :: rest)
    (handles : Handles order session state.server request outcome) :
    Vigilant (state.apply session rest outcome) := by
  rintro other ⟨unannounced, owned⟩
  by_cases equal : other = session
  · subst other
    simp only [System.apply, if_true, receive] at unannounced
    have alert :=
      alert_handles_own
        (fun owned => vigilant session ⟨unannounced, owned⟩) found queued
        handles owned
    simpa [System.apply] using alert
  · simp only [System.apply, if_neg equal, receive] at unannounced
    have before : state.server.owned other ≠ [] := by
      intro none
      apply owned
      have subset :=
        owned_handles_subset handles fun same => absurd same equal
      rw [none] at subset
      exact List.subset_nil.mp subset
    have alert :=
      (vigilant other ⟨unannounced, before⟩).relay
        (relays_handles handles equal) []
    simpa [System.apply, equal] using alert

/-- A step whose existence check finds its node keeps everyone alert. -/
theorem vigilant_step
    {state next : System} {label : Label}
    (vigilant : Vigilant state)
    (admitted : ChecksExistingNode state label)
    (taken : step state label = some next) :
    Vigilant next := by
  rcases step_cases taken with
    ⟨session, rfl, fresh, rfl⟩ | ⟨session, rfl, connected, rfl⟩ |
      ⟨session, order, request, rest, outcome, rfl, queued, handles, rfl⟩ |
      ⟨session, message, rest, client, rfl, callable, queued, called,
        rfl⟩ |
      ⟨session, client, rfl, callable, called, rfl⟩ |
      ⟨session, rfl, running, quitting, rfl⟩
  · exact
      vigilant_grow vigilant rfl rfl (List.Subset.refl _)
        (List.Subset.refl _)
  · exact
      vigilant_grow vigilant rfl rfl (List.subset_append_left _ _)
        (List.Subset.refl _)
  · refine vigilant_apply vigilant ?_ queued handles
    rintro path rfl
    simpa only [ChecksExistingNode, checksExistingNode, queued]
      using admitted
  · apply Sessions.each_put vigilant
    rintro ⟨unannounced, owned⟩
    have announced := announced_callback called
    rw [unannounced] at announced
    have alert :=
      vigilant session ⟨List.prefix_nil.mp announced, owned⟩
    exact alert_callback alert queued called unannounced
  · apply Sessions.each_put vigilant
    rintro ⟨unannounced, owned⟩
    have announced := announced_callback called
    rw [unannounced] at announced
    have alert :=
      vigilant session ⟨List.prefix_nil.mp announced, owned⟩
    exact alert_watcher (Or.inl alert) called
  · exact
      vigilant_grow vigilant rfl rfl (List.subset_append_left _ _)
        (List.Subset.refl _)

theorem vigilant_of_reachable
    {state : System} (reachable : Reachable ChecksExistingNode state) :
    Vigilant state := by
  refine reachable.preserves ?_ ?_
  · intro session contends
    exact absurd rfl contends.2
  · intro state label next vigilant admitted taken
    exact vigilant_step vigilant admitted taken

theorem noLostWakeup_of_vigilant
    {state : System} (vigilant : Vigilant state) : NoLostWakeup state := by
  intro session contends
  cases vigilant session contends with
  | created value member =>
      exact Or.inl (Or.inr ⟨_, member, fun _ equal => by cases equal⟩)
  | asking member =>
      exact Or.inl (Or.inl (List.ne_nil_of_mem member))
  | deciding strings member =>
      exact Or.inl (Or.inr ⟨_, member, fun _ equal => by cases equal⟩)
  | arming member =>
      exact Or.inl (Or.inl (List.ne_nil_of_mem member))
  | waiting watches => exact Or.inr (Or.inl watches)
  | woken undelivered => exact Or.inr (Or.inr undelivered)

theorem noneWaitsForGoneNode_of_vigilant
    {state : System} (vigilant : Vigilant state) :
    NoneWaitsForGoneNode state := by
  intro session contends noRequests onlyStats
  cases vigilant session contends with
  | created value member =>
      rcases onlyStats _ member with ⟨rc, equal⟩
      cases equal
  | asking member =>
      rw [noRequests] at member
      cases member
  | deciding strings member =>
      rcases onlyStats _ member with ⟨rc, equal⟩
      cases equal
  | arming member =>
      rw [noRequests] at member
      cases member
  | waiting watches => exact watches
  | woken undelivered =>
      rcases undelivered with ⟨event, member, path⟩
      rcases onlyStats _ member with ⟨rc, equal⟩
      cases equal

/-! ## The result -/

/--
In every run in which each existence check is handled while its node exists,
for any number of processes and whatever session events arrive, no wakeup is
lost and nobody waits for a node that is gone.
-/
theorem no_wakeup_lost_while_checks_find_nodes
    (state : System) (reachable : Reachable ChecksExistingNode state) :
    NoLostWakeup state ∧ NoneWaitsForGoneNode state := by
  have vigilant := vigilant_of_reachable reachable
  constructor
  · exact noLostWakeup_of_vigilant vigilant
  · exact noneWaitsForGoneNode_of_vigilant vigilant

/-- The second of two processes waits for the first. -/
theorem no_wakeup_lost_two_processes :
    ∃ state,
      Reachable ChecksExistingNode state ∧
        Contends state 1 ∧
          (state.clients 1).zmt.watch = nodePath 0 ∧
            NoLostWakeup state ∧ NoneWaitsForGoneNode state := by
  have replayed :
      ∃ state,
        Reachable ChecksExistingNode state ∧
          Contends state 1 ∧
            (state.clients 1).zmt.watch = nodePath 0 :=
    Run.exists_of_replay _
      [.start 0, .submit 0, .serve 0 [], .start 1, .submit 1, .serve 1 [],
        .deliver 1, .serve 1 [1, 0], .deliver 1, .serve 1 [], .deliver 1]
      (by decide +kernel)
  rcases replayed with ⟨state, reached, contends, watch⟩
  exact
    ⟨state, reached, contends, watch,
      no_wakeup_lost_while_checks_find_nodes state reached⟩

/--
The first process releases the lock after the second has listed the children
and before its existence check is handled: the second waits for nothing.
-/
theorem wakeup_lost_between_listing_and_check :
    ∃ state,
      Reachable Unrestricted state ∧
        Contends state 1 ∧
          (state.clients 1).requests = [] ∧
            (state.clients 1).inbox = [] ∧
              ¬ NoLostWakeup state := by
  have replayed :
      ∃ state,
        Reachable Unrestricted state ∧
          Contends state 1 ∧
            (state.clients 1).requests = [] ∧
              (state.clients 1).inbox = [] ∧
                state.server.hasNode nodePath
                    (state.clients 1).zmt.watch = false :=
    Run.exists_of_replay _
      [.start 0, .submit 0, .serve 0 [], .start 1, .submit 1, .serve 1 [],
        .deliver 1, .serve 1 [0, 1], .deliver 1, .deliver 0, .serve 0 [],
        .serve 1 [], .deliver 1]
      (by decide +kernel)
  rcases replayed with
    ⟨state, reached, contends, noRequests, noMessages, gone⟩
  refine ⟨state, reached, contends, noRequests, noMessages, ?_⟩
  intro kept
  rcases kept 1 contends with outstanding | watches | undelivered
  · rcases outstanding with requests | ⟨message, member, _⟩
    · exact requests noRequests
    · rw [noMessages] at member
      cases member
  · rw [watches.2] at gone
    cases gone
  · rcases undelivered with ⟨event, member, _⟩
    rw [noMessages] at member
    cases member

end ZnsBench.Zookeeper.LockWakeup

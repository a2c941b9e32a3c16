import ZnsBench.Core.GuardedRun
import ZnsBench.Zookeeper.Sessions

/-!
# The distributed lock

Model of `zklock.cc`: any number of processes run `main` and its completion
callbacks against one server.

* Every `zoo_a…` call appends a request to the process's session.  The server
  handles the requests of one session in order, and the replies and watch
  events of one session reach its callbacks in the order in which the server
  sent them, one at a time.
* Session events call the watcher with the empty path, at any moment between
  `zookeeper_init` and `zookeeper_close`.
* No session expires.  `zookeeper_init` and the `zoo_a…` calls succeed; the
  callbacks keep their `exit` branch, for a non-zero result of the call.

`announced` and `deletes` record what a process printed as acquired and the
paths it passed to `zoo_adelete`.
-/

namespace ZnsBench.Zookeeper.LockProtocol

open ZnsBench.Core.ByteString
open ZnsBench.Core.GuardedRun
open ZnsBench.Core.PaddedDecimal
open ZnsBench.Zookeeper.ZnodeServer

/-! ## Names -/

/-- The parent of the nodes of the lock, with the slash. -/
def lockDirectory : Bytes := ascii "/lock/res1/"

/-- The name that a sequential create gives a node: `%010d`. -/
def nodeName (seq : Nat) : Bytes := padded 10 seq

/-- The path of the node with a number. -/
def nodePath (seq : Nat) : Bytes := lockDirectory ++ nodeName seq

theorem scanInt_nodeName {seq : Nat} (small : seq < counterLimit) :
    scanInt (nodeName seq) = some (seq : Int) :=
  scanInt_padded (fits_of_lt_counterLimit small)

/-- The number in a path is read back. -/
theorem scanIntAfter_nodePath {seq : Nat} (small : seq < counterLimit) :
    scanIntAfter lockDirectory (nodePath seq) = some (seq : Int) := by
  rw [nodePath, scanIntAfter_append, scanInt_nodeName small]

theorem nodePath_inj
    {first second : Nat}
    (firstSmall : first < counterLimit)
    (secondSmall : second < counterLimit) :
    nodePath first = nodePath second ↔ first = second := by
  rw [nodePath, nodePath, List.append_cancel_left_eq]
  exact
    padded_inj (fits_of_lt_counterLimit firstSmall)
      (fits_of_lt_counterLimit secondSmall)

/-! ## A process -/

/-- `zk_mutex_t`. -/
structure ZkMutex where
  seqMe : Int
  seqWatch : Int
  watch : Bytes
deriving DecidableEq, Repr

/-- The requests a session sends. -/
inductive Request where
  | acreate
  | agetChildren
  | aexists (path : Bytes)
  | adelete (path : Bytes)
  | close
deriving DecidableEq, Repr

/-- What the client library hands to the callbacks. -/
inductive Message where
  | created (rc : Int) (value : Bytes)
  | children (rc : Int) (strings : List Bytes)
  | stat (rc : Int)
  | deleted (rc : Int)
  | event (event : WatchEvent)
deriving DecidableEq, Repr

/-- Where `main` is. -/
inductive Stage where
  | fresh
  | connected
  | running
  | closed
deriving DecidableEq, Repr

/-- A process that takes the lock, with what it did so far. -/
structure Client where
  zmt : ZkMutex
  quit : Bool
  stage : Stage
  requests : List Request
  inbox : List Message
  announced : List Bytes
  deletes : List Bytes
deriving DecidableEq, Repr

/-- A process that has not been started. -/
def Client.fresh : Client :=
  ⟨⟨0, 0, []⟩, false, .fresh, [], [], [], []⟩

/-- A request is put on its way. -/
def send (request : Request) (client : Client) : Client :=
  { client with requests := client.requests ++ [request] }

/-- `zoo_acreate` -/
def zooAcreate (client : Client) : Client := send .acreate client

/-- `zoo_aget_children` -/
def zooAgetChildren (client : Client) : Client :=
  send .agetChildren client

/-- `zoo_aexists` with a watch. -/
def zooAexists (path : Bytes) (client : Client) : Client :=
  send (.aexists path) client

/-- `zoo_adelete` -/
def zooAdelete (path : Bytes) (client : Client) : Client :=
  send (.adelete path)
    { client with deletes := client.deletes ++ [path] }

/-- The line that tells that the lock was acquired. -/
def announce (path : Bytes) (client : Client) : Client :=
  { client with announced := client.announced ++ [path] }

/-! ## The callbacks -/

/-- `zk_delete_lock_res1_children`, which ignores its result. -/
def zkDeleteLockRes1Children (_rc : Int) (client : Client) : Client :=
  { client with quit := true }

/-- Only prints. -/
def zkWatchChildren (_rc : Int) (client : Client) : Client := client

/-- The local variables of the loop over the children. -/
structure ScanState where
  v : Int
  n : Nat
  seqWatch : Int
  valueSelf : Option Bytes
  valueOther : Option Bytes
deriving DecidableEq, Repr

/-- One iteration of the loop; a failed conversion leaves `v` as it was. -/
def scanChild (seqMe : Int) (scan : ScanState) (name : Bytes) :
    ScanState :=
  let v := (scanInt name).getD scan.v
  if v < seqMe then
    if scan.n = 0 then
      ⟨v, scan.n + 1, v, scan.valueSelf, some name⟩
    else if v > scan.seqWatch then
      ⟨v, scan.n + 1, v, scan.valueSelf, some name⟩
    else
      { scan with v := v }
  else if v = seqMe then
    { scan with v := v, valueSelf := some name }
  else
    { scan with v := v }

/-- The loop; `v` is indeterminate before the first conversion. -/
def scanChildren (zmt : ZkMutex) (strings : List Bytes) : ScanState :=
  strings.foldl (scanChild zmt.seqMe) ⟨0, 0, zmt.seqWatch, none, none⟩

/-- `sprintf(…, "/lock/res1/%s", value)`, where a null pointer is printed. -/
def lockPath (value : Option Bytes) : Bytes :=
  lockDirectory ++ value.getD (ascii "(null)")

/-- `zk_get_children_lock_res1` -/
def zkGetChildrenLockRes1
    (rc : Int) (strings : List Bytes) (client : Client) : Client :=
  if rc = 0 then
    let scan := scanChildren client.zmt strings
    let client :=
      { client with
        zmt := { client.zmt with seqWatch := scan.seqWatch } }
    if scan.n = 0 then
      let temp := lockPath scan.valueSelf
      zooAdelete temp (announce temp client)
    else
      let watch := lockPath scan.valueOther
      zooAexists watch
        { client with zmt := { client.zmt with watch := watch } }
  else
    client

/-- `none` is `exit(EXIT_FAILURE)`. -/
def zkCreateLockRes1Es
    (ret rc : Int) (value : Bytes) (client : Client) : Option Client :=
  if rc = 0 then
    let seq := (scanIntAfter lockDirectory value).getD 0
    let client :=
      { client with zmt := { client.zmt with seqMe := seq } }
    if seq > 0 then
      if ret ≠ 0 then none else some (zooAgetChildren client)
    else
      some (zooAdelete value (announce value client))
  else
    some client

/-- The type of the event is not looked at. -/
def zkWatcherDisconnect
    (ret : Int) (event : WatchEvent) (client : Client) : Option Client :=
  if client.zmt.watch = event.path then
    if ret ≠ 0 then none else some (zooAgetChildren client)
  else
    some client

/-- The callback of a message; the calls it makes succeed. -/
def callback (message : Message) (client : Client) : Option Client :=
  match message with
  | .created rc value => zkCreateLockRes1Es 0 rc value client
  | .children rc strings =>
      some (zkGetChildrenLockRes1 rc strings client)
  | .stat rc => some (zkWatchChildren rc client)
  | .deleted rc => some (zkDeleteLockRes1Children rc client)
  | .event event => zkWatcherDisconnect 0 event client

/-- The event that tells a change of the session's state. -/
def sessionEvent : WatchEvent := ⟨.session, []⟩

/-! ## The server's side -/

/-- What handling a request changes. -/
structure Outcome where
  server : Server
  events : Nat → List WatchEvent
  reply : List Message

/--
The server handles a request of a session.  `order` is the order in which it
lists the children, which is not specified.
-/
def handle
    (order : List Nat) (session : Nat) (server : Server) :
    Request → Option Outcome
  | .acreate =>
      if room : server.next < counterLimit then
        some
          ⟨server.create nodePath session room,
            server.createEvents nodePath,
            [.created zok (nodePath server.next)]⟩
      else
        none
  | .agetChildren =>
      if order.isPerm (server.children.map Znode.seq) then
        some
          ⟨server, fun _ => [], [.children zok (order.map nodeName)]⟩
      else
        none
  | .aexists path =>
      some
        ⟨server.watch session path, fun _ => [],
          [.stat (if server.hasNode nodePath path then zok else znonode)]⟩
  | .adelete path =>
      some
        ⟨server.remove nodePath (Server.atPath nodePath path),
          server.removeEvents nodePath (Server.atPath nodePath path),
          [.deleted
            (if server.hasNode nodePath path then zok else znonode)]⟩
  | .close =>
      some
        ⟨server.closeSession nodePath session,
          server.removeEvents nodePath (Server.ownedBy session), []⟩

/-! ## Runs -/

/-- The processes and the server. -/
abbrev System := Sessions Client

/-- An empty server and processes that have not started. -/
def System.initial : System := ⟨Server.empty, fun _ => Client.fresh⟩

/-- A session receives messages. -/
def receive (messages : List Message) (client : Client) : Client :=
  { client with inbox := client.inbox ++ messages }

/-- The request leaves its queue; its events and its reply are sent. -/
def System.apply
    (state : System) (session : Nat) (rest : List Request)
    (outcome : Outcome) : System where
  server := outcome.server
  clients := fun other =>
    if other = session then
      receive
        ((outcome.events other).map Message.event ++ outcome.reply)
        { state.clients other with requests := rest }
    else
      receive ((outcome.events other).map Message.event)
        (state.clients other)

/-- What can happen next in a session. -/
inductive Label where
  | start (session : Nat)
  | submit (session : Nat)
  | serve (session : Nat) (order : List Nat)
  | deliver (session : Nat)
  | session (session : Nat)
  | close (session : Nat)
deriving DecidableEq, Repr

/-- Callbacks run between `zookeeper_init` and `zookeeper_close`. -/
def Stage.callable (stage : Stage) : Bool :=
  stage = .connected || stage = .running

/-- The transitions of the processes and of the server. -/
def step (state : System) : Label → Option System
  | .start session =>
      if (state.clients session).stage = .fresh then
        some
          (state.put session
            { state.clients session with stage := .connected })
      else
        none
  | .submit session =>
      if (state.clients session).stage = .connected then
        some
          (state.put session
            { zooAcreate (state.clients session) with
              stage := .running })
      else
        none
  | .serve session order =>
      match (state.clients session).requests with
      | [] => none
      | request :: rest =>
          (handle order session state.server request).map
            (state.apply session rest)
  | .deliver session =>
      match (state.clients session).inbox with
      | [] => none
      | message :: rest =>
          if (state.clients session).stage.callable then
            (callback message
                { state.clients session with inbox := rest }).map
              (state.put session)
          else
            none
  | .session session =>
      if (state.clients session).stage.callable then
        (callback (.event sessionEvent) (state.clients session)).map
          (state.put session)
      else
        none
  | .close session =>
      if (state.clients session).stage = .running ∧
          (state.clients session).quit = true then
        some
          (state.put session
            { send .close (state.clients session) with
              stage := .closed })
      else
        none

/-- The states of runs whose events meet an assumption. -/
def Reachable
    (allowed : System → Label → Prop) (state : System) : Prop :=
  Run step allowed System.initial state

/-! ## What a step can do -/

/-- The ways in which the server handles a request. -/
inductive Handles (order : List Nat) (session : Nat) (server : Server) :
    Request → Outcome → Prop where
  | acreate (room : server.next < counterLimit) :
      Handles order session server .acreate
        ⟨server.create nodePath session room,
          server.createEvents nodePath,
          [.created zok (nodePath server.next)]⟩
  | agetChildren
      (listed : order.Perm (server.children.map Znode.seq)) :
      Handles order session server .agetChildren
        ⟨server, fun _ => [], [.children zok (order.map nodeName)]⟩
  | aexists (path : Bytes) :
      Handles order session server (.aexists path)
        ⟨server.watch session path, fun _ => [],
          [.stat (if server.hasNode nodePath path then zok else znonode)]⟩
  | adelete (path : Bytes) :
      Handles order session server (.adelete path)
        ⟨server.remove nodePath (Server.atPath nodePath path),
          server.removeEvents nodePath (Server.atPath nodePath path),
          [.deleted
            (if server.hasNode nodePath path then zok else znonode)]⟩
  | close :
      Handles order session server .close
        ⟨server.closeSession nodePath session,
          server.removeEvents nodePath (Server.ownedBy session), []⟩

theorem handles_of_handle
    {order : List Nat} {session : Nat} {server : Server}
    {request : Request} {outcome : Outcome}
    (handled : handle order session server request = some outcome) :
    Handles order session server request outcome := by
  cases request with
  | acreate =>
      simp only [handle] at handled
      split at handled
      · cases handled
        exact .acreate _
      · cases handled
  | agetChildren =>
      simp only [handle] at handled
      split at handled
      · rename_i permuted
        cases handled
        exact .agetChildren (List.isPerm_iff.mp permuted)
      · cases handled
  | aexists path =>
      cases handled
      exact .aexists path
  | adelete path =>
      cases handled
      exact .adelete path
  | close =>
      cases handled
      exact .close

/-- Handling a request only removes nodes, or adds one with a new number. -/
theorem evolves_handles
    {order : List Nat} {session : Nat} {server : Server}
    {request : Request} {outcome : Outcome}
    (handles : Handles order session server request outcome) :
    Server.Evolves server outcome.server := by
  cases handles with
  | acreate room => exact Server.evolves_create
  | agetChildren listed => exact fun _ member => Or.inl member
  | aexists path => exact fun _ member => Or.inl member
  | adelete path => exact Server.evolves_remove
  | close => exact Server.evolves_closeSession

/-- Numbers are handed out in increasing order. -/
theorem next_le_handles
    {order : List Nat} {session : Nat} {server : Server}
    {request : Request} {outcome : Outcome}
    (handles : Handles order session server request outcome) :
    server.next ≤ outcome.server.next := by
  cases handles with
  | acreate room => exact Nat.le_succ _
  | agetChildren listed => exact le_refl _
  | aexists path => exact le_refl _
  | adelete path => exact le_refl _
  | close => exact le_refl _

/-- Only its own create gives a session a node. -/
theorem owned_handles_subset
    {order : List Nat} {session other : Nat} {server : Server}
    {request : Request} {outcome : Outcome}
    (handles : Handles order session server request outcome)
    (foreign : other = session → request ≠ .acreate) :
    outcome.server.owned other ⊆ server.owned other := by
  intro seq member
  cases handles with
  | acreate room =>
      have different : session ≠ other :=
        fun same => foreign same.symm rfl
      rw [Server.owned_create, if_neg different, List.append_nil] at member
      exact member
  | agetChildren listed => exact member
  | aexists path => exact member
  | adelete path => exact Server.owned_remove_subset member
  | close =>
      rw [Server.mem_owned] at member ⊢
      exact (Server.mem_children_closeSession.mp member).1

theorem step_cases
    {state next : System} {label : Label}
    (taken : step state label = some next) :
    (∃ session, label = .start session ∧
      (state.clients session).stage = .fresh ∧
        next = state.put session
          { state.clients session with stage := .connected }) ∨
    (∃ session, label = .submit session ∧
      (state.clients session).stage = .connected ∧
        next = state.put session
          { zooAcreate (state.clients session) with
            stage := .running }) ∨
    (∃ session order request rest outcome,
      label = .serve session order ∧
        (state.clients session).requests = request :: rest ∧
          Handles order session state.server request outcome ∧
            next = state.apply session rest outcome) ∨
    (∃ session message rest client,
      label = .deliver session ∧
        (state.clients session).stage.callable = true ∧
          (state.clients session).inbox = message :: rest ∧
            callback message
                { state.clients session with inbox := rest } =
              some client ∧
              next = state.put session client) ∨
    (∃ session client,
      label = .session session ∧
        (state.clients session).stage.callable = true ∧
          callback (.event sessionEvent) (state.clients session) =
            some client ∧
            next = state.put session client) ∨
    (∃ session, label = .close session ∧
      (state.clients session).stage = .running ∧
        (state.clients session).quit = true ∧
          next = state.put session
            { send .close (state.clients session) with
              stage := .closed }) := by
  cases label with
  | start session =>
      simp only [step] at taken
      split at taken
      · cases taken
        exact Or.inl ⟨session, rfl, by assumption, rfl⟩
      · cases taken
  | submit session =>
      simp only [step] at taken
      split at taken
      · cases taken
        exact Or.inr (Or.inl ⟨session, rfl, by assumption, rfl⟩)
      · cases taken
  | serve session order =>
      simp only [step] at taken
      split at taken
      · cases taken
      · rename_i request rest queued
        rcases Option.map_eq_some_iff.mp taken with
          ⟨outcome, handled, rfl⟩
        refine Or.inr (Or.inr (Or.inl ?_))
        exact
          ⟨session, order, request, rest, outcome, rfl, queued,
            handles_of_handle handled, rfl⟩
  | deliver session =>
      simp only [step] at taken
      split at taken
      · cases taken
      · rename_i message rest queued
        split at taken
        · rcases Option.map_eq_some_iff.mp taken with
            ⟨client, called, rfl⟩
          refine Or.inr (Or.inr (Or.inr (Or.inl ?_)))
          exact
            ⟨session, message, rest, client, rfl, by assumption, queued,
              called, rfl⟩
        · cases taken
  | session session =>
      simp only [step] at taken
      split at taken
      · rcases Option.map_eq_some_iff.mp taken with
          ⟨client, called, rfl⟩
        refine Or.inr (Or.inr (Or.inr (Or.inr (Or.inl ?_))))
        exact ⟨session, client, rfl, by assumption, called, rfl⟩
      · cases taken
  | close session =>
      simp only [step] at taken
      split at taken
      · rename_i quitting
        cases taken
        refine Or.inr (Or.inr (Or.inr (Or.inr (Or.inr ?_))))
        exact ⟨session, rfl, quitting.1, quitting.2, rfl⟩
      · cases taken

/-! ## What a callback can do -/

theorem zkGetChildrenLockRes1_cases
    (strings : List Bytes) (client : Client) :
    ((scanChildren client.zmt strings).n = 0 ∧
      zkGetChildrenLockRes1 zok strings client =
        zooAdelete (lockPath (scanChildren client.zmt strings).valueSelf)
          (announce
            (lockPath (scanChildren client.zmt strings).valueSelf)
            { client with
              zmt :=
                { client.zmt with
                  seqWatch :=
                    (scanChildren client.zmt strings).seqWatch } })) ∨
    ((scanChildren client.zmt strings).n ≠ 0 ∧
      zkGetChildrenLockRes1 zok strings client =
        zooAexists
          (lockPath (scanChildren client.zmt strings).valueOther)
          { client with
            zmt :=
              { client.zmt with
                seqWatch := (scanChildren client.zmt strings).seqWatch
                watch :=
                  lockPath
                    (scanChildren client.zmt strings).valueOther } }) := by
  by_cases first : (scanChildren client.zmt strings).n = 0
  · left
    refine ⟨first, ?_⟩
    simp only [zkGetChildrenLockRes1, zok, if_true, first]
  · right
    refine ⟨first, ?_⟩
    simp only [zkGetChildrenLockRes1, zok, if_true, first, if_false]

theorem zkCreateLockRes1Es_cases
    {value : Bytes} {seq : Int} {client next : Client}
    (scanned : (scanIntAfter lockDirectory value).getD 0 = seq)
    (called : zkCreateLockRes1Es 0 zok value client = some next) :
    (0 < seq ∧
      next = zooAgetChildren
        { client with zmt := { client.zmt with seqMe := seq } }) ∨
    (seq ≤ 0 ∧
      next = zooAdelete value
        (announce value
          { client with
            zmt := { client.zmt with seqMe := seq } })) := by
  simp only [zkCreateLockRes1Es, zok, if_true, scanned] at called
  split at called
  · rename_i positive
    simp only [ne_eq, not_true_eq_false, if_false,
      Option.some.injEq] at called
    exact Or.inl ⟨positive, called.symm⟩
  · rename_i notPositive
    cases called
    exact Or.inr ⟨not_lt.mp notPositive, rfl⟩

theorem zkWatcherDisconnect_cases
    {event : WatchEvent} {client next : Client}
    (called : zkWatcherDisconnect 0 event client = some next) :
    (client.zmt.watch = event.path ∧ next = zooAgetChildren client) ∨
      (client.zmt.watch ≠ event.path ∧ next = client) := by
  rw [zkWatcherDisconnect] at called
  split at called
  · rename_i equal
    simp only [ne_eq, not_true_eq_false, if_false,
      Option.some.injEq] at called
    exact Or.inl ⟨equal, called.symm⟩
  · rename_i different
    cases called
    exact Or.inr ⟨different, rfl⟩

/-- Failed replies are only printed. -/
theorem callback_failed
    {rc : Int} (failed : rc ≠ zok)
    (value : Bytes) (strings : List Bytes) (client : Client) :
    callback (.created rc value) client = some client ∧
      callback (.children rc strings) client = some client := by
  have nonzero : ¬ rc = 0 := failed
  constructor
  · simp only [callback, zkCreateLockRes1Es, if_neg nonzero]
  · simp only [callback, zkGetChildrenLockRes1, if_neg nonzero]

/-- Callbacks only ever add announcements. -/
theorem announced_callback
    {message : Message} {client next : Client}
    (called : callback message client = some next) :
    client.announced <+: next.announced := by
  cases message with
  | created rc value =>
      by_cases ok : rc = zok
      · subst rc
        rcases zkCreateLockRes1Es_cases rfl called with
          ⟨_, rfl⟩ | ⟨_, rfl⟩
        · exact List.prefix_rfl
        · exact List.prefix_append _ _
      · rw [(callback_failed ok value [] client).1] at called
        cases called
        exact List.prefix_rfl
  | children rc strings =>
      by_cases ok : rc = zok
      · subst rc
        cases called
        rcases zkGetChildrenLockRes1_cases strings client with
          ⟨_, equal⟩ | ⟨_, equal⟩
        · rw [equal]
          exact List.prefix_append _ _
        · rw [equal]
          exact List.prefix_rfl
      · rw [(callback_failed ok [] strings client).2] at called
        cases called
        exact List.prefix_rfl
  | stat rc =>
      cases called
      exact List.prefix_rfl
  | deleted rc =>
      cases called
      exact List.prefix_rfl
  | event event =>
      rcases zkWatcherDisconnect_cases called with
        ⟨_, rfl⟩ | ⟨_, rfl⟩
      · exact List.prefix_rfl
      · exact List.prefix_rfl

end ZnsBench.Zookeeper.LockProtocol

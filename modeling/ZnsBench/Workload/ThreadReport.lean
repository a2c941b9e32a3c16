import ZnsBench.Core.GuardedRun
import ZnsBench.Workload.CyclicReplay

/-!
# The report of the threads

wrk starts its threads one by one, each with `setup` in the main state and
`init` in the thread's own state.  After that the threads call `request` and
`response` in any order, and at the end `done` prints a line for each thread.

A call changes the state of the thread that makes it and no other, so the
globals of every thread are its own numbers, however the calls are
interleaved.  But `done` reads the counters of the main state, where `init`
never ran and no counter has a value: it ends with an error at its first line.
-/

namespace ZnsBench.Workload.ThreadReport

open ZnsBench.Core.ByteString
open ZnsBench.Core.GuardedRun
open ZnsBench.Core.IntegerDouble
open ZnsBench.Workload.ConsistencyWorkload
open ZnsBench.Workload.CyclicReplay

variable {Table : Type}

/-! ## Starting the threads -/

/-- The script is loaded into the main state and the state of each thread. -/
def load (wrk : Table) (threads : Nat) : System Table where
  main := { wrk := wrk }
  states := List.replicate threads { wrk := wrk }

/-- `setup` and `init` of one thread. -/
def startThread (host : Host Table) (args : List Bytes)
    (system : System Table) (thread : Nat) :
    Except LuaError (System Table) :=
  let introduced := setup thread system
  match introduced.states[thread]? with
  | none => .ok introduced
  | some state => do
      let ready ← init host args state
      pure { introduced with states := introduced.states.set thread ready }

/-- All threads one after another. -/
def launch (host : Host Table) (args : List Bytes) (wrk : Table)
    (threads : Nat) : Except LuaError (System Table) :=
  (List.range threads).foldlM (startThread host args) (load wrk threads)

/-! ## Interleaved calls -/

/-- A call that wrk makes in the state of a thread. -/
inductive Event where
  | request (thread : Nat)
  | response (thread : Nat) (status : UInt16) (body : Option Bytes)

/-- A call in the state of one thread; an error would end wrk. -/
def callIn {Value : Type} (thread : Nat)
    (call : LuaState Table → Except LuaError (Value × LuaState Table))
    (system : System Table) : Option (System Table) :=
  match system.states[thread]? with
  | none => none
  | some state =>
      match call state with
      | .error _ => none
      | .ok (_, next) =>
          some { system with states := system.states.set thread next }

/-- `wrk` calls `request` or `response` in a thread. -/
def step (script : Script) (host : Host Table) (system : System Table) :
    Event → Option (System Table)
  | .request thread => callIn thread (request script host) system
  | .response thread status body => callIn thread (response status body) system

/-- What a thread did: a request with its method, or a response. -/
inductive Action where
  | request (method : Bytes)
  | response
  deriving DecidableEq, Repr

/-- The record of the actions, each with its thread. -/
abbrev Record := List (Nat × Action)

/-- What is seen of a call from outside. -/
def observe (script : Script) (host : Host Table) (system : System Table)
    (event : Event) (record : Record) : Record :=
  match event with
  | .response thread _ _ => record ++ [(thread, .response)]
  | .request thread =>
      match system.states[thread]?.map (prepare script host) with
      | some (.ok (call, _)) => record ++ [(thread, .request call.method)]
      | _ => record

/-- The states and records that the launched threads reach. -/
def Reached (script : Script) (host : Host Table)
    (launched system : System Table) (record : Record) : Prop :=
  Run (recorded (step script host) (observe script host))
    (fun pair event => Unrestricted pair.1 event)
    (launched, []) (system, record)

/-! ## The numbers of a thread -/

/-- What a thread did, in order. -/
def actionsOf (record : Record) (thread : Nat) : List Action :=
  (record.filter fun entry => entry.1 == thread).map Prod.snd

/-- A request was made. -/
def Action.isRequest : Action → Bool
  | .request _ => true
  | .response => false

/-- A PUT was requested. -/
def Action.isPut : Action → Bool
  | .request method => decide (method = ascii "PUT")
  | .response => false

/-- A request of any other method; the report calls it a `GET`. -/
def Action.isGet : Action → Bool
  | .request method => !decide (method = ascii "PUT")
  | .response => false

/-- The actions of a thread that are counted. -/
def countOf (counts : Action → Bool) (record : Record) (thread : Nat) : Nat :=
  (actionsOf record thread).countP counts

/-- The number of requests of a thread. -/
def requestsOf : Record → Nat → Nat := countOf Action.isRequest

/-- The number of its PUTs. -/
def putsOf : Record → Nat → Nat := countOf Action.isPut

/-- The number of its GETs. -/
def getsOf : Record → Nat → Nat := countOf Action.isGet

/-- The number of responses it received. -/
def responsesOf : Record → Nat → Nat :=
  countOf fun action => !action.isRequest

theorem putsOf_add_getsOf (record : Record) (thread : Nat) :
    putsOf record thread + getsOf record thread =
      requestsOf record thread := by
  unfold putsOf getsOf requestsOf countOf
  induction actionsOf record thread with
  | nil => rfl
  | cons action actions induction =>
      simp only [List.countP_cons, ← induction]
      cases action with
      | response => rfl
      | request method =>
          by_cases put : method = ascii "PUT" <;>
            simp [Action.isPut, Action.isGet, Action.isRequest, put] <;> omega

@[simp]
theorem actionsOf_concat
    (record : Record) (owner : Nat) (action : Action) (thread : Nat) :
    actionsOf (record ++ [(owner, action)]) thread =
      actionsOf record thread ++ if owner = thread then [action] else [] := by
  rw [actionsOf, List.filter_append, List.map_append, actionsOf]
  congr 1
  by_cases same : owner = thread <;> simp [same]

/-- What another thread does is not counted. -/
theorem countOf_other
    {owner thread : Nat} (different : owner ≠ thread)
    (counts : Action → Bool) (record : Record) (action : Action) :
    countOf counts (record ++ [(owner, action)]) thread =
      countOf counts record thread := by
  rw [countOf, actionsOf_concat, if_neg different, List.append_nil, countOf]

/-- A counter of a thread after an action of that thread. -/
theorem counted_own
    (counts : Action → Bool) (record : Record) (thread : Nat)
    (action : Action) :
    Number.counted (countOf counts (record ++ [(thread, action)]) thread) =
      (Number.counted (countOf counts record thread)).addOneIf
        (counts action) := by
  rw [countOf, actionsOf_concat, if_pos rfl, List.countP_append,
    List.countP_singleton, Number.addOneIf_counted, countOf]

/-- The globals of a thread hold its number and those of its own actions. -/
structure OwnCounts (record : Record) (thread : Nat)
    (globals : Globals) : Prop where
  id : globals.id = some (.counted (thread + 1))
  requests :
    globals.requests = some (.counted (requestsOf record thread))
  writes : globals.writes = some (.counted (putsOf record thread))
  reads : globals.reads = some (.counted (getsOf record thread))
  responses :
    globals.responses = some (.counted (responsesOf record thread))

theorem OwnCounts.of_other
    {record : Record} {thread owner : Nat} {globals : Globals}
    (own : OwnCounts record thread globals) (different : owner ≠ thread)
    (action : Action) :
    OwnCounts (record ++ [(owner, action)]) thread globals where
  id := own.id
  requests := by
    rw [requestsOf, countOf_other different]
    exact own.requests
  writes := by
    rw [putsOf, countOf_other different]
    exact own.writes
  reads := by
    rw [getsOf, countOf_other different]
    exact own.reads
  responses := by
    rw [responsesOf, countOf_other different]
    exact own.responses

/-- `request` counts a request, and a read or a write. -/
theorem OwnCounts.countRequest
    {record : Record} {thread : Nat} {globals : Globals}
    (own : OwnCounts record thread globals)
    (req : Parsed) (index : Number) :
    OwnCounts (record ++ [(thread, .request req.method)]) thread
      (CyclicReplay.countRequest req index
        (.counted (requestsOf record thread))
        (.counted (getsOf record thread))
        (.counted (putsOf record thread)) globals) where
  id := own.id
  requests := by
    rw [requestsOf, counted_own]
    rfl
  writes := by
    rw [putsOf, counted_own]
    rfl
  reads := by
    rw [getsOf, counted_own]
    rfl
  responses := by
    rw [responsesOf, counted_own]
    exact own.responses

/-- `response` counts a response. -/
theorem OwnCounts.countResponse
    {record : Record} {thread : Nat} {globals : Globals}
    (own : OwnCounts record thread globals) :
    OwnCounts (record ++ [(thread, .response)]) thread
      { globals with
        responses :=
          some
            ((Number.counted (responsesOf record thread)).add
              (.finite 1)) } where
  id := own.id
  requests := by
    rw [requestsOf, counted_own]
    exact own.requests
  writes := by
    rw [putsOf, counted_own]
    exact own.writes
  reads := by
    rw [getsOf, counted_own]
    exact own.reads
  responses := by
    rw [responsesOf, counted_own]
    rfl

/-! ## A call and the thread that makes it -/

theorem callIn_eq_some
    {Value : Type} {thread : Nat}
    {call : LuaState Table → Except LuaError (Value × LuaState Table)}
    {system next : System Table}
    (called : callIn thread call system = some next) :
    ∃ state value after,
      system.states[thread]? = some state ∧
        call state = .ok (value, after) ∧
          next =
            { system with states := system.states.set thread after } := by
  unfold callIn at called
  split at called
  · cases called
  · rename_i state standing
    split at called
    · cases called
    · rename_i value after answered
      cases called
      exact ⟨state, value, after, standing, answered, rfl⟩

/-- A call that gets as far as `wrk.format` has found its entry. -/
theorem exists_entry_of_prepare
    {script : Script} {host : Host Table} {state : LuaState Table}
    {answer : FormatCall × LuaState Table}
    (made : prepare script host state = .ok answer) :
    ∃ index req,
      nextIndex state = .ok index ∧
        entryAt state.workload index = some req := by
  simp only [prepare, bind, Except.bind] at made
  cases cursor : nextIndex state with
  | error error =>
      rw [cursor] at made
      cases made
  | ok index =>
      rw [cursor] at made
      cases found : entryAt state.workload index with
      | none =>
          simp only [found, orError] at made
          cases made
      | some req => exact ⟨index, req, rfl, found⟩

theorem exists_prepare_of_request
    {script : Script} {host : Host Table} {state after : LuaState Table}
    {text : Bytes}
    (answered : request script host state = .ok (text, after)) :
    ∃ call prepared,
      prepare script host state = .ok (call, prepared) ∧
        after.globals = prepared.globals := by
  cases made : prepare script host state with
  | error error =>
      simp only [request, made, bind, Except.bind] at answered
      cases answered
  | ok answer =>
      rw [request_eq made] at answered
      cases answered
      exact ⟨answer.1, answer.2, rfl, rfl⟩

/-- What a request of a thread does to its counters, and what is seen. -/
theorem request_ownCounts
    {script : Script} {host : Host Table} {state after : LuaState Table}
    {text : Bytes}
    (answered : request script host state = .ok (text, after))
    {record : Record} {thread : Nat}
    (own : OwnCounts record thread state.globals) :
    ∃ call prepared,
      prepare script host state = .ok (call, prepared) ∧
        OwnCounts (record ++ [(thread, .request call.method)]) thread
          after.globals := by
  rcases exists_prepare_of_request answered with
    ⟨call, prepared, made, globals⟩
  rcases exists_entry_of_prepare made with ⟨index, req, cursor, found⟩
  have computed : prepare script host state = _ :=
    prepare_eq cursor found own.requests own.reads own.writes
  rw [made] at computed
  cases computed
  rw [globals]
  exact ⟨_, _, made, own.countRequest req index⟩

theorem response_ownCounts
    {status : UInt16} {body : Option Bytes} {state after : LuaState Table}
    {printed : List Bytes}
    (answered : response status body state = .ok (printed, after))
    {record : Record} {thread : Nat}
    (own : OwnCounts record thread state.globals) :
    OwnCounts (record ++ [(thread, .response)]) thread after.globals := by
  simp only [response, increment, own.responses, orError, bind, Except.bind,
    pure, Except.pure] at answered
  cases answered
  exact own.countResponse

/-! ## Every interleaving -/

/-- Every thread has its own numbers in its own state. -/
def AllOwn (system : System Table) (record : Record) : Prop :=
  ∀ thread state,
    system.states[thread]? = some state →
      OwnCounts record thread state.globals

/-- Only the thread that acts has to be looked at. -/
theorem AllOwn.set
    {system : System Table} {record : Record}
    (all : AllOwn system record) {thread : Nat} {after : LuaState Table}
    {action : Action}
    (own : OwnCounts (record ++ [(thread, action)]) thread after.globals) :
    AllOwn { system with states := system.states.set thread after }
      (record ++ [(thread, action)]) := by
  intro other state standing
  simp only [List.getElem?_set] at standing
  split at standing
  · rename_i same
    subst other
    split at standing
    · cases standing
      exact own
    · cases standing
  · rename_i different
    exact (all other state standing).of_other different action

theorem step_allOwn
    {script : Script} {host : Host Table} {system next : System Table}
    {event : Event} {record : Record}
    (all : AllOwn system record)
    (taken : step script host system event = some next) :
    AllOwn next (observe script host system event record) := by
  cases event with
  | request thread =>
      rcases callIn_eq_some taken with
        ⟨state, text, after, standing, answered, rfl⟩
      rcases request_ownCounts answered (all thread state standing) with
        ⟨call, prepared, made, own⟩
      have seen :
          observe script host system (.request thread) record =
            record ++ [(thread, .request call.method)] := by
        simp only [observe, standing, Option.map_some, made]
      rw [seen]
      exact all.set own
  | response thread status body =>
      rcases callIn_eq_some taken with
        ⟨state, printed, after, standing, answered, rfl⟩
      exact all.set (response_ownCounts answered (all thread state standing))

/-- The main state takes no part in the calls. -/
theorem main_step
    {script : Script} {host : Host Table} {system next : System Table}
    {event : Event}
    (taken : step script host system event = some next) :
    next.main = system.main := by
  cases event with
  | request thread | response thread status body =>
      rcases callIn_eq_some taken with ⟨_, _, _, _, _, rfl⟩
      rfl

theorem main_of_reached
    {script : Script} {host : Host Table} {launched system : System Table}
    {record : Record}
    (reached : Reached script host launched system record) :
    system.main = launched.main := by
  refine
    Run.preserves_recorded
      (fun current _ => current.main = launched.main) reached rfl ?_
  intro state event next _ same _ taken
  exact (main_step taken).trans same

/-! ## The launched threads -/

/-- The state of affairs when some threads have been started. -/
structure Started (threads count : Nat) (system : System Table) : Prop where
  registered : system.main.threads = List.range count
  unset : system.main.globals = {}
  counter : system.main.counter = .counted (count + 1)
  size : system.states.length = threads
  own :
    ∀ thread < count, ∀ state,
      system.states[thread]? = some state →
        OwnCounts [] thread state.globals

/-- `init` sets the counters to zero and leaves the number of the thread. -/
theorem ownCounts_init
    {host : Host Table} {args : List Bytes} {state ready : LuaState Table}
    (initialised : init host args state = .ok ready)
    {thread : Nat}
    (numbered : state.globals.id = some (.counted (thread + 1))) :
    OwnCounts [] thread ready.globals := by
  simp only [init, bind, Except.bind] at initialised
  cases named : args[0]? with
  | none =>
      rw [named] at initialised
      cases initialised
  | some name =>
      simp only [named, orError] at initialised
      cases opened : host.ioOpen name with
      | none =>
          rw [opened] at initialised
          cases initialised
      | some contents =>
          rw [opened] at initialised
          cases initialised
          exact
            { id := numbered
              requests := rfl
              writes := rfl
              reads := rfl
              responses := rfl }

theorem startThread_eq_ok
    {host : Host Table} {args : List Bytes} {system next : System Table}
    {thread : Nat} (inside : thread < system.states.length)
    (numbered : system.main.counter = .counted (thread + 1))
    (started : startThread host args system thread = .ok next) :
    ∃ ready,
      next =
          { setup thread system with
            states := (setup thread system).states.set thread ready } ∧
        OwnCounts [] thread ready.globals := by
  have standing :
      (setup thread system).states[thread]? =
        some (setId system.main.counter system.states[thread]) := by
    simp [setup, inside]
  unfold startThread at started
  simp only [standing] at started
  cases initialised :
      init host args (setId system.main.counter system.states[thread]) with
  | error error =>
      simp only [initialised, bind, Except.bind] at started
      cases started
  | ok ready =>
      simp only [initialised, bind, Except.bind, pure, Except.pure,
        Except.ok.injEq] at started
      exact
        ⟨ready, started.symm,
          ownCounts_init initialised (congrArg some numbered)⟩

theorem Started.startThread
    {host : Host Table} {args : List Bytes} {threads count : Nat}
    {system next : System Table}
    (before : Started threads count system) (room : count < threads)
    (started :
      ThreadReport.startThread host args system count = .ok next) :
    Started threads (count + 1) next := by
  have inside : count < system.states.length := by rwa [before.size]
  rcases startThread_eq_ok inside before.counter started with
    ⟨ready, rfl, own⟩
  refine
    { registered := ?_
      unset := before.unset
      counter := ?_
      size := ?_
      own := ?_ }
  · rw [List.range_succ, ← before.registered]
    rfl
  · rw [← Number.counted_add_one, ← before.counter]
    rfl
  · rw [List.length_set, ← before.size]
    exact List.length_modify _ _ _
  · intro thread earlier state standing
    rcases Nat.lt_succ_iff_lt_or_eq.mp earlier with earlier | rfl
    · have different : count ≠ thread := Nat.ne_of_gt earlier
      rw [List.getElem?_set_ne different] at standing
      have kept : system.states[thread]? = some state := by
        simpa [setup, List.getElem?_modify, different] using standing
      exact before.own thread earlier state kept
    · rw [List.getElem?_set_self (by simpa [setup] using inside)] at standing
      cases standing
      exact own

theorem started_load (wrk : Table) (threads : Nat) :
    Started threads 0 (load wrk threads) where
  registered := rfl
  unset := rfl
  counter := rfl
  size := List.length_replicate
  own := fun _ none => absurd none (Nat.not_lt_zero _)

/-- A launch that succeeds has started all threads. -/
theorem started_launch
    {host : Host Table} {args : List Bytes} {wrk : Table} {threads : Nat}
    {launched : System Table}
    (succeeded : launch host args wrk threads = .ok launched) :
    Started threads threads launched := by
  have leading :
      ∀ count ≤ threads, ∀ system,
        (List.range count).foldlM (startThread host args)
            (load wrk threads) =
            .ok system →
          Started threads count system := by
    intro count
    induction count with
    | zero =>
        intro _ system done
        cases done
        exact started_load wrk threads
    | succ count induction =>
        intro room system done
        rw [List.range_succ, List.foldlM_append] at done
        cases earlier :
            (List.range count).foldlM (startThread host args)
              (load wrk threads) with
        | error error =>
            rw [earlier] at done
            cases done
        | ok middle =>
            rw [earlier] at done
            have last :
                (startThread host args middle count >>= pure) = .ok system :=
              done
            rw [bind_pure] at last
            exact
              (induction (Nat.le_of_succ_le room) middle earlier).startThread
                room last
  exact leading threads (Nat.le_refl _) launched succeeded

/-- In every interleaving the globals of each thread are its own numbers. -/
theorem allOwn_of_reached
    {script : Script} {host : Host Table} {args : List Bytes} {wrk : Table}
    {threads : Nat} {launched : System Table}
    (succeeded : launch host args wrk threads = .ok launched)
    {system : System Table} {record : Record}
    (reached : Reached script host launched system record) :
    AllOwn system record := by
  refine Run.preserves_recorded AllOwn reached ?_ ?_
  · intro thread state standing
    have started := started_launch succeeded
    have inside := (List.getElem?_eq_some_iff.mp standing).1
    rw [started.size] at inside
    exact started.own thread inside state standing
  · intro state event next seen all _ taken
    exact step_allOwn all taken

/-! ## The report -/

/-- The line that reports a thread's own numbers. -/
def ownLine (record : Record) (thread : Nat) : Bytes :=
  ascii "Thread " ++ decimal (thread + 1) ++ ascii " made " ++
    decimal (requestsOf record thread) ++ ascii " requests (" ++
      decimal (putsOf record thread) ++ ascii " PUTs, " ++
        decimal (getsOf record thread) ++ ascii " GETs) and received " ++
          decimal (responsesOf record thread) ++ ascii " responses"

/--
The report is right: a line for each thread with its own numbers, in which the
`PUT`s and `GET`s make up the requests.
-/
structure ReportsOwnCounts (host : Host Table) (total : Option Number)
    (system : System Table) (record : Record) : Prop where
  printed :
    done host total system =
      (system.main.threads.map (ownLine record), none)
  consistent :
    ∀ thread ∈ system.main.threads,
      putsOf record thread + getsOf record thread =
        requestsOf record thread

theorem formatNumber_counted
    (host : Host Table) (value : Nat) {count : Nat}
    (exact : count ≤ exactBound) :
    formatNumber host value (some (.counted count)) =
      .ok (decimal count) := by
  have small : count < 2 ^ 63 := lt_of_le_of_lt exact (by decide)
  rw [Number.counted_of_le exact, formatNumber, if_pos small]

/-- The globals of a thread give the line of its own numbers. -/
theorem reportLine_ownCounts
    (host : Host Table) {record : Record} {thread : Nat} {globals : Globals}
    (own : OwnCounts record thread globals)
    (thread_le : thread + 1 ≤ exactBound)
    (requests_le : requestsOf record thread ≤ exactBound)
    (responses_le : responsesOf record thread ≤ exactBound) :
    reportLine host globals.id globals.requests globals.writes globals.reads
        globals.responses =
      .ok (ownLine record thread) := by
  have sum := putsOf_add_getsOf record thread
  have puts_le : putsOf record thread ≤ exactBound := by omega
  have gets_le : getsOf record thread ≤ exactBound := by omega
  rw [own.id, own.requests, own.writes, own.reads, own.responses]
  simp only [reportLine, formatNumber_counted host _ thread_le,
    formatNumber_counted host _ requests_le,
    formatNumber_counted host _ puts_le, formatNumber_counted host _ gets_le,
    formatNumber_counted host _ responses_le, bind, Except.bind, pure,
    Except.pure, ownLine]

/-- Without a number of writes there is no line. -/
theorem reportLine_of_writes_none
    (host : Host Table) (id total reads responses : Option Number) :
    ∃ error,
      reportLine host id total none reads responses = .error error := by
  simp only [reportLine, bind, Except.bind]
  cases formatNumber host 1 id with
  | error error => exact ⟨error, rfl⟩
  | ok idText =>
      cases formatNumber host 2 total with
      | error error => exact ⟨error, rfl⟩
      | ok totalText => exact ⟨.numberExpected 3, rfl⟩

/-- Where the counters have no value, `done` fails at the first thread. -/
theorem done_error_iff
    (host : Host Table) (total : Option Number) {system : System Table}
    (unset : system.main.globals = {}) :
    (done host total system).2 = none ↔ system.main.threads = [] := by
  rw [done]
  cases system.main.threads with
  | nil => simp [reportFrom]
  | cons thread later =>
      rcases reportLine_of_writes_none host (getId system thread) total none
          none with
        ⟨error, failed⟩
      simp [reportFrom, unset, failed]

section Reached

variable
    {script : Script} {host : Host Table} {args : List Bytes} {wrk : Table}
    {threads : Nat} {launched system : System Table} {record : Record}

/-- What `done` finds in the main state. -/
theorem main_of_launched
    (succeeded : launch host args wrk threads = .ok launched)
    (reached : Reached script host launched system record) :
    system.main.globals = {} ∧ system.main.threads = List.range threads := by
  have started := started_launch succeeded
  rw [main_of_reached reached]
  exact ⟨started.unset, started.registered⟩

/-- What `thread:get` reads makes up the right line, in every interleaving. -/
theorem reportLine_of_reached
    (succeeded : launch host args wrk threads = .ok launched)
    (reached : Reached script host launched system record)
    {thread : Nat} {state : LuaState Table}
    (standing : system.states[thread]? = some state)
    (thread_le : thread + 1 ≤ exactBound)
    (requests_le : requestsOf record thread ≤ exactBound)
    (responses_le : responsesOf record thread ≤ exactBound) :
    reportLine host state.globals.id state.globals.requests
        state.globals.writes state.globals.reads state.globals.responses =
      .ok (ownLine record thread) :=
  reportLine_ownCounts host
    (allOwn_of_reached succeeded reached thread state standing)
    thread_le requests_le responses_le

/-- A report that is right has no line. -/
theorem threads_eq_zero_of_reports
    (succeeded : launch host args wrk threads = .ok launched)
    (reached : Reached script host launched system record)
    {total : Option Number}
    (right : ReportsOwnCounts host total system record) :
    threads = 0 := by
  rcases main_of_launched succeeded reached with ⟨unset, registered⟩
  have ended : (done host total system).2 = none := by rw [right.printed]
  rw [done_error_iff host total unset, registered] at ended
  simpa using ended

/--
The report is right exactly when there is no thread to report on: in every
interleaving of the calls of any other number of threads it fails.
-/
theorem reportsOwnCounts_iff_no_threads
    (total : Option Number)
    (succeeded : launch host args wrk threads = .ok launched)
    (reached : Reached script host launched system record) :
    ReportsOwnCounts host total system record ↔ threads = 0 := by
  constructor
  · exact threads_eq_zero_of_reports succeeded reached
  · rintro rfl
    have nobody : system.main.threads = [] :=
      (main_of_launched succeeded reached).2
    exact
      { printed := by
          rw [done, nobody]
          rfl
        consistent := fun thread _ => putsOf_add_getsOf record thread }

end Reached

/-- wrk next to a file with a single `GET`. -/
def oneGetHost : Host Headers :=
  wrkHost (WorkloadFile.fileText [.request getEntry plainLayout] true)

/-- With no thread there is nothing to report, and nothing goes wrong. -/
theorem reportsOwnCounts_without_threads :
    ReportsOwnCounts oneGetHost none (load wrkTable 0) [] :=
  (reportsOwnCounts_iff_no_threads none
    (show launch oneGetHost [] wrkTable 0 = .ok (load wrkTable 0) from rfl)
    (show
      Reached .consistencyWorkload oneGetHost (load wrkTable 0)
        (load wrkTable 0) [] from .refl)).mpr rfl

/-- One thread makes one request and gets one response. -/
theorem exists_reached_one_thread :
    ∃ launched system,
      launch oneGetHost [ascii "workload.txt"] wrkTable 1 = .ok launched ∧
        Reached .consistencyWorkload oneGetHost launched system
          [(0, .request (ascii "GET")), (0, .response)] := by
  have evaluated :
      (launch oneGetHost [ascii "workload.txt"] wrkTable 1).toOption.any
        (fun launched =>
          (replay
            (recorded (step .consistencyWorkload oneGetHost)
              (observe .consistencyWorkload oneGetHost))
            (fun pair event => Unrestricted pair.1 event) (launched, [])
            [.request 0, .response 0 200 none]).any
            fun pair =>
              decide
                (pair.2 = [(0, .request (ascii "GET")), (0, .response)])) =
        true := by
    decide +kernel
  cases succeeded : launch oneGetHost [ascii "workload.txt"] wrkTable 1 with
  | error error =>
      rw [succeeded] at evaluated
      cases evaluated
  | ok launched =>
      rw [succeeded, Except.toOption, Option.any_some,
        Option.any_eq_true] at evaluated
      rcases evaluated with ⟨⟨system, record⟩, replayed, seen⟩
      have same := of_decide_eq_true seen
      subst same
      exact ⟨launched, system, rfl, Run.of_replay replayed⟩

/-- The report on that thread is not printed. -/
theorem not_reportsOwnCounts_one_thread :
    ∃ launched system,
      launch oneGetHost [ascii "workload.txt"] wrkTable 1 = .ok launched ∧
        Reached .consistencyWorkload oneGetHost launched system
            [(0, .request (ascii "GET")), (0, .response)] ∧
          ¬ ReportsOwnCounts oneGetHost none system
            [(0, .request (ascii "GET")), (0, .response)] := by
  rcases exists_reached_one_thread with
    ⟨launched, system, succeeded, reached⟩
  refine ⟨launched, system, succeeded, reached, ?_⟩
  intro right
  exact absurd (threads_eq_zero_of_reports succeeded reached right) (by decide)

end ZnsBench.Workload.ThreadReport

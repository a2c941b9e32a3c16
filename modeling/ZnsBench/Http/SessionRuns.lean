import Mathlib.Data.List.Forall2
import ZnsBench.Http.HttpServer

/-!
# One answer for each request

The connections of the server are served in any order.  On each of them the
requests are answered one by one: a request is read when the response to the
one before is written, the responses come in the order of the requests, and
nothing is read behind a request that asks to close the connection.
-/

namespace ZnsBench.Http.HttpServer

open ZnsBench.Core.ByteString ZnsBench.Core.GuardedRun

variable {docRoot : Bytes} {session next : Session}

/-! ## What can happen to a session -/

/-- A session after one of its operations. -/
inductive Turn (docRoot : Bytes) (session : Session) : Session → Prop where
  | begins (state : session.awaiting = .dispatched) :
      Turn docRoot session session.doRead
  | ends (state : session.awaiting = .read) :
      Turn docRoot session session.doClose
  | breaks (state : session.awaiting = .read) :
      Turn docRoot session session.fail
  | answers (state : session.awaiting = .read) (files : Bytes → Opened)
      (req : Request) :
      Turn docRoot session (onRead files docRoot session (.request req))
  | loses {keepAlive : Bool} (state : session.awaiting = .write keepAlive) :
      Turn docRoot session session.fail
  | goesOn (state : session.awaiting = .write true) :
      Turn docRoot session
        (Session.doRead { session with written := session.written + 1 })
  | closes (state : session.awaiting = .write false) :
      Turn docRoot session
        (Session.doClose { session with written := session.written + 1 })

theorem turn_of_complete
    {completion : Completion}
    (done : complete docRoot session completion = some next) :
    Turn docRoot session next := by
  cases completion with
  | dispatched =>
      rw [complete] at done
      split at done
      · rename_i state
        cases done
        exact Turn.begins state
      · cases done
  | read files result =>
      rw [complete] at done
      split at done
      · rename_i state
        cases done
        cases result with
        | endOfStream => exact Turn.ends state
        | failed => exact Turn.breaks state
        | request req => exact Turn.answers state files req
      · cases done
  | wrote failed =>
      rw [complete] at done
      split at done
      · rename_i keepAlive state
        cases done
        cases failed with
        | true => exact Turn.loses state
        | false =>
            cases keepAlive with
            | true => exact Turn.goesOn state
            | false => exact Turn.closes state
      · cases done

/-- Each session of the server has a property. -/
def Each (docRoot : Bytes) (Holds : Session → Prop) (server : Server) :
    Prop :=
  server.docRoot = docRoot ∧ ∀ session ∈ server.sessions, Holds session

/-- What every turn of a session keeps holds of all sessions in any order. -/
theorem Reachable.each
    {server : Server} (reached : Reachable docRoot server)
    (Holds : Session → Prop) (initially : Holds Session.run)
    (kept : ∀ session next, Holds session → Turn docRoot session next →
      Holds next) :
    ∀ session ∈ server.sessions, Holds session := by
  have all : Each docRoot Holds server := by
    refine Run.preserves reached
      ⟨rfl, fun _ member => absurd member List.not_mem_nil⟩ ?_
    rintro state event following ⟨root, holds⟩ _ taken
    cases event with
    | accepted =>
        rw [step] at taken
        split at taken
        · cases taken
          refine ⟨root, fun session member => ?_⟩
          rcases List.mem_append.mp member with old | new
          · exact holds session old
          · rw [List.mem_singleton.mp new]
            exact initially
        · cases taken
    | acceptFailed =>
        rw [step] at taken
        split at taken
        · cases taken
          exact ⟨root, holds⟩
        · cases taken
    | completed index completion =>
        rw [step] at taken
        split at taken
        · cases taken
        · rename_i session here
          rcases Option.map_eq_some_iff.mp taken with ⟨next, done, rfl⟩
          rw [root] at done
          refine ⟨root, ?_⟩
          have before := holds session (List.mem_of_getElem? here)
          intro other member
          rcases List.mem_or_eq_of_mem_set member with old | rfl
          · exact holds other old
          · exact kept session other before (turn_of_complete done)
  exact all.2

/-! ## One answer for each request -/

/-- A response that `handle_request` gives for a request. -/
def Answers (docRoot : Bytes) (req : Request) (response : Response) : Prop :=
  ∃ files, (handleRequest files docRoot req).1 = response

@[simp]
theorem keepAlive_handleRequest
    (files : Bytes → Opened) (docRoot : Bytes) (req : Request) :
    (handleRequest files docRoot req).1.keepAlive = req.keepAlive := by
  rw [handleRequest]
  split
  · rfl
  · split
    · rfl
    · dsimp only
      split <;> rfl

/-- What is left to write fits the operation under way. -/
def Awaits (session : Session) : Prop :=
  match session.awaiting with
  | .dispatched | .read =>
      session.written = session.responses.length ∧
        (∀ req ∈ session.requests, req.keepAlive = true) ∧
          session.shut = false ∧ session.failed = false
  | .write keepAlive =>
      session.written + 1 = session.responses.length ∧
        (∃ req,
          session.requests.getLast? = some req ∧ req.keepAlive = keepAlive) ∧
          session.shut = false ∧ session.failed = false
  | .nothing =>
      (session.shut = true ∧ session.failed = false ∧
        session.written = session.responses.length) ∨
      (session.shut = false ∧ session.failed = true ∧
        (session.written = session.responses.length ∨
          session.written + 1 = session.responses.length))

/-- A session serves its requests in order. -/
structure Orderly (docRoot : Bytes) (session : Session) : Prop where
  answered :
    List.Forall₂ (Answers docRoot) session.requests session.responses
  kept : ∀ req ∈ session.requests.dropLast, req.keepAlive = true
  awaits : Awaits session

theorem orderly_run (docRoot : Bytes) : Orderly docRoot Session.run where
  answered := List.Forall₂.nil
  kept := fun _ member => absurd member List.not_mem_nil
  awaits := ⟨rfl, fun _ member => absurd member List.not_mem_nil, rfl, rfl⟩

/-- The requests of a list whose last one keeps the connection. -/
theorem all_keepAlive_of_getLast?
    {requests : List Request}
    (kept : ∀ req ∈ requests.dropLast, req.keepAlive = true)
    {last : Request} (ending : requests.getLast? = some last)
    (keeps : last.keepAlive = true) :
    ∀ req ∈ requests, req.keepAlive = true := by
  intro req member
  rw [← List.dropLast_append_getLast? last ending] at member
  rcases List.mem_append.mp member with earlier | newest
  · exact kept req earlier
  · rw [List.mem_singleton.mp newest]
    exact keeps

theorem orderly_turn
    (orderly : Orderly docRoot session) (turn : Turn docRoot session next) :
    Orderly docRoot next := by
  rcases orderly with ⟨answered, kept, awaits⟩
  rw [Awaits] at awaits
  cases turn with
  | begins state =>
      rw [state] at awaits
      exact ⟨answered, kept, awaits⟩
  | ends state =>
      rw [state] at awaits
      rcases awaits with ⟨written, -, -, working⟩
      exact ⟨answered, kept, Or.inl ⟨rfl, working, written⟩⟩
  | breaks state =>
      rw [state] at awaits
      rcases awaits with ⟨written, -, opened, -⟩
      exact ⟨answered, kept, Or.inr ⟨opened, rfl, Or.inl written⟩⟩
  | answers state files req =>
      rw [state] at awaits
      rcases awaits with ⟨written, keeping, opened, working⟩
      refine ⟨?_, ?_, ?_, ?_, opened, working⟩
      · exact List.rel_append answered (.cons ⟨files, rfl⟩ .nil)
      · change ∀ other ∈ (session.requests ++ [req]).dropLast, _
        rw [List.dropLast_concat]
        exact keeping
      · change session.written + 1 = (session.responses ++ [_]).length
        rw [List.length_append, written, List.length_singleton]
      · refine ⟨req, List.getLast?_concat, ?_⟩
        exact (keepAlive_handleRequest files docRoot req).symm
  | loses state =>
      rw [state] at awaits
      rcases awaits with ⟨written, -, opened, -⟩
      exact ⟨answered, kept, Or.inr ⟨opened, rfl, Or.inr written⟩⟩
  | goesOn state =>
      rw [state] at awaits
      rcases awaits with ⟨written, ⟨last, ending, keeps⟩, opened, working⟩
      exact ⟨answered, kept, written,
        all_keepAlive_of_getLast? kept ending keeps, opened, working⟩
  | closes state =>
      rw [state] at awaits
      rcases awaits with ⟨written, -, -, working⟩
      exact ⟨answered, kept, Or.inl ⟨rfl, working, written⟩⟩

theorem orderly_of_reachable
    {server : Server} (reached : Reachable docRoot server)
    (member : session ∈ server.sessions) : Orderly docRoot session :=
  reached.each (Orderly docRoot) (orderly_run docRoot)
    (fun _ _ orderly turn => orderly_turn orderly turn) session member

/--
On every connection, whatever the order in which operations complete, the
responses answer the requests one by one and in their order.  At most one
response is left to write, none while the next request is read, and nothing is
read behind a request that closes the connection.  A session ends either shut
down, with everything written, or with an error.
-/
theorem sessions_answer_in_order
    (docRoot : Bytes) (server : Server) (reached : Reachable docRoot server)
    (session : Session) (member : session ∈ server.sessions) :
    List.Forall₂ (Answers docRoot) session.requests session.responses ∧
      (∀ req ∈ session.requests.dropLast, req.keepAlive = true) ∧
      (session.written = session.responses.length ∨
        session.written + 1 = session.responses.length) ∧
      (session.awaiting = .read →
        session.written = session.responses.length ∧
          ∀ req ∈ session.requests, req.keepAlive = true) ∧
      (session.shut = true →
        session.failed = false ∧
          session.written = session.responses.length) ∧
      (session.awaiting = .nothing ↔
        session.shut = true ∨ session.failed = true) := by
  rcases orderly_of_reachable reached member with ⟨answered, kept, awaits⟩
  refine ⟨answered, kept, ?_⟩
  rw [Awaits] at awaits
  cases state : session.awaiting with
  | dispatched =>
      rw [state] at awaits
      rcases awaits with ⟨written, keeping, opened, working⟩
      simp [written, opened, working]
  | read =>
      rw [state] at awaits
      rcases awaits with ⟨written, keeping, opened, working⟩
      simp only [written, opened, working]
      simpa using keeping
  | write keepAlive =>
      rw [state] at awaits
      rcases awaits with ⟨written, -, opened, working⟩
      simp [written, opened, working]
  | nothing =>
      rw [state] at awaits
      rcases awaits with
        ⟨shut, working, written⟩ | ⟨opened, failed, written⟩
      · simp [written, shut, working]
      · simp [written, opened, failed]

/-- Two clients at once; one sends two requests and the second one closes. -/
theorem sessions_answer_in_order_two_clients :
    ∃ server session,
      Reachable (ascii ".") server ∧ server.sessions[1]? = some session ∧
        session.shut = true ∧
        session.requests.map Request.method = [.get, .put] ∧
        List.Forall₂ (Answers (ascii "."))
          session.requests session.responses ∧
        session.written = session.responses.length := by
  have replayed :
      ∃ server,
        Reachable (ascii ".") server ∧
          ∃ session ∈ server.sessions[1]?,
            session.shut = true ∧
              session.requests.map Request.method = [.get, .put] :=
    Run.exists_of_replay _
      [.accepted, .completed 0 .dispatched, .accepted,
        .completed 1 .dispatched,
        .completed 1 (.read (fun _ => .opened 12)
          (.request ⟨.get, ascii "/", 11, true⟩)),
        .completed 0 (.read (fun _ => .noSuchFile)
          (.request ⟨.post, ascii "/zone", 11, true⟩)),
        .completed 1 (.wrote false),
        .completed 1 (.read (fun _ => .noSuchFile)
          (.request ⟨.put, ascii "/zone", 11, false⟩)),
        .completed 0 (.wrote true), .completed 1 (.wrote false)]
      (by decide +kernel)
  rcases replayed with ⟨server, reached, session, found, shut, sent⟩
  have results :=
    sessions_answer_in_order (ascii ".") server reached session
      (List.mem_of_getElem? found)
  exact ⟨server, session, reached, found, shut, sent, results.1,
    (results.2.2.2.2.1 shut).2⟩

end ZnsBench.Http.HttpServer

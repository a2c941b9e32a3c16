import Mathlib.Data.List.Infix
import ZnsBench.Core.ByteString
import ZnsBench.Core.GuardedRun

/-!
# The asynchronous HTTP server

`http_server_async.cpp` accepts connections and gives each one a session.  A
session reads a request, sends the answer and reads the next one, one
operation at a time; a strand keeps its handlers apart.  The environment
chooses which operation of which connection completes next and how, and what
the files are when one is opened.
-/

namespace ZnsBench.Http.HttpServer

open ZnsBench.Core.ByteString ZnsBench.Core.GuardedRun

/-! ## Requests and responses -/

/-- The methods that are told apart. -/
inductive Verb where
  | get
  | head
  | post
  | put
  | other (name : Bytes)
  deriving DecidableEq, Repr

/-- The parts of a request that the server reads. -/
structure Request where
  method : Verb
  target : Bytes
  version : Nat
  keepAlive : Bool
  deriving DecidableEq, Repr

/-- The statuses that `handle_request` gives a response. -/
inductive Status where
  | ok
  | badRequest
  | internalServerError
  deriving DecidableEq, Repr

/-- What is sent behind the header. -/
inductive Body where
  | text (text : Bytes)
  | empty
  /-- The file that was opened. -/
  | file (name : Bytes)
  deriving DecidableEq, Repr

/-- An HTTP response with the fields that `handle_request` sets. -/
structure Response where
  status : Status
  version : Nat
  contentType : Bytes
  contentLength : Nat
  keepAlive : Bool
  body : Body
  deriving DecidableEq, Repr

/-- What opening a file gives. -/
inductive Opened where
  | noSuchFile
  | failed (message : Bytes)
  | opened (size : Nat)
  deriving DecidableEq, Repr

/-! ## Paths and types -/

/-- The part of a path from its last dot on. -/
def extension (path : Bytes) : Bytes :=
  if 46 ∈ path then
    46 :: (path.reverse.takeWhile (· ≠ 46)).reverse
  else
    []

/-- `tolower` of the C locale. -/
def toLower (char : UInt8) : UInt8 :=
  if 65 ≤ char ∧ char ≤ 90 then char + 32 else char

/-- `beast::iequals` -/
def iequals (first second : Bytes) : Bool :=
  first.map toLower == second.map toLower

/-- The extensions that `mime_type` knows, in the order of its tests. -/
def mimeTypes : List (String × String) :=
  [(".htm", "text/html"), (".html", "text/html"), (".php", "text/html"),
    (".css", "text/css"), (".txt", "text/plain"),
    (".js", "application/javascript"), (".json", "application/json"),
    (".xml", "application/xml"), (".swf", "application/x-shockwave-flash"),
    (".flv", "video/x-flv"), (".png", "image/png"), (".jpe", "image/jpeg"),
    (".jpeg", "image/jpeg"), (".jpg", "image/jpeg"), (".gif", "image/gif"),
    (".bmp", "image/bmp"), (".ico", "image/vnd.microsoft.icon"),
    (".tiff", "image/tiff"), (".tif", "image/tiff"),
    (".svg", "image/svg+xml"), (".svgz", "image/svg+xml")]

/-- `mime_type`, by the last extension of a path. -/
def mimeType (path : Bytes) : Bytes :=
  match mimeTypes.find? fun entry =>
      iequals (extension path) (ascii entry.1) with
  | some entry => ascii entry.2
  | none => ascii "application/text"

/-- `path_cat`, with a slash as the separator. -/
def pathCat (base path : Bytes) : Bytes :=
  if base = [] then
    path
  else
    (if base.getLast? = some 47 then base.dropLast else base) ++ path

/-! ## `handle_request` -/

/-- The responses with a text: `dummy`, `bad_request`, `server_error`. -/
def textResponse (status : Status) (req : Request) (text : Bytes) :
    Response where
  status := status
  version := req.version
  contentType := ascii "text/html"
  contentLength := text.length
  keepAlive := req.keepAlive
  body := .text text

/-- The verbs that `handle_request` goes on with. -/
def isHandled : Verb → Bool
  | .other _ => false
  | _ => true

/-- The targets that `handle_request` answers with a bad request. -/
def IsIllegal (target : Bytes) : Prop :=
  target = [] ∨ target.head? ≠ some 47 ∨ [46, 46] <:+: target

instance (target : Bytes) : Decidable (IsIllegal target) :=
  inferInstanceAs (Decidable (_ ∨ _ ∨ _))

/-- The path that is looked for. -/
def filePath (docRoot target : Bytes) : Bytes :=
  pathCat docRoot target ++
    if target.getLast? = some 47 then ascii "index.html" else []

/--
The response to a request, and the names of the files opened for it.  The name
ends at a zero byte because it is passed on as a C string.
-/
def handleRequest (files : Bytes → Opened) (docRoot : Bytes)
    (req : Request) : Response × List Bytes :=
  if isHandled req.method = false then
    (textResponse .badRequest req (ascii "Unknown HTTP-method"), [])
  else if IsIllegal req.target then
    (textResponse .badRequest req (ascii "Illegal request-target"), [])
  else
    let path := filePath docRoot req.target
    let name := cString path
    match files name with
    | .noSuchFile =>
        -- the response that says so is commented out in the source
        (textResponse .ok req (ascii "The resource was dummy."), [name])
    | .failed message =>
        (textResponse .internalServerError req
          (ascii "An error occurred: '" ++ message ++ ascii "'"), [name])
    | .opened size =>
        ({ status := .ok
           version := req.version
           contentType := mimeType path
           contentLength := size
           keepAlive := req.keepAlive
           body := if req.method = .head then .empty else .file name },
          [name])

/-! ## Sessions -/

/-- The operation a session waits for. -/
inductive Awaiting where
  /-- `run` has dispatched `do_read`. -/
  | dispatched
  | read
  | write (keepAlive : Bool)
  | nothing
  deriving DecidableEq, Repr

/-- A `session` with what it has read, answered and opened so far. -/
structure Session where
  awaiting : Awaiting
  /-- The requests read so far. -/
  requests : List Request
  /-- The responses handed to `async_write` so far. -/
  responses : List Response
  /-- How many of them are written. -/
  written : Nat
  /-- The files opened so far. -/
  opened : List Bytes
  /-- The sending side of the socket is shut down. -/
  shut : Bool
  /-- `fail` has reported an error. -/
  failed : Bool
  deriving DecidableEq, Repr

/-- `session::run`, which only dispatches the first read. -/
def Session.run : Session where
  awaiting := .dispatched
  requests := []
  responses := []
  written := 0
  opened := []
  shut := false
  failed := false

/-- `session::do_read` -/
def Session.doRead (session : Session) : Session :=
  { session with awaiting := .read }

/-- `session::do_close` -/
def Session.doClose (session : Session) : Session :=
  { session with awaiting := .nothing, shut := true }

/-- `fail`, behind which the session starts no further operation. -/
def Session.fail (session : Session) : Session :=
  { session with awaiting := .nothing, failed := true }

/-- `session::send_response` -/
def Session.sendResponse (session : Session) (msg : Response) : Session :=
  { session with
    awaiting := .write msg.keepAlive
    responses := session.responses ++ [msg] }

/-- How a read ends. -/
inductive ReadResult where
  | endOfStream
  | failed
  | request (req : Request)
  deriving DecidableEq, Repr

/-- `session::on_read` -/
def onRead (files : Bytes → Opened) (docRoot : Bytes) (session : Session) :
    ReadResult → Session
  | .endOfStream => session.doClose
  | .failed => session.fail
  | .request req =>
      let handled := handleRequest files docRoot req
      Session.sendResponse
        { session with
          requests := session.requests ++ [req]
          opened := session.opened ++ handled.2 }
        handled.1

/-- `session::on_write` -/
def onWrite (session : Session) (keepAlive failed : Bool) : Session :=
  if failed then
    session.fail
  else
    let session := { session with written := session.written + 1 }
    if keepAlive then session.doRead else session.doClose

/-! ## The server -/

/-- The `listener` and the sessions it has started. -/
structure Server where
  docRoot : Bytes
  /-- `async_accept` is under way. -/
  accepting : Bool
  sessions : List Session
  deriving DecidableEq, Repr

/-- The server when the listener runs. -/
def listening (docRoot : Bytes) : Server where
  docRoot := docRoot
  accepting := true
  sessions := []

/-- An operation of a session that completes. -/
inductive Completion where
  | dispatched
  | read (files : Bytes → Opened) (result : ReadResult)
  | wrote (failed : Bool)

/-- An operation completes if it is the one that the session awaits. -/
def complete (docRoot : Bytes) (session : Session) :
    Completion → Option Session
  | .dispatched =>
      if session.awaiting = .dispatched then some session.doRead else none
  | .read files result =>
      if session.awaiting = .read then
        some (onRead files docRoot session result)
      else
        none
  | .wrote failed =>
      match session.awaiting with
      | .write keepAlive => some (onWrite session keepAlive failed)
      | _ => none

/-- What the threads of the `io_context` run. -/
inductive Event where
  | accepted
  | acceptFailed
  | completed (index : Nat) (completion : Completion)

/-- One handler runs: that of the acceptor or that of a session. -/
def step (server : Server) : Event → Option Server
  | .accepted =>
      if server.accepting then
        some { server with sessions := server.sessions ++ [Session.run] }
      else
        none
  | .acceptFailed =>
      if server.accepting then
        some { server with accepting := false }
      else
        none
  | .completed index completion =>
      match server.sessions[index]? with
      | none => none
      | some session =>
          (complete server.docRoot session completion).map fun next =>
            { server with sessions := server.sessions.set index next }

/-- The states that are reached in any order of completions. -/
def Reachable (docRoot : Bytes) (server : Server) : Prop :=
  Run step Unrestricted (listening docRoot) server

end ZnsBench.Http.HttpServer

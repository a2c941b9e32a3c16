import ZnsBench.Core.ByteString
import ZnsBench.Core.GreedyPattern
import ZnsBench.Core.IntegerDouble

/-!
# The workload scripts of wrk

`consistency_workload.lua` and `ibm_workload.lua` replay a file of requests.
wrk loads the script into one Lua state for each of its threads and into one
more, the main state.  `init`, `request` and `response` run in the state of a
thread; `setup` and `done` run in the main state, where a thread is a handle
whose `set` and `get` reach the globals of the thread's own state.

A Lua state is therefore a record of globals and of locals of the script, and
every function says which state it reads.  A global that was never assigned
is `nil`, written `none` here.  Numbers are doubles.
-/

namespace ZnsBench.Workload.ConsistencyWorkload

open ZnsBench.Core.ByteString
open ZnsBench.Core.GreedyPattern
open ZnsBench.Core.IntegerDouble

/-! ## The Lua library -/

/-- The errors that end a call. -/
inductive LuaError where
  /-- `error(message)`. -/
  | raised (message : Bytes)
  | compareNumberWithNil
  | arithmeticOnNil
  | indexNil
  /-- A value of `string.format` is not the number that `%d` expects. -/
  | numberExpected (value : Nat)
  deriving DecidableEq, Repr

/-- A value that must not be `nil`. -/
def orError {Value : Type} (error : LuaError) :
    Option Value → Except LuaError Value
  | some value => .ok value
  | none => .error error

/-- `%s`. -/
def isSpace (byte : UInt8) : Bool :=
  decide (9 ≤ byte ∧ byte ≤ 13 ∨ byte = 32)

/-- `%d` of a pattern. -/
def isDigit (byte : UInt8) : Bool :=
  decide (48 ≤ byte ∧ byte ≤ 57)

/-- `%S`. -/
def isSolid (byte : UInt8) : Bool := !isSpace byte

/-- `\n` -/
def newline : UInt8 := 10

/-- `file:lines()`: what follows the last newline is a line unless empty. -/
def lines (contents : Bytes) : List Bytes :=
  let pieces := contents.splitOn newline
  if pieces.getLast? = some [] then pieces.dropLast else pieces

/-- The number that a string of decimal digits denotes. -/
def numeralValue (digits : Bytes) : Nat :=
  digits.foldl (fun value digit => 10 * value + (digit.toNat - 48)) 0

/-- `tonumber` of a string of decimal digits; the empty one is no number. -/
def tonumber (digits : Bytes) : Option Number :=
  if digits = [] then none else some (.ofNat (numeralValue digits))

/-- `value + 1` for a global. -/
def increment (value : Option Number) : Except LuaError Number := do
  let number ← orError .arithmeticOnNil value
  return number.add (.finite 1)

/-! ## The state of a script -/

/-- An entry of `workload`; `url` is called `object` in `ibm_workload.lua`. -/
structure Parsed where
  method : Bytes
  url : Bytes
  size : Number
  deriving DecidableEq, Repr

/-- The globals that the scripts assign. -/
structure Globals where
  id : Option Number := none
  workloadFile : Option Bytes := none
  printBodies : Option Bool := none
  index : Option Number := none
  requests : Option Number := none
  reads : Option Number := none
  writes : Option Number := none
  responses : Option Number := none
  deriving DecidableEq, Repr

/-- A Lua state with the script loaded; `wrk` is the table of that name. -/
structure LuaState (Table : Type) where
  globals : Globals := {}
  workload : List Parsed := []
  threads : List Nat := []
  counter : Number := .finite 1
  wrk : Table

/-- The arguments of `wrk.format`. -/
structure FormatCall where
  method : Bytes
  path : Bytes
  headers : Option (List (Bytes × Bytes))
  body : Option Bytes
  deriving DecidableEq, Repr

/--
What the scripts use and do not define.  The last two fields are for numbers
outside the range of a C `int` or of a 64-bit integer, where the library
leaves the result open.
-/
structure Host (Table : Type) where
  /-- `io.open(name, "r")` and the contents of the file. -/
  ioOpen : Bytes → Option Bytes
  /-- `wrk.headers[name] = value`. -/
  setHeader : Bytes → Bytes → Table → Table
  /-- `wrk.format`, which may change the table of headers. -/
  format : FormatCall → Table → Bytes × Table
  repBeyond : Bytes → Number → Bytes
  formatBeyond : Number → Bytes

/-- The two scripts form the path of a request in different ways. -/
inductive Script where
  | consistencyWorkload
  | ibmWorkload
  deriving DecidableEq, Repr

/-- The path that a script requests. -/
def Script.path : Script → Bytes → Bytes
  | .consistencyWorkload, url => url
  | .ibmWorkload, object => ascii "/" ++ object

variable {Table : Type}

/-- `string.rep`. -/
def stringRep (host : Host Table) (text : Bytes) : Number → Bytes
  | .finite count =>
      if count < 2 ^ 31 then
        (List.replicate count text).flatten
      else
        host.repBeyond text (.finite count)
  | .infinite => host.repBeyond text .infinite

/-- `%d` of `string.format`, for the value at this place. -/
def formatNumber (host : Host Table) (value : Nat) :
    Option Number → Except LuaError Bytes
  | none => .error (.numberExpected value)
  | some (.finite number) =>
      if number < 2 ^ 63 then
        .ok (decimal number)
      else
        .ok (host.formatBeyond (.finite number))
  | some .infinite => .ok (host.formatBeyond .infinite)

/-! ## init -/

/-- `"(%S+)%s+(%S+)%s*(%d*)"`. -/
def linePattern : List (Item UInt8) :=
  [⟨isSolid, .plus, true⟩,
    ⟨isSpace, .plus, false⟩,
    ⟨isSolid, .plus, true⟩,
    ⟨isSpace, .star, false⟩,
    ⟨isDigit, .star, true⟩]

/-- The entry of a line, when the pattern matches. -/
def parseLine (line : Bytes) : Option Parsed :=
  match search linePattern line with
  | some [method, fullUrl, size] =>
      some ⟨method, fullUrl, (tonumber size).getD (.finite 0)⟩
  | _ => none

/-- One pass of the loop over the lines of the file. -/
def loadLine (workload : List Parsed) (line : Bytes) : List Parsed :=
  match parseLine line with
  | some parsed => workload ++ [parsed]
  | none => workload

/-- The text of the error for a missing file name. -/
def usage : Bytes :=
  ascii
    ("Please provide the workload file: " ++
      "wrk -s wrk_put_get.lua http://host -- workload.txt")

/-- `init(args)`; `args[1]` and `args[2]` are the first two of the list. -/
def init (host : Host Table) (args : List Bytes)
    (state : LuaState Table) : Except LuaError (LuaState Table) := do
  let workloadFile ← orError (.raised usage) args[0]?
  let contents ←
    orError
      (.raised (ascii "Failed to open workload file: " ++ workloadFile))
      (host.ioOpen workloadFile)
  return { state with
    workload := (lines contents).foldl loadLine state.workload
    globals := { state.globals with
      workloadFile := some workloadFile
      printBodies := some (decide (args[1]? = some (ascii "true")))
      index := some (.finite 1)
      requests := some (.finite 0)
      reads := some (.finite 0)
      writes := some (.finite 0)
      responses := some (.finite 0) } }

/-! ## request and response -/

/-- `workload[index]`; tables start at one. -/
def entryAt (workload : List Parsed) : Number → Option Parsed
  | .finite (position + 1) => workload[position]?
  | _ => none

/-- The index of the next request, back at the start after the last. -/
def nextIndex (state : LuaState Table) : Except LuaError Number := do
  let index ← orError .compareNumberWithNil state.globals.index
  return if (Number.ofNat state.workload.length).lessThan index then
    .finite 1
  else
    index

/-- The body of a `PUT`, and no other method has one. -/
def bodyOf (host : Host Table) (req : Parsed) : Option Bytes :=
  if req.method = ascii "PUT" then
    some (stringRep host (ascii "x") req.size)
  else
    none

/-- `request`, up to the call of `wrk.format` at its end. -/
def prepare (script : Script) (host : Host Table)
    (state : LuaState Table) :
    Except LuaError (FormatCall × LuaState Table) := do
  let index ← nextIndex state
  let req ← orError .indexNil (entryAt state.workload index)
  let globals := { state.globals with index := some (index.add (.finite 1)) }
  let (globals, wrk) ←
    if req.method = ascii "PUT" then do
      let writes ← increment globals.writes
      pure
        ({ globals with writes := some writes },
          host.setHeader (ascii "Content-Type")
            (ascii "application/octet-stream") state.wrk)
    else do
      let reads ← increment globals.reads
      pure ({ globals with reads := some reads }, state.wrk)
  let requests ← increment globals.requests
  pure
    (⟨req.method, script.path req.url, none, bodyOf host req⟩,
      { state with
        globals := { globals with requests := some requests }
        wrk := wrk })

/-- `request()`. -/
def request (script : Script) (host : Host Table)
    (state : LuaState Table) :
    Except LuaError (Bytes × LuaState Table) := do
  let (call, prepared) ← prepare script host state
  let (text, wrk) := host.format call prepared.wrk
  return (text, { prepared with wrk := wrk })

/-- `response(status, headers, body)`, and what it prints. -/
def response (status : UInt16) (body : Option Bytes)
    (state : LuaState Table) :
    Except LuaError (List Bytes × LuaState Table) := do
  let responses ← increment state.globals.responses
  let printed :=
    match body with
    | some body =>
        if state.globals.printBodies = some true ∧ 0 < body.length then
          [ascii "Response [" ++ decimal status.toNat ++ ascii "]: " ++ body]
        else
          []
    | none => []
  pure
    (printed,
      { state with
        globals := { state.globals with responses := some responses } })

/-! ## The main state and the threads -/

/-- The main state, and the state of every thread under its handle. -/
structure System (Table : Type) where
  main : LuaState Table
  states : List (LuaState Table)

/-- `thread:set("id", id)`. -/
def setId (id : Number) (state : LuaState Table) : LuaState Table :=
  { state with globals := { state.globals with id := some id } }

/-- `setup(thread)`. -/
def setup (thread : Nat) (system : System Table) : System Table where
  main :=
    { system.main with
      threads := system.main.threads ++ [thread]
      counter := system.main.counter.add (.finite 1) }
  states := system.states.modify thread (setId system.main.counter)

/-- `thread:get("id")`. -/
def getId (system : System Table) (thread : Nat) : Option Number :=
  system.states[thread]?.bind fun state => state.globals.id

/--
The message of `done`: `"Thread %d made %d requests (%d PUTs, %d GETs) and
received %d responses"`.
-/
def reportLine (host : Host Table)
    (id requests writes reads responses : Option Number) :
    Except LuaError Bytes := do
  let id ← formatNumber host 1 id
  let requests ← formatNumber host 2 requests
  let writes ← formatNumber host 3 writes
  let reads ← formatNumber host 4 reads
  let responses ← formatNumber host 5 responses
  pure
    (ascii "Thread " ++ id ++ ascii " made " ++ requests ++
      ascii " requests (" ++ writes ++ ascii " PUTs, " ++ reads ++
        ascii " GETs) and received " ++ responses ++ ascii " responses")

/-- The loop of `done`: what it prints, and the error that ends it early. -/
def reportFrom (host : Host Table) (total : Option Number)
    (system : System Table) : List Nat → List Bytes × Option LuaError
  | [] => ([], none)
  | thread :: later =>
      -- The counters are the globals of the state that runs `done`.
      match
        reportLine host (getId system thread) total
          system.main.globals.writes system.main.globals.reads
          system.main.globals.responses with
      | .error error => ([], some error)
      | .ok line =>
          let rest := reportFrom host total system later
          (line :: rest.1, rest.2)

/--
`done(summary, latency, requests)`.  The parameter hides the counter of the
same name; `total` is the value of `tonumber(requests.total)`, a number or
`nil` whatever wrk passes.
-/
def done (host : Host Table) (total : Option Number)
    (system : System Table) : List Bytes × Option LuaError :=
  reportFrom host total system system.main.threads

end ZnsBench.Workload.ConsistencyWorkload

import ZnsBench.Core.RoundRobin
import ZnsBench.Workload.WorkloadFile

/-!
# Replaying a workload

`request` keeps a cursor into the workload that is taken back to the start at
the call after the last entry, and counts what it has asked for.  The
invariant of the calls gives cursor and counters as functions of the number of
calls alone: the entries that were formatted are the workload dealt around,
and the counters are the numbers of its kinds among them.

The counters are doubles, so each of them is exact up to `2 ^ 53` and stands
still from there on.
-/

namespace ZnsBench.Workload.CyclicReplay

open ZnsBench.Core.ByteString
open ZnsBench.Core.GreedyPattern
open ZnsBench.Core.IntegerDouble
open ZnsBench.Core.RoundRobin
open ZnsBench.Workload.ConsistencyWorkload
open ZnsBench.Workload.WorkloadFile

variable {Table : Type}

/-! ## One call -/

/-- The entry is counted as a write. -/
def isPut (req : Parsed) : Bool := decide (req.method = ascii "PUT")

/-- What `request` passes to `wrk.format`. -/
def formatCall (script : Script) (host : Host Table) (req : Parsed) :
    FormatCall :=
  ⟨req.method, script.path req.url, none, bodyOf host req⟩

/-- The table `wrk` at this call. -/
def tableFor (host : Host Table) (req : Parsed) (table : Table) : Table :=
  if req.method = ascii "PUT" then
    host.setHeader (ascii "Content-Type") (ascii "application/octet-stream")
      table
  else
    table

/-- The globals after a request for an entry. -/
def countRequest (req : Parsed) (index requests reads writes : Number)
    (globals : Globals) : Globals :=
  { globals with
    index := some (index.add (.finite 1))
    requests := some (requests.add (.finite 1))
    reads := some (reads.addOneIf (!isPut req))
    writes := some (writes.addOneIf (isPut req)) }

/-- What a call does when the entry is there and the counters are numbers. -/
theorem prepare_eq
    {script : Script} {host : Host Table} {state : LuaState Table}
    {index requests reads writes : Number} {req : Parsed}
    (cursor : nextIndex state = .ok index)
    (found : entryAt state.workload index = some req)
    (requestsAre : state.globals.requests = some requests)
    (readsAre : state.globals.reads = some reads)
    (writesAre : state.globals.writes = some writes) :
    prepare script host state =
      .ok
        (formatCall script host req,
          { state with
            globals :=
              countRequest req index requests reads writes state.globals
            wrk := tableFor host req state.wrk }) := by
  rcases state with ⟨globals, workload, threads, counter, wrk⟩
  rcases globals with ⟨id, file, bodies, _, _, _, _, responses⟩
  cases requestsAre
  cases readsAre
  cases writesAre
  simp only [prepare, cursor, bind, Except.bind]
  simp only at found
  simp only [found, orError]
  by_cases put : req.method = ascii "PUT"
  · simp only [put, ↓reduceIte, increment, orError, bind, Except.bind, pure,
      Except.pure, formatCall, countRequest, isPut, tableFor, decide_true,
      Number.addOneIf, Bool.not_true, Bool.false_eq_true]
  · simp only [put, ↓reduceIte, increment, orError, bind, Except.bind, pure,
      Except.pure, formatCall, countRequest, isPut, tableFor, decide_false,
      Number.addOneIf, Bool.not_false, Bool.false_eq_true]

theorem request_eq
    {script : Script} {host : Host Table} {state prepared : LuaState Table}
    {call : FormatCall}
    (made : prepare script host state = .ok (call, prepared)) :
    request script host state =
      .ok
        ((host.format call prepared.wrk).1,
          { prepared with wrk := (host.format call prepared.wrk).2 }) := by
  simp only [request, made, bind, Except.bind, pure, Except.pure]

/-! ## All calls -/

/-- The state after some calls of `request`. -/
def afterCalls (script : Script) (host : Host Table) :
    Nat → LuaState Table → Except LuaError (LuaState Table)
  | 0, state => .ok state
  | calls + 1, state => do
      let before ← afterCalls script host calls state
      let (_, after) ← request script host before
      pure after

/-- The index after some calls; it may point behind the last entry. -/
def indexAfter (length : Nat) : Nat → Nat
  | 0 => 1
  | calls + 1 => calls % length + 2

/-- The writes among the first entries of the cyclic workload. -/
def writesAmong (workload : List Parsed) (calls : Nat) : Nat :=
  (deal workload calls).countP isPut

/-- The entries among them that are no writes. -/
def readsAmong (workload : List Parsed) (calls : Nat) : Nat :=
  (deal workload calls).countP fun req => !isPut req

theorem writesAmong_add_readsAmong
    {workload : List Parsed} (nonempty : workload ≠ []) (calls : Nat) :
    writesAmong workload calls + readsAmong workload calls = calls := by
  rw [writesAmong, readsAmong]
  calc
    (deal workload calls).countP isPut +
        (deal workload calls).countP (fun req => !isPut req) =
      (deal workload calls).length := by
        rw [List.length_eq_countP_add_countP isPut]
        simp
    _ = calls := length_deal nonempty calls

theorem writesAmong_succ
    {workload : List Parsed} {calls : Nat} {req : Parsed}
    (next : workload[calls % workload.length]? = some req) :
    writesAmong workload (calls + 1) =
      writesAmong workload calls + if isPut req then 1 else 0 := by
  rw [writesAmong, deal_succ next, List.countP_append,
    List.countP_singleton, writesAmong]

theorem readsAmong_succ
    {workload : List Parsed} {calls : Nat} {req : Parsed}
    (next : workload[calls % workload.length]? = some req) :
    readsAmong workload (calls + 1) =
      readsAmong workload calls + if !isPut req then 1 else 0 := by
  rw [readsAmong, deal_succ next, List.countP_append,
    List.countP_singleton, readsAmong]

/-- The state of a thread after some calls. -/
structure Replayed (workload : List Parsed) (calls : Nat)
    (state : LuaState Table) : Prop where
  loaded : state.workload = workload
  index :
    state.globals.index =
      some (.ofNat (indexAfter workload.length calls))
  requests : state.globals.requests = some (.counted calls)
  reads : state.globals.reads = some (.counted (readsAmong workload calls))
  writes :
    state.globals.writes = some (.counted (writesAmong workload calls))

/-- `init` leaves a state in which nothing has been called. -/
theorem replayed_init
    {host : Host Table} {state : LuaState Table} (fresh : state.workload = [])
    {args : List Bytes} {name : Bytes} (named : args[0]? = some name)
    {lines : List Line} {closed : Bool} (nonempty : lines ≠ [])
    (opened : host.ioOpen name = some (fileText lines closed)) :
    ∃ ready,
      init host args state = .ok ready ∧
        Replayed ((entries lines).map Entry.parsed) 0 ready := by
  refine ⟨_, by
    simp only [init, named, opened, orError, bind, Except.bind, pure,
      Except.pure, fresh, foldl_loadLine_fileText nonempty]
    rfl, ?_⟩
  exact
    { loaded := rfl
      index := by
        rw [indexAfter, Number.ofNat_of_le (by decide)]
      requests := rfl
      reads := rfl
      writes := rfl }

/-- The index of the next call is in the workload. -/
theorem nextIndex_replayed
    {workload : List Parsed} (nonempty : workload ≠ [])
    {calls : Nat} {state : LuaState Table}
    (replayed : Replayed workload calls state)
    (exact : indexAfter workload.length calls ≤ exactBound) :
    nextIndex state = .ok (.finite (calls % workload.length + 1)) := by
  have positive : 0 < workload.length := List.length_pos_iff.mpr nonempty
  rw [nextIndex, replayed.index, replayed.loaded, Number.ofNat_of_le exact]
  simp only [orError, bind, Except.bind, pure, Except.pure,
    Number.lessThan_ofNat exact, decide_eq_true_eq, Except.ok.injEq]
  cases calls with
  | zero =>
      rw [indexAfter, Nat.zero_mod, if_neg (Nat.not_lt_of_le positive)]
  | succ calls =>
      have below := Nat.mod_lt calls positive
      rw [indexAfter, succ_mod positive]
      -- Only the last entry leads back to the first.
      by_cases inside : calls % workload.length + 1 < workload.length
      · rw [if_pos inside, if_neg (by omega)]
      · rw [if_neg inside, if_pos (by omega)]

/-- Each call formats the next entry of the cyclic workload. -/
theorem Replayed.prepare_eq
    {workload : List Parsed} {calls : Nat} {state : LuaState Table}
    (replayed : Replayed workload calls state)
    (exact : indexAfter workload.length calls ≤ exactBound)
    {req : Parsed}
    (next : workload[calls % workload.length]? = some req)
    (script : Script) (host : Host Table) :
    ∃ prepared,
      prepare script host state = .ok (formatCall script host req, prepared) ∧
        prepared.wrk = tableFor host req state.wrk ∧
          Replayed workload (calls + 1) prepared := by
  have nonempty : workload ≠ [] := by
    rintro rfl
    cases next
  have found :
      entryAt state.workload (.finite (calls % workload.length + 1)) =
        some req := by
    rw [entryAt, replayed.loaded, next]
  refine
    ⟨_, CyclicReplay.prepare_eq
      (nextIndex_replayed nonempty replayed exact) found replayed.requests
      replayed.reads replayed.writes, rfl, ?_⟩
  exact
    { loaded := replayed.loaded
      index := rfl
      requests := by
        rw [← Number.counted_add_one]
        rfl
      reads := by
        rw [readsAmong_succ next, ← Number.addOneIf_counted]
        rfl
      writes := by
        rw [writesAmong_succ next, ← Number.addOneIf_counted]
        rfl }

/-- The index is exact in a short workload, and in a short run of any. -/
theorem indexAfter_le
    {length calls : Nat} (positive : 0 < length)
    (inRange : calls + 1 ≤ exactBound ∨ length < exactBound) :
    indexAfter length calls ≤ exactBound := by
  cases calls with
  | zero =>
      rw [indexAfter]
      decide
  | succ calls =>
      have small := Nat.mod_le calls length
      have below := Nat.mod_lt calls positive
      rw [indexAfter]
      omega

/-- Calls of `request` do not fail and keep the invariant. -/
theorem replayed_afterCalls
    {workload : List Parsed} (nonempty : workload ≠ [])
    {ready : LuaState Table} (initially : Replayed workload 0 ready)
    (script : Script) (host : Host Table)
    {calls : Nat}
    (inRange : calls ≤ exactBound ∨ workload.length < exactBound) :
    ∃ state,
      afterCalls script host calls ready = .ok state ∧
        Replayed workload calls state := by
  induction calls with
  | zero => exact ⟨ready, rfl, initially⟩
  | succ calls induction =>
      have positive : 0 < workload.length := List.length_pos_iff.mpr nonempty
      have inside : calls % workload.length < workload.length :=
        Nat.mod_lt _ positive
      rcases induction (inRange.imp_left Nat.le_of_succ_le) with
        ⟨before, reached, replayed⟩
      rcases replayed.prepare_eq (indexAfter_le positive inRange)
          (List.getElem?_eq_getElem inside) script host with
        ⟨prepared, made, _, next⟩
      refine ⟨_, by
        rw [afterCalls, reached]
        simp only [request_eq made, bind, Except.bind, pure, Except.pure]
        rfl, ?_⟩
      exact
        ⟨next.loaded, next.index, next.requests, next.reads, next.writes⟩

/-! ## A workload file and its replay -/

/-- The body of the requests for an entry. -/
def entryBody (entry : Entry) : Option Bytes :=
  if entry.method.text = ascii "PUT" then
    some (List.replicate entry.bytes 120)
  else
    none

@[simp]
theorem bodyOf_parsed (host : Host Table) (entry : Entry) :
    bodyOf host entry.parsed = entryBody entry := by
  have small : entry.bytes < 2 ^ 31 := by
    rw [Entry.bytes]
    cases entry.size with
    | none => decide
    | some numeral => exact numeral.small
  have repeated :
      stringRep host (ascii "x") (.finite entry.bytes) =
        List.replicate entry.bytes 120 := by
    rw [stringRep, if_pos small]
    exact List.flatten_replicate_singleton
  rw [bodyOf, entryBody, Entry.parsed, repeated]

theorem formatCall_parsed (host : Host Table) (entry : Entry) :
    formatCall .consistencyWorkload host entry.parsed =
      ⟨entry.method.text, entry.url.text, none, entryBody entry⟩ := by
  rw [formatCall, bodyOf_parsed, Script.path, Entry.parsed]

/-- The counters after some calls; a Lua number counts up to `2 ^ 53`. -/
structure Counted (workload : List Parsed) (calls : Nat)
    (globals : Globals) : Prop where
  writes :
    globals.writes =
      some (.finite (min (writesAmong workload calls) (2 ^ 53)))
  reads :
    globals.reads =
      some (.finite (min (readsAmong workload calls) (2 ^ 53)))
  requests : globals.requests = some (.finite (min calls (2 ^ 53)))
  total : writesAmong workload calls + readsAmong workload calls = calls

theorem Replayed.counted
    {workload : List Parsed} (nonempty : workload ≠ [])
    {calls : Nat} {state : LuaState Table}
    (replayed : Replayed workload calls state) :
    Counted workload calls state.globals where
  writes := replayed.writes
  reads := replayed.reads
  requests := replayed.requests
  total := writesAmong_add_readsAmong nonempty calls

/--
A workload file is loaded entry by entry, and the calls of `request` format
its entries one after another, around and around.
-/
theorem workload_replayed
    (host : Host Table) {state : LuaState Table} (fresh : state.workload = [])
    {args : List Bytes} {name : Bytes} (named : args[0]? = some name)
    {lines : List Line} (nonempty : entries lines ≠ []) {closed : Bool}
    (opened : host.ioOpen name = some (fileText lines closed)) :
    ∃ ready,
      init host args state = .ok ready ∧
        ready.workload = (entries lines).map Entry.parsed ∧
          ∀ n, 1 ≤ n →
            (n ≤ 2 ^ 53 ∨ (entries lines).length < 2 ^ 53) →
              ∃ entry before after,
                (entries lines)[(n - 1) % (entries lines).length]? =
                    some entry ∧
                  afterCalls .consistencyWorkload host (n - 1) ready =
                      .ok before ∧
                    request .consistencyWorkload host before =
                        .ok
                          ((host.format
                            ⟨entry.method.text, entry.url.text, none,
                              entryBody entry⟩
                            (tableFor host entry.parsed before.wrk)).1,
                            after) ∧
                      Counted ((entries lines).map Entry.parsed) n
                        after.globals := by
  have linesNonempty : lines ≠ [] := by
    rintro rfl
    exact nonempty rfl
  have loadedNonempty : (entries lines).map Entry.parsed ≠ [] := by
    simpa using nonempty
  rcases replayed_init fresh named linesNonempty opened with
    ⟨ready, initialised, initially⟩
  refine ⟨ready, initialised, initially.loaded, ?_⟩
  intro n positive inRange
  rcases Nat.exists_eq_add_of_le' positive with ⟨calls, rfl⟩
  rw [Nat.add_sub_cancel]
  have lengthPositive : 0 < (entries lines).length :=
    List.length_pos_iff.mpr nonempty
  have inside : calls % (entries lines).length < (entries lines).length :=
    Nat.mod_lt _ lengthPositive
  have loadedRange :
      calls + 1 ≤ exactBound ∨
        ((entries lines).map Entry.parsed).length < exactBound := by
    rw [List.length_map]
    exact inRange
  rcases replayed_afterCalls loadedNonempty initially .consistencyWorkload
      host (loadedRange.imp_left Nat.le_of_succ_le) with
    ⟨before, reached, replayed⟩
  have next :
      ((entries lines).map Entry.parsed)[calls %
          ((entries lines).map Entry.parsed).length]? =
        some (entries lines)[calls % (entries lines).length].parsed := by
    rw [List.length_map, List.getElem?_map, List.getElem?_eq_getElem inside,
      Option.map_some]
  rcases replayed.prepare_eq
      (indexAfter_le (by rwa [List.length_map]) loadedRange) next
      .consistencyWorkload host with
    ⟨prepared, made, table, after⟩
  have answered := request_eq made
  rw [table, formatCall_parsed] at answered
  exact
    ⟨_, before, _, List.getElem?_eq_getElem inside, reached, answered,
      after.counted loadedNonempty⟩

/-! ## A host -/

/-- The table of headers as a list. -/
abbrev Headers := List (Bytes × Bytes)

/-- The headers but those with a name. -/
def removeHeader (name : Bytes) (headers : Headers) : Headers :=
  headers.filter fun header => decide (header.1 ≠ name)

/-- A header is set, in place of any other with its name. -/
def putHeader (name value : Bytes) (headers : Headers) : Headers :=
  removeHeader name headers ++ [(name, value)]

/--
`wrk.format` without headers of the call's own: it sets `Content-Length` for
the body and writes everything out.
-/
def wrkFormat (call : FormatCall) (headers : Headers) : Bytes × Headers :=
  let sent :=
    match call.body with
    | some body =>
        putHeader (ascii "Content-Length") (decimal body.length) headers
    | none => removeHeader (ascii "Content-Length") headers
  let lineEnd : Bytes := [13, 10]
  (call.method ++ ascii " " ++ call.path ++ ascii " HTTP/1.1" ++ lineEnd ++
      sent.flatMap (fun header =>
        header.1 ++ ascii ": " ++ header.2 ++ lineEnd) ++
      lineEnd ++ call.body.getD [],
    sent)

/-- `wrk.headers` when the script is loaded. -/
def wrkTable : Headers := [(ascii "Host", ascii "12.12.12.1:2000")]

/-- wrk next to one workload file. -/
def wrkHost (contents : Bytes) : Host Headers where
  ioOpen := fun name =>
    if name = ascii "workload.txt" then some contents else none
  setHeader := putHeader
  format := wrkFormat
  repBeyond := fun _ _ => []
  formatBeyond := fun _ => ascii "-9223372036854775808"

@[simp]
theorem wrkHost_ioOpen (contents : Bytes) :
    (wrkHost contents).ioOpen (ascii "workload.txt") = some contents := by
  simp only [wrkHost, ↓reduceIte]

/-- No white space. -/
def noBlanks : Blanks := ⟨[], admitted_nil isSpace, List.not_mem_nil⟩

/-- A single space. -/
def blank : Gap := ⟨⟨[32], by decide, by decide⟩, by decide⟩

/-- One space between the fields and no other white space. -/
def plainLayout : Layout := ⟨noBlanks, blank, blank, noBlanks⟩

/-- `PUT /a 3`. -/
def putEntry : Entry where
  method := ⟨ascii "PUT", by decide +kernel, by decide +kernel⟩
  url := ⟨ascii "/a", by decide +kernel, by decide +kernel⟩
  size :=
    some
      ⟨ascii "3", by decide +kernel, by decide +kernel, by decide +kernel⟩

/-- `GET /b`. -/
def getEntry : Entry where
  method := ⟨ascii "GET", by decide +kernel, by decide +kernel⟩
  url := ⟨ascii "/b", by decide +kernel, by decide +kernel⟩
  size := none

/-- The two requests, a blank line and a line of one word. -/
def sampleLines : List Line :=
  [.request putEntry plainLayout, .blank noBlanks,
    .oneToken noBlanks getEntry.url blank.toBlanks,
    .request getEntry plainLayout]

/-- The third call starts over: it formats the `PUT` with its three bytes. -/
theorem sample_workload_replayed :
    ∃ ready before after,
      init (wrkHost (fileText sampleLines true)) [ascii "workload.txt"]
          { wrk := wrkTable } =
          .ok ready ∧
        ready.workload = [putEntry.parsed, getEntry.parsed] ∧
          afterCalls .consistencyWorkload
              (wrkHost (fileText sampleLines true)) 2 ready =
              .ok before ∧
            request .consistencyWorkload
                (wrkHost (fileText sampleLines true)) before =
                .ok
                  ((wrkFormat
                    ⟨ascii "PUT", ascii "/a", none, some [120, 120, 120]⟩
                    (putHeader (ascii "Content-Type")
                      (ascii "application/octet-stream") before.wrk)).1,
                    after) ∧
              after.globals.requests = some (.finite 3) := by
  rcases workload_replayed (wrkHost (fileText sampleLines true))
      (show ({ wrk := wrkTable } : LuaState Headers).workload = [] from rfl)
      (show [ascii "workload.txt"][0]? = some (ascii "workload.txt") from rfl)
      (show entries sampleLines ≠ [] from List.cons_ne_nil _ _)
      (wrkHost_ioOpen (fileText sampleLines true)) with
    ⟨ready, initialised, loaded, replayed⟩
  rcases replayed 3 (by decide) (Or.inl (by decide)) with
    ⟨entry, before, after, third, reached, answered, counted⟩
  have first : putEntry = entry := Option.some.inj third
  subst first
  exact
    ⟨ready, before, after, initialised, loaded, reached, answered,
      counted.requests⟩

/-! ## Where the numbers end -/

/-- In a workload of more than `2 ^ 53` entries the cursor stands still. -/
theorem nextIndex_stands_still
    {workload : List Parsed} (long : exactBound < workload.length)
    {state : LuaState Table} (replayed : Replayed workload exactBound state) :
    nextIndex state = .ok (.finite exactBound) := by
  have index : indexAfter workload.length exactBound = exactBound + 1 := by
    have below : exactBound - 1 < workload.length := by omega
    calc
      indexAfter workload.length exactBound =
          (exactBound - 1) % workload.length + 2 := rfl
      _ = exactBound - 1 + 2 := by rw [Nat.mod_eq_of_lt below]
      _ = exactBound + 1 := by decide
  have roundedBack : Number.ofNat (exactBound + 1) = .finite exactBound := by
    decide
  have notBehind :
      (Number.ofNat workload.length).lessThan (.finite exactBound) =
        false := by
    rw [Number.lessThan_ofNat (Nat.le_refl _), decide_eq_false]
    omega
  rw [nextIndex, replayed.index, replayed.loaded, index, roundedBack]
  simp only [orError, bind, Except.bind, pure, Except.pure, notBehind,
    Bool.false_eq_true, ↓reduceIte]

/-- Many times `GET /b`, then once `PUT /a 3`. -/
def longLines (count : Nat) : List Line :=
  List.replicate count (.request getEntry plainLayout) ++
    [.request putEntry plainLayout]

@[simp]
theorem entries_longLines (count : Nat) :
    entries (longLines count) =
      List.replicate count getEntry ++ [putEntry] := by
  have get :
      (Line.request getEntry plainLayout).toEntry = some getEntry :=
    rfl
  rw [entries, longLines, List.filterMap_append,
    List.filterMap_replicate_of_some get]
  rfl

/-- The entry behind the many is the `PUT`. -/
theorem getElem?_entries_longLines (count : Nat) :
    (entries (longLines count))[count % (entries (longLines count)).length]? =
      some putEntry := by
  have inside :
      count % (List.replicate count getEntry ++ [putEntry]).length =
        count := by
    apply Nat.mod_eq_of_lt
    simp
  rw [entries_longLines, inside, List.getElem?_append_right (by simp)]
  simp

theorem exists_ready_longLines (count : Nat) :
    ∃ ready,
      init (wrkHost (fileText (longLines count) true))
          [ascii "workload.txt"] { wrk := wrkTable } =
          .ok ready ∧
        Replayed ((entries (longLines count)).map Entry.parsed) 0 ready := by
  have nonempty : longLines count ≠ [] := by simp [longLines]
  exact
    replayed_init rfl rfl nonempty (wrkHost_ioOpen (fileText _ true))

theorem nonempty_longLines (count : Nat) :
    (entries (longLines count)).map Entry.parsed ≠ [] := by
  simp [entries_longLines]

/-- The call that should format the `PUT` formats the last `GET` again. -/
theorem prepare_longLines
    {state : LuaState Headers} (script : Script) (host : Host Headers)
    (replayed :
      Replayed ((entries (longLines exactBound)).map Entry.parsed) exactBound
        state) :
    ∃ prepared,
      prepare script host state =
        .ok (formatCall script host getEntry.parsed, prepared) := by
  have positive : 0 < exactBound := by decide
  have long :
      exactBound <
        ((entries (longLines exactBound)).map Entry.parsed).length := by
    rw [List.length_map, entries_longLines, List.length_append,
      List.length_replicate, List.length_singleton]
    exact Nat.lt_succ_self _
  have last :
      ((entries (longLines exactBound)).map Entry.parsed)[exactBound - 1]? =
        some getEntry.parsed := by
    have inside :
        exactBound - 1 < (List.replicate exactBound getEntry).length := by
      rw [List.length_replicate]
      omega
    rw [List.getElem?_map, entries_longLines,
      List.getElem?_append_left inside, List.getElem?_eq_getElem inside,
      List.getElem_replicate, Option.map_some]
  have found :
      entryAt state.workload (.finite exactBound) = some getEntry.parsed := by
    rw [replayed.loaded, ← last]
    rfl
  exact
    ⟨_, prepare_eq (nextIndex_stands_still long replayed) found
      replayed.requests replayed.reads replayed.writes⟩

/--
One call after `2 ^ 53` is not counted any more; and when there are more
entries than that, it does not format the next one.
-/
theorem replay_stands_still :
    (∃ ready after,
      init (wrkHost (fileText (longLines 0) true))
          [ascii "workload.txt"] { wrk := wrkTable } =
          .ok ready ∧
        afterCalls .consistencyWorkload
            (wrkHost (fileText (longLines 0) true)) (2 ^ 53 + 1) ready =
            .ok after ∧
          after.globals.requests ≠ some (.finite (2 ^ 53 + 1))) ∧
      (entries (longLines (2 ^ 53)))[2 ^ 53 %
          (entries (longLines (2 ^ 53))).length]? =
          some putEntry ∧
        ∃ ready before prepared,
          init (wrkHost (fileText (longLines (2 ^ 53)) true))
              [ascii "workload.txt"] { wrk := wrkTable } =
              .ok ready ∧
            afterCalls .consistencyWorkload
                (wrkHost (fileText (longLines (2 ^ 53)) true)) (2 ^ 53)
                ready =
                .ok before ∧
              prepare .consistencyWorkload
                  (wrkHost (fileText (longLines (2 ^ 53)) true)) before =
                .ok
                  (⟨ascii "GET", ascii "/b", none, none⟩, prepared) := by
  refine ⟨?_, getElem?_entries_longLines (2 ^ 53), ?_⟩
  · rcases exists_ready_longLines 0 with ⟨ready, initialised, initially⟩
    rcases replayed_afterCalls (nonempty_longLines 0) initially
        .consistencyWorkload (wrkHost (fileText (longLines 0) true))
        (Or.inr (by decide)) with
      ⟨after, reached, replayed⟩
    refine ⟨ready, after, initialised, reached, ?_⟩
    rw [replayed.requests]
    decide
  · rcases exists_ready_longLines (2 ^ 53) with
      ⟨ready, initialised, initially⟩
    rcases replayed_afterCalls (nonempty_longLines (2 ^ 53)) initially
        .consistencyWorkload
        (wrkHost (fileText (longLines (2 ^ 53)) true))
        (Or.inl (Nat.le_refl exactBound)) with
      ⟨before, reached, replayed⟩
    rcases prepare_longLines .consistencyWorkload
        (wrkHost (fileText (longLines (2 ^ 53)) true)) replayed with
      ⟨prepared, made⟩
    rw [formatCall_parsed] at made
    exact ⟨ready, before, prepared, initialised, reached, made⟩

end ZnsBench.Workload.CyclicReplay

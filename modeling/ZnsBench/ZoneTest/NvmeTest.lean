import ZnsBench.ZoneTest.ReadWriteTest

/-!
# The zone test on the NVMe driver

`zns_nvme_test.cc` submits its commands to a queue pair and polls for their
completions itself: `while (ctx->num_queued)` calls
`spdk_nvme_qpair_process_completions`, which runs the callbacks of the
commands that have completed.  The callback of the last append calls
`read_zone`, which polls in a loop of its own, inside the callback.

The polling loops are a stack of frames, each at the test of its condition or
inside a call that processes completions.  The device chooses which command
completes next, with which status, and what is in the read buffer then, which
the reads share.
-/

namespace ZnsBench.ZoneTest.NvmeTest

open ZnsBench.Core.GuardedRun
open ZnsBench.ZoneTest.ReadWriteTest hiding Event initial step Reachable
  release submit resetZone writeZone readZone resetZoneComplete
  writeZoneComplete step_cases

/-- Where a polling loop is. -/
inductive Frame where
  | atTest
  | processing
  deriving DecidableEq, Repr

/-- The part of `ZstoreContext` that the test uses. -/
structure ZstoreContext where
  count : Int32
  numQueued : UInt64
  numCompleted : UInt64
  numSuccess : UInt64
  numFail : UInt64
  writeBuff : List UInt8
  readBuff : List UInt8
  inFlight : List Command
  /-- The polling loops, the innermost first. -/
  frames : List Frame
  started : Bool
  /-- The arguments of `spdk_app_stop`, each after the queue pair is freed. -/
  stops : List Int
  deriving DecidableEq, Repr

/-- `ns`: the zone size in sectors and the size of the buffers. -/
structure Geometry where
  zoneSize : UInt64
  buffSize : Nat
  deriving DecidableEq, Repr

/-- The context before the first phase. -/
def initial (geometry : Geometry) : ZstoreContext where
  count := 0
  numQueued := 0
  numCompleted := 0
  numSuccess := 0
  numFail := 0
  writeBuff := List.replicate geometry.buffSize 0
  readBuff := List.replicate geometry.buffSize 0
  inFlight := []
  frames := []
  started := false
  stops := []

/-! ## Operations -/

/-- `spdk_nvme_ctrlr_free_io_qpair` and `spdk_app_stop`. -/
def stop (rc : Int) (ctx : ZstoreContext) : ZstoreContext :=
  { ctx with stops := ctx.stops ++ [rc] }

/-- Enter a polling loop. -/
def poll (ctx : ZstoreContext) : ZstoreContext :=
  { ctx with frames := .atTest :: ctx.frames }

/--
The loop that `write_zone` and `read_zone` have in common, with the polling
that follows it.  The first failing submission stops the application and
leaves the function.
-/
def submitAll (command : UInt64 → Command) :
    List (UInt64 × Int) → ZstoreContext → ZstoreContext
  | [], ctx => poll ctx
  | (slba, rc) :: rest, ctx =>
      let queued := { ctx with numQueued := ctx.numQueued + 1 }
      if rc ≠ 0 then
        stop (-1) queued
      else
        submitAll command rest
          { queued with inFlight := queued.inFlight ++ [command slba] }

/-- The targets of the loops: two zones, one block each. -/
def targets (geometry : Geometry) : List UInt64 :=
  zoneStarts 2 geometry.zoneSize

/-- `read_zone` -/
def readZone (geometry : Geometry) (rcs : List Int)
    (ctx : ZstoreContext) : ZstoreContext :=
  submitAll .read (attempts (targets geometry) rcs)
    { ctx with
      count := 0
      numQueued := ctx.numQueued + 1
      readBuff := List.replicate geometry.buffSize 0x34 }

/-- `write_zone` -/
def writeZone (geometry : Geometry) (rcs : List Int)
    (ctx : ZstoreContext) : ZstoreContext :=
  submitAll .append (attempts (targets geometry) rcs)
    { ctx with
      count := 2 * 0x1
      writeBuff := List.replicate geometry.buffSize 0x12 }

/-- The loop of `reset_zone`: `-ENOMEM` is logged and passed over. -/
def submitResets :
    List (UInt64 × Int) → ZstoreContext → ZstoreContext
  | [], ctx => poll ctx
  | (slba, rc) :: rest, ctx =>
      if rc = -enomem then
        submitResets rest ctx
      else if rc ≠ 0 then
        stop (-1) ctx
      else
        submitResets rest
          { ctx with inFlight := ctx.inFlight ++ [.reset slba] }

/-- `reset_zone` resets the zone after the one it counts. -/
def resetZone (geometry : Geometry) (rcs : List Int)
    (ctx : ZstoreContext) : ZstoreContext :=
  submitResets
    (attempts
      ((targets geometry).map fun slba => slba + geometry.zoneSize) rcs)
    { ctx with
      count := 2
      numQueued := ctx.numQueued + 1 }

/-- The error branch of the three callbacks. -/
def completeFailed (ctx : ZstoreContext) : ZstoreContext :=
  stop (-1)
    { ctx with
      numCompleted := ctx.numCompleted + 1
      numFail := ctx.numFail + 1
      numQueued := ctx.numQueued - 1 }

/-- The counters of a completion that counts as a success. -/
def completeSucceeded (ctx : ZstoreContext) : ZstoreContext :=
  { ctx with
    numCompleted := ctx.numCompleted + 1
    numSuccess := ctx.numSuccess + 1
    numQueued := ctx.numQueued - 1 }

/-- `read_complete` -/
def readComplete (isError : Bool) (ctx : ZstoreContext) : ZstoreContext :=
  if isError then
    completeFailed ctx
  else if ctx.writeBuff ≠ ctx.readBuff then
    -- This branch counts the completion and nothing else.
    stop (-1) { ctx with numCompleted := ctx.numCompleted + 1 }
  else
    let counted :=
      { completeSucceeded ctx with count := ctx.count + 1 }
    if counted.count = 2 * 0x1 then stop 0 counted else counted

/-- `write_zone_complete` -/
def writeZoneComplete (geometry : Geometry) (isError : Bool)
    (rcs : List Int) (ctx : ZstoreContext) : ZstoreContext :=
  if isError then
    completeFailed ctx
  else
    let counted :=
      { completeSucceeded ctx with count := ctx.count - 1 }
    if counted.count = 0 then readZone geometry rcs counted else counted

/-- `reset_zone_complete` -/
def resetZoneComplete (geometry : Geometry) (isError : Bool)
    (rcs : List Int) (ctx : ZstoreContext) : ZstoreContext :=
  if isError then
    completeFailed ctx
  else
    let counted :=
      { completeSucceeded ctx with count := ctx.count - 1 }
    if counted.count = 2 then writeZone geometry rcs counted else counted

/-! ## Runs -/

/-- What can happen next. -/
inductive Event where
  | writeZone (rcs : List Int)
  | resetZone (rcs : List Int)
  /-- The innermost loop tests `num_queued`. -/
  | test
  /-- The call that processes completions returns. -/
  | processed
  /-- A callback of the innermost loop, with the buffer it finds. -/
  | complete (command : Command) (isError : Bool) (buffer : List UInt8)
      (rcs : List Int)
  deriving DecidableEq, Repr

/-- The callback of a command. -/
def callback (geometry : Geometry) (command : Command) (isError : Bool)
    (rcs : List Int) (ctx : ZstoreContext) : ZstoreContext :=
  match command with
  | .reset _ => resetZoneComplete geometry isError rcs ctx
  | .append _ => writeZoneComplete geometry isError rcs ctx
  | .read _ => readComplete isError ctx

/-- The transitions of the test. -/
def step (geometry : Geometry) (ctx : ZstoreContext) :
    Event → Option ZstoreContext
  | .writeZone rcs =>
      if ctx.started then
        none
      else
        some (writeZone geometry rcs { ctx with started := true })
  | .resetZone rcs =>
      if ctx.started then
        none
      else
        some (resetZone geometry rcs { ctx with started := true })
  | .test =>
      match ctx.frames with
      | .atTest :: outer =>
          if ctx.numQueued = 0 then
            some { ctx with frames := outer }
          else
            some { ctx with frames := .processing :: outer }
      | _ => none
  | .processed =>
      match ctx.frames with
      | .processing :: outer =>
          some { ctx with frames := .atTest :: outer }
      | _ => none
  | .complete command isError buffer rcs =>
      if ctx.frames.head? = some .processing ∧
          command ∈ ctx.inFlight then
        some
          (callback geometry command isError rcs
            { ctx with
              inFlight := ctx.inFlight.erase command
              readBuff := buffer })
      else
        none

/-- What one step can do. -/
theorem step_cases
    {geometry : Geometry} {ctx next : ZstoreContext} {event : Event}
    (taken : step geometry ctx event = some next) :
    (∃ rcs,
      event = .writeZone rcs ∧
        ctx.started = false ∧
          next = writeZone geometry rcs { ctx with started := true }) ∨
      (∃ rcs,
        event = .resetZone rcs ∧
          ctx.started = false ∧
            next = resetZone geometry rcs { ctx with started := true }) ∨
        (∃ outer,
          event = .test ∧
            ctx.frames = .atTest :: outer ∧
              next =
                { ctx with
                  frames :=
                    if ctx.numQueued = 0 then
                      outer
                    else
                      .processing :: outer }) ∨
          (∃ outer,
            event = .processed ∧
              ctx.frames = .processing :: outer ∧
                next = { ctx with frames := .atTest :: outer }) ∨
            (∃ command isError buffer rcs,
              event = .complete command isError buffer rcs ∧
                ctx.frames.head? = some .processing ∧
                  command ∈ ctx.inFlight ∧
                    next =
                      callback geometry command isError rcs
                        { ctx with
                          inFlight := ctx.inFlight.erase command
                          readBuff := buffer }) := by
  cases event with
  | writeZone rcs =>
      simp only [step] at taken
      split at taken
      · cases taken
      · rename_i unstarted
        left
        exact
          ⟨rcs, rfl, by simpa using unstarted, (Option.some.inj taken).symm⟩
  | resetZone rcs =>
      simp only [step] at taken
      split at taken
      · cases taken
      · rename_i unstarted
        right
        left
        exact
          ⟨rcs, rfl, by simpa using unstarted, (Option.some.inj taken).symm⟩
  | test =>
      simp only [step] at taken
      split at taken
      · rename_i outer framed
        right
        right
        left
        refine ⟨outer, rfl, framed, ?_⟩
        split at taken
        · rename_i zero
          rw [if_pos zero]
          exact (Option.some.inj taken).symm
        · rename_i nonzero
          rw [if_neg nonzero]
          exact (Option.some.inj taken).symm
      · cases taken
  | processed =>
      simp only [step] at taken
      split at taken
      · rename_i outer framed
        right
        right
        right
        left
        exact ⟨outer, rfl, framed, (Option.some.inj taken).symm⟩
      · cases taken
  | complete command isError buffer rcs =>
      simp only [step] at taken
      split at taken
      · rename_i ready
        right
        right
        right
        right
        exact
          ⟨command, isError, buffer, rcs, rfl, ready.1, ready.2,
            (Option.some.inj taken).symm⟩
      · cases taken

/-! ## The loops in closed form -/

theorem length_targets_le (geometry : Geometry) :
    (targets geometry).length ≤ 2 := by
  unfold targets zoneStarts
  exact (List.takeWhile_sublist _).length_le.trans (by simp)

/-- All submissions are accepted and polled for, or one of them fails. -/
theorem submitAll_cases
    (command : UInt64 → Command) (attempted : List (UInt64 × Int))
    (ctx : ZstoreContext) :
    ∃ sent : List UInt64,
      sent.length = attempted.length ∧
          submitAll command attempted ctx =
            poll
              { ctx with
                numQueued := ctx.numQueued + UInt64.ofNat sent.length
                inFlight := ctx.inFlight ++ sent.map command } ∨
        sent.length < attempted.length ∧
          submitAll command attempted ctx =
            stop (-1)
              { ctx with
                numQueued :=
                  ctx.numQueued + UInt64.ofNat (sent.length + 1)
                inFlight := ctx.inFlight ++ sent.map command } := by
  induction attempted generalizing ctx with
  | nil => exact ⟨[], Or.inl ⟨rfl, by simp [submitAll]⟩⟩
  | cons attempt rest induction =>
      rcases attempt with ⟨slba, rc⟩
      have more (number : Nat) :
          ctx.numQueued + 1 + UInt64.ofNat number =
            ctx.numQueued + UInt64.ofNat (number + 1) := by
        rw [UInt64.add_assoc, Nat.add_comm number, UInt64.ofNat_add]
        rfl
      by_cases zero : rc = 0
      · rw [submitAll, if_neg (by simpa using zero)]
        rcases
            induction
              { ctx with
                numQueued := ctx.numQueued + 1
                inFlight := ctx.inFlight ++ [command slba] } with
          ⟨sent, ⟨equal, all⟩ | ⟨fewer, failed⟩⟩
        · refine ⟨slba :: sent, Or.inl ⟨congrArg (· + 1) equal, ?_⟩⟩
          rw [all]
          simp only [more, List.length_cons, List.map_cons,
            List.append_assoc, List.singleton_append]
        · refine ⟨slba :: sent, Or.inr ⟨Nat.succ_lt_succ fewer, ?_⟩⟩
          rw [failed]
          simp only [more, List.length_cons, List.map_cons,
            List.append_assoc, List.singleton_append]
      · refine ⟨[], Or.inr ⟨Nat.succ_pos _, ?_⟩⟩
        rw [submitAll, if_pos zero]
        simp

/-- A reset fails for good, or the accepted ones are polled for. -/
theorem submitResets_cases
    (attempted : List (UInt64 × Int)) (ctx : ZstoreContext) :
    (∀ attempt ∈ attempted, resetFails attempt.2 = false) ∧
        submitResets attempted ctx =
          poll
            { ctx with
              inFlight :=
                ctx.inFlight ++ (accepted attempted).map .reset } ∨
      (∃ attempt ∈ attempted, resetFails attempt.2 = true) ∧
        ∃ sent : List UInt64,
          submitResets attempted ctx =
            stop (-1)
              { ctx with inFlight := ctx.inFlight ++ sent.map .reset } := by
  induction attempted generalizing ctx with
  | nil =>
      left
      simp [submitResets, accepted]
  | cons attempt rest induction =>
      rcases attempt with ⟨slba, rc⟩
      by_cases full : rc = -enomem
      · have nonzero : rc ≠ 0 := by
          rw [full]
          decide
        have tolerated : resetFails rc = false := by simp [resetFails, full]
        rw [submitResets, if_pos full]
        rcases induction ctx with
          ⟨none, all⟩ | ⟨⟨failing, member, fails⟩, sent, failed⟩
        · left
          refine ⟨?_, ?_⟩
          · simpa [tolerated] using none
          · rw [all]
            simp [accepted, nonzero]
        · right
          exact
            ⟨⟨failing, List.mem_cons_of_mem _ member, fails⟩, sent, failed⟩
      · rw [submitResets, if_neg full]
        by_cases zero : rc = 0
        · have tolerated : resetFails rc = false := by
            simp [resetFails, zero]
          rw [if_neg (by simpa using zero)]
          rcases
              induction
                { ctx with
                  inFlight := ctx.inFlight ++ [.reset slba] } with
            ⟨none, all⟩ | ⟨⟨failing, member, fails⟩, sent, failed⟩
          · left
            refine ⟨?_, ?_⟩
            · simpa [tolerated] using none
            · rw [all]
              simp [accepted, zero]
          · right
            refine
              ⟨⟨failing, List.mem_cons_of_mem _ member, fails⟩,
                slba :: sent, ?_⟩
            rw [failed]
            simp
        · right
          refine ⟨⟨(slba, rc), List.mem_cons_self, ?_⟩, [], ?_⟩
          · simp [resetFails, full, zero]
          · rw [if_pos zero]
            simp

end ZnsBench.ZoneTest.NvmeTest

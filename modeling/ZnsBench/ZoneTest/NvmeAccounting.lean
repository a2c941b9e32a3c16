import ZnsBench.ZoneTest.NvmeTest

/-!
# Queue accounting of the NVMe zone test

A polling loop ends when `num_queued` is zero, so that at each test it should
be the number of commands in flight.  `write_zone` keeps it so: it counts
every append, and its callback counts every completion once.  `read_zone`
counts one command more than it submits, and a mismatch counts none of the
completions; `reset_zone` counts one command for two.

The accounting is right at a test of a run if and only if `read_zone` has not
been entered, and `reset_zone`, when it was called, had exactly one of its
resets accepted.
-/

namespace ZnsBench.ZoneTest.NvmeAccounting

open ZnsBench.Core.CommandCounter
open ZnsBench.Core.GuardedRun
open ZnsBench.ZoneTest.ReadWriteTest
  (Command Kind attempts accepted resetFails length_attempts)
open ZnsBench.ZoneTest.NvmeTest

/-! ## The law and the condition -/

/-- The innermost loop is about to test `num_queued`. -/
def AtTest (ctx : ZstoreContext) : Prop :=
  ctx.frames.head? = some .atTest

/-- The counters agree with the commands. -/
structure Accounted (ctx : ZstoreContext) : Prop where
  queued : ctx.numQueued.toNat = ctx.inFlight.length
  completed : ctx.numCompleted = ctx.numSuccess + ctx.numFail

/-- The submissions of `reset_zone`. -/
def resetAttempts (geometry : Geometry) (rcs : List Int) :
    List (UInt64 × Int) :=
  attempts ((targets geometry).map fun slba => slba + geometry.zoneSize) rcs

/--
No append enters `read_zone`; `reset_zone` does not get to its polling loop,
or exactly one reset is accepted.
-/
def Tolerable (geometry : Geometry) (ctx : ZstoreContext) : Event → Prop
  | .resetZone rcs =>
      (∃ attempt ∈ resetAttempts geometry rcs,
        resetFails attempt.2 = true) ∨
        (accepted (resetAttempts geometry rcs)).length = 1
  | .complete (.append _) isError _ _ =>
      isError = true ∨ ctx.count - 1 ≠ 0
  | _ => True

instance (geometry : Geometry) (ctx : ZstoreContext) (event : Event) :
    Decidable (Tolerable geometry ctx event) :=
  match event with
  | .resetZone _ => inferInstanceAs (Decidable (_ ∨ _))
  | .complete (.append _) _ _ _ => inferInstanceAs (Decidable (_ ∨ _))
  | .complete (.reset _) _ _ _ => isTrue True.intro
  | .complete (.read _) _ _ _ => isTrue True.intro
  | .writeZone _ => isTrue True.intro
  | .test => isTrue True.intro
  | .processed => isTrue True.intro

/-- Runs, with the record of whether all their steps were tolerable. -/
def Reachable (geometry : Geometry) (ctx : ZstoreContext)
    (tolerable : Bool) : Prop :=
  Run (judged (step geometry) (Tolerable geometry))
    (fun pair event => Unrestricted pair.1 event)
    (initial geometry, true) (ctx, tolerable)

/-! ## The stages of a run -/

/-- Commands of one kind are in flight; `offset` is what is miscounted. -/
structure Counting (kind : Kind) (offset : UInt64) (ctx : ZstoreContext) :
    Prop where
  started : ctx.started = true
  flight : ∀ command ∈ ctx.inFlight, command.kind = kind
  queued : ctx.numQueued = UInt64.ofNat ctx.inFlight.length + offset
  completed : ctx.numCompleted = ctx.numSuccess + ctx.numFail
  count :
    ∃ number,
      ctx.count = Int32.ofNat number ∧
        ctx.inFlight.length ≤ number ∧ number ≤ 2

/-- Reads are in flight, and too many commands are counted. -/
structure Reading (ctx : ZstoreContext) : Prop where
  started : ctx.started = true
  flight : ∀ command ∈ ctx.inFlight, command.kind = .read
  queued :
    ∃ extra,
      0 < extra ∧
        ctx.inFlight.length + extra ≤ 3 ∧
          ctx.numQueued = UInt64.ofNat (ctx.inFlight.length + extra)

/-- Where a run is, given whether its steps were tolerable. -/
inductive Stage (geometry : Geometry) (ctx : ZstoreContext)
    (tolerable : Prop) : Prop where
  | unstarted (fresh : ctx = initial geometry) (all : tolerable)
  /-- A submission failed before any polling. -/
  | abandoned (started : ctx.started = true) (none : ctx.frames = [])
  | resetting (offset : UInt64) (counting : Counting .reset offset ctx)
      (exact : offset = 0 ↔ tolerable)
  | writing (counting : Counting .append 0 ctx) (all : tolerable)
  | reading (reading : Reading ctx) (some : ¬ tolerable)

theorem Stage.congr
    {geometry : Geometry} {ctx : ZstoreContext} {tolerable other : Prop}
    (stage : Stage geometry ctx tolerable) (same : tolerable ↔ other) :
    Stage geometry ctx other := by
  rw [← propext same]
  exact stage

/-- A frame does not matter to the counters. -/
theorem Counting.frames
    {kind : Kind} {offset : UInt64} {ctx : ZstoreContext}
    (counting : Counting kind offset ctx) (frames : List Frame) :
    Counting kind offset { ctx with frames := frames } :=
  ⟨counting.started, counting.flight, counting.queued, counting.completed,
    counting.count⟩

theorem Reading.frames
    {ctx : ZstoreContext} (reading : Reading ctx) (frames : List Frame) :
    Reading { ctx with frames := frames } :=
  ⟨reading.started, reading.flight, reading.queued⟩

/-! ## Completions -/

/-- A completion that is counted once. -/
structure Completes (command : Command) (ctx next : ZstoreContext) :
    Prop where
  started : next.started = ctx.started
  flight : next.inFlight = ctx.inFlight.erase command
  queued : next.numQueued = ctx.numQueued - 1
  completed :
    next.numCompleted = ctx.numCompleted + 1 ∧
      next.numSuccess + next.numFail = ctx.numSuccess + ctx.numFail + 1

theorem completes_completeFailed
    (command : Command) (buffer : List UInt8) (ctx : ZstoreContext) :
    Completes command ctx
      (completeFailed
        { ctx with
          inFlight := ctx.inFlight.erase command
          readBuff := buffer }) :=
  ⟨rfl, rfl, rfl, rfl, (UInt64.add_assoc _ _ _).symm⟩

theorem completes_completeSucceeded
    (command : Command) (buffer : List UInt8) (count : Int32)
    (ctx : ZstoreContext) :
    Completes command ctx
      { completeSucceeded
          { ctx with
            inFlight := ctx.inFlight.erase command
            readBuff := buffer } with
        count := count } := by
  refine ⟨rfl, rfl, rfl, rfl, ?_⟩
  simp only [completeSucceeded]
  rw [UInt64.add_assoc, UInt64.add_comm 1, ← UInt64.add_assoc]

/-- What is counted once stays counted. -/
theorem Counting.completes
    {kind : Kind} {offset : UInt64} {ctx next : ZstoreContext}
    {command : Command}
    (counting : Counting kind offset ctx)
    (present : command ∈ ctx.inFlight)
    (completes : Completes command ctx next)
    (count :
      next.count = ctx.count ∨ next.count = ctx.count - 1) :
    Counting kind offset next := by
  have shorter : next.inFlight.length + 1 = ctx.inFlight.length := by
    rw [completes.flight]
    exact List.length_erase_add_one present
  refine ⟨completes.started.trans counting.started, ?_, ?_, ?_, ?_⟩
  · intro other member
    rw [completes.flight] at member
    exact counting.flight other (List.mem_of_mem_erase member)
  · rw [completes.queued, counting.queued, ← shorter, UInt64.ofNat_add,
      UInt64.add_assoc, UInt64.add_comm (UInt64.ofNat 1),
      ← UInt64.add_assoc]
    exact UInt64.add_sub_cancel _ _
  · rw [completes.completed.1, completes.completed.2, counting.completed]
  · rcases counting.count with ⟨number, counted, enough, few⟩
    rcases count with same | less
    · exact ⟨number, same.trans counted, by omega, few⟩
    · rcases Nat.exists_eq_succ_of_ne_zero (by omega : number ≠ 0) with
        ⟨previous, rfl⟩
      refine ⟨previous, ?_, by omega, by omega⟩
      rw [less, counted]
      exact ofNat_succ_sub_one previous

/-- The counter of `reset_zone` never reaches the test for two. -/
theorem Counting.count_ne_two
    {kind : Kind} {offset : UInt64} {ctx : ZstoreContext}
    (counting : Counting kind offset ctx) (present : ctx.inFlight ≠ []) :
    ctx.count - 1 ≠ 2 := by
  rcases counting.count with ⟨number, counted, enough, few⟩
  have positive := List.length_pos_iff.mpr present
  have cases : number = 1 ∨ number = 2 := by omega
  rcases cases with rfl | rfl
  · rw [counted]
    decide
  · rw [counted]
    decide

/-- When the counter of the appends reaches zero, none is in flight. -/
theorem Counting.alone
    {kind : Kind} {offset : UInt64} {ctx : ZstoreContext}
    (counting : Counting kind offset ctx) (zero : ctx.count = 0) :
    ctx.inFlight = [] := by
  rcases counting.count with ⟨number, counted, enough, few⟩
  have none : number = 0 := by
    have cases : number = 0 ∨ number = 1 ∨ number = 2 := by omega
    rw [counted] at zero
    rcases cases with rfl | rfl | rfl
    · rfl
    · exact absurd zero (by decide)
    · exact absurd zero (by decide)
  exact List.length_eq_zero_iff.mp (by omega)

/-! ## Entering the functions -/

variable {geometry : Geometry}

theorem kind_of_mem_map
    (command : UInt64 → Command) {kind : Kind}
    (same : ∀ target, (command target).kind = kind)
    (sent : List UInt64) :
    ∀ other ∈ sent.map command, other.kind = kind := by
  intro other member
  rcases List.mem_map.mp member with ⟨target, _, rfl⟩
  exact same target

/-- `read_zone` counts one command too many, or two when it fails. -/
theorem reading_readZone
    (rcs : List Int) {ctx : ZstoreContext}
    (started : ctx.started = true) (alone : ctx.inFlight = [])
    (none : ctx.numQueued = 0) :
    Reading (readZone geometry rcs ctx) := by
  have few := length_targets_le geometry
  rw [readZone]
  rcases
      submitAll_cases .read (attempts (targets geometry) rcs)
        { ctx with
          count := 0
          numQueued := ctx.numQueued + 1
          readBuff := List.replicate geometry.buffSize 0x34 } with
    ⟨sent, ⟨equal, all⟩ | ⟨fewer, failed⟩⟩
  · rw [length_attempts] at equal
    rw [all]
    refine ⟨started, ?_, 1, by omega, ?_, ?_⟩
    · simp only [poll, alone, List.nil_append]
      exact kind_of_mem_map .read (fun _ => rfl) sent
    · simp only [poll, alone, List.nil_append, List.length_map]
      omega
    · simp only [poll, alone, none, List.nil_append, List.length_map]
      rw [UInt64.zero_add, UInt64.add_comm, UInt64.ofNat_add]
      rfl
  · rw [length_attempts] at fewer
    rw [failed]
    refine ⟨started, ?_, 2, by omega, ?_, ?_⟩
    · simp only [stop, alone, List.nil_append]
      exact kind_of_mem_map .read (fun _ => rfl) sent
    · simp only [stop, alone, List.nil_append, List.length_map]
      omega
    · simp only [stop, alone, none, List.nil_append, List.length_map]
      rw [UInt64.zero_add, UInt64.add_comm, ← UInt64.ofNat_one,
        ← UInt64.ofNat_add]

/-- `write_zone` polls for as many appends as it counts. -/
theorem stage_writeZone (rcs : List Int) :
    Stage geometry
      (writeZone geometry rcs { initial geometry with started := true })
      True := by
  have few := length_targets_le geometry
  rw [writeZone]
  rcases
      submitAll_cases .append (attempts (targets geometry) rcs)
        { initial geometry with
          started := true
          count := 2 * 0x1
          writeBuff := List.replicate geometry.buffSize 0x12 } with
    ⟨sent, ⟨equal, all⟩ | ⟨fewer, failed⟩⟩
  · rw [length_attempts] at equal
    rw [all]
    refine .writing ⟨rfl, ?_, ?_, rfl, 2, rfl, ?_, le_refl _⟩ True.intro
    · exact kind_of_mem_map .append (fun _ => rfl) sent
    · simp [poll, initial]
    · simp [poll, initial]
      omega
  · rw [failed]
    exact .abandoned rfl rfl

/-- `reset_zone` counts one command. -/
theorem stage_resetZone (rcs : List Int) :
    Stage geometry
      (resetZone geometry rcs { initial geometry with started := true })
      (Tolerable geometry (initial geometry) (.resetZone rcs)) := by
  have few := length_targets_le geometry
  rw [resetZone]
  rcases
      submitResets_cases (resetAttempts geometry rcs)
        { initial geometry with
          started := true
          count := 2
          numQueued := (initial geometry).numQueued + 1 } with
    ⟨none, all⟩ | ⟨_, sent, failed⟩
  · have bound : (accepted (resetAttempts geometry rcs)).length ≤ 2 := by
      have shorter :
          (accepted (resetAttempts geometry rcs)).length ≤
            (resetAttempts geometry rcs).length := by
        rw [accepted, List.length_map]
        exact List.length_filter_le _ _
      rw [resetAttempts, length_attempts, List.length_map] at shorter
      rw [resetAttempts]
      omega
    have exact :
        1 - UInt64.ofNat (accepted (resetAttempts geometry rcs)).length =
            0 ↔
          Tolerable geometry (initial geometry) (.resetZone rcs) := by
      have fine :
          ¬ ∃ attempt ∈ resetAttempts geometry rcs,
            resetFails attempt.2 = true := by
        rintro ⟨attempt, member, fails⟩
        rw [none attempt member] at fails
        cases fails
      rw [Tolerable, or_iff_right fine]
      generalize (accepted (resetAttempts geometry rcs)).length = number
        at bound
      have cases : number = 0 ∨ number = 1 ∨ number = 2 := by omega
      rcases cases with rfl | rfl | rfl <;> decide
    refine .resetting _ ?_ exact
    change
      Counting _ _ (submitResets (resetAttempts geometry rcs) _)
    rw [all]
    refine ⟨rfl, ?_, ?_, rfl, 2, rfl, ?_, le_refl _⟩
    · exact kind_of_mem_map .reset (fun _ => rfl) _
    · simp only [poll, initial, List.nil_append, List.length_map]
      rw [UInt64.add_comm (UInt64.ofNat _), UInt64.sub_add_cancel]
      rfl
    · simpa [poll, initial] using bound
  · change Stage geometry (submitResets (resetAttempts geometry rcs) _) _
    rw [failed]
    exact .abandoned rfl rfl

/-! ## Callbacks -/

/-- What the device hands to a callback. -/
def settled (command : Command) (buffer : List UInt8)
    (ctx : ZstoreContext) : ZstoreContext :=
  { ctx with
    inFlight := ctx.inFlight.erase command
    readBuff := buffer }

/-- A completed reset, whether it failed or not. -/
theorem Counting.resetDone
    {offset : UInt64} {ctx : ZstoreContext}
    (counting : Counting .reset offset ctx) {slba : UInt64}
    (present : .reset slba ∈ ctx.inFlight) (isError : Bool)
    (buffer : List UInt8) (rcs : List Int) :
    Counting .reset offset
      (resetZoneComplete geometry isError rcs
        (settled (.reset slba) buffer ctx)) := by
  have running := counting.count_ne_two (List.ne_nil_of_mem present)
  rw [resetZoneComplete]
  split
  · exact
      counting.completes present (completes_completeFailed _ buffer ctx)
        (Or.inl rfl)
  · dsimp only
    rw [if_neg (by exact running)]
    exact
      counting.completes present
        (completes_completeSucceeded _ buffer (ctx.count - 1) ctx)
        (Or.inr rfl)

/-- A completed append that does not enter `read_zone`. -/
theorem Counting.appendDone
    {ctx : ZstoreContext} (counting : Counting .append 0 ctx)
    {slba : UInt64} (present : .append slba ∈ ctx.inFlight)
    {isError : Bool} (tolerable : isError = true ∨ ctx.count - 1 ≠ 0)
    (buffer : List UInt8) (rcs : List Int) :
    Counting .append 0
      (writeZoneComplete geometry isError rcs
        (settled (.append slba) buffer ctx)) := by
  rw [writeZoneComplete]
  split
  · exact
      counting.completes present (completes_completeFailed _ buffer ctx)
        (Or.inl rfl)
  · rename_i succeeded
    have more : ctx.count - 1 ≠ 0 := tolerable.resolve_left succeeded
    dsimp only
    rw [if_neg (by exact more)]
    exact
      counting.completes present
        (completes_completeSucceeded _ buffer (ctx.count - 1) ctx)
        (Or.inr rfl)

/-- The last append enters `read_zone`. -/
theorem Counting.lastAppend
    {ctx : ZstoreContext} (counting : Counting .append 0 ctx)
    {slba : UInt64} (present : .append slba ∈ ctx.inFlight)
    (last : ctx.count - 1 = 0) (buffer : List UInt8) (rcs : List Int) :
    Reading
      (writeZoneComplete geometry false rcs
        (settled (.append slba) buffer ctx)) := by
  have counted :=
    counting.completes present
      (completes_completeSucceeded _ buffer (ctx.count - 1) ctx)
      (Or.inr rfl)
  have alone := counted.alone last
  have none := counted.queued
  rw [alone] at none
  rw [writeZoneComplete, if_neg (by simp)]
  dsimp only
  rw [if_pos (by exact last)]
  exact reading_readZone rcs counted.started alone none

/-- Reads that complete leave too many commands counted. -/
theorem Reading.readDone
    {ctx : ZstoreContext} (reading : Reading ctx) {lba : UInt64}
    (present : .read lba ∈ ctx.inFlight) (isError : Bool)
    (buffer : List UInt8) :
    Reading (readComplete isError (settled (.read lba) buffer ctx)) := by
  have shorter := List.length_erase_add_one present
  have flight :
      ∀ command ∈ ctx.inFlight.erase (.read lba), command.kind = .read := by
    intro command member
    exact reading.flight command (List.mem_of_mem_erase member)
  rcases reading.queued with ⟨extra, some, few, queued⟩
  -- One command less in flight and one less counted.
  have counted :
      ctx.numQueued - 1 =
        UInt64.ofNat
          ((ctx.inFlight.erase (.read lba)).length + extra) := by
    rw [queued, ← shorter, Nat.add_right_comm, UInt64.ofNat_add]
    exact UInt64.add_sub_cancel _ _
  rw [readComplete]
  split
  · exact
      ⟨reading.started, flight, extra, some, by
        simp only [completeFailed, stop, settled]
        omega, counted⟩
  · split
    · -- The mismatch is not counted.
      refine ⟨reading.started, flight, extra + 1, by omega, ?_, ?_⟩
      · simp only [stop, settled]
        omega
      · simp only [stop, settled]
        rw [queued, ← shorter]
        congr 1
        omega
    · dsimp only
      split
      · exact
          ⟨reading.started, flight, extra, some, by
            simp only [completeSucceeded, stop, settled]
            omega, counted⟩
      · exact
          ⟨reading.started, flight, extra, some, by
            simp only [completeSucceeded, settled]
            omega, counted⟩

/-! ## Steps and runs -/

/-- The callbacks of a stage keep to it, or enter `read_zone`. -/
theorem stage_complete
    {ctx : ZstoreContext} {earlier : Prop}
    (stage : Stage geometry ctx earlier)
    (framed : ctx.frames.head? = some .processing)
    {command : Command} (present : command ∈ ctx.inFlight)
    (isError : Bool) (buffer : List UInt8) (rcs : List Int) :
    Stage geometry
      (callback geometry command isError rcs (settled command buffer ctx))
      (earlier ∧
        Tolerable geometry ctx (.complete command isError buffer rcs)) := by
  cases stage with
  | unstarted fresh all =>
      rw [fresh] at present
      cases present
  | abandoned started none =>
      rw [none] at framed
      cases framed
  | resetting offset counting exact =>
      have kind := counting.flight command present
      cases command with
      | reset slba =>
          refine
            .resetting offset
              (counting.resetDone present isError buffer rcs) ?_
          rw [exact]
          exact (and_iff_left True.intro).symm
      | append slba => cases kind
      | read lba => cases kind
  | writing counting all =>
      have kind := counting.flight command present
      cases command with
      | append slba =>
          by_cases tolerable : isError = true ∨ ctx.count - 1 ≠ 0
          · exact
              .writing (counting.appendDone present tolerable buffer rcs)
                ⟨all, tolerable⟩
          · push Not at tolerable
            rcases tolerable with ⟨succeeded, last⟩
            have success : isError = false := by simpa using succeeded
            subst success
            refine
              .reading (counting.lastAppend present last buffer rcs) ?_
            rintro ⟨_, failed | more⟩
            · cases failed
            · exact more last
      | reset slba => cases kind
      | read lba => cases kind
  | reading reading some =>
      have kind := reading.flight command present
      cases command with
      | read lba =>
          refine .reading (reading.readDone present isError buffer) ?_
          exact fun tolerable => some tolerable.1
      | reset slba => cases kind
      | append slba => cases kind

/-- Only an unstarted run has not started. -/
theorem Stage.fresh
    {ctx : ZstoreContext} {earlier : Prop}
    (stage : Stage geometry ctx earlier) (unstarted : ctx.started = false) :
    ctx = initial geometry ∧ earlier := by
  cases stage with
  | unstarted fresh all => exact ⟨fresh, all⟩
  | abandoned started none =>
      rw [started] at unstarted
      cases unstarted
  | resetting offset counting exact =>
      rw [counting.started] at unstarted
      cases unstarted
  | writing counting all =>
      rw [counting.started] at unstarted
      cases unstarted
  | reading reading some =>
      rw [reading.started] at unstarted
      cases unstarted

/-- A loop that is polling may move within its stage. -/
theorem Stage.frames
    {ctx : ZstoreContext} {earlier : Prop}
    (stage : Stage geometry ctx earlier) (some : ctx.frames ≠ [])
    (frames : List Frame) :
    Stage geometry { ctx with frames := frames } earlier := by
  cases stage with
  | unstarted fresh all =>
      rw [fresh] at some
      exact absurd rfl some
  | abandoned started none => exact absurd none some
  | resetting offset counting exact =>
      exact .resetting offset (counting.frames frames) exact
  | writing counting all => exact .writing (counting.frames frames) all
  | reading reading some => exact .reading (reading.frames frames) some

theorem stage_step
    {ctx next : ZstoreContext} {event : Event} {earlier : Prop}
    (stage : Stage geometry ctx earlier)
    (taken : step geometry ctx event = some next) :
    Stage geometry next (earlier ∧ Tolerable geometry ctx event) := by
  rcases step_cases taken with
    ⟨rcs, rfl, unstarted, rfl⟩ | ⟨rcs, rfl, unstarted, rfl⟩ |
      ⟨outer, rfl, framed, rfl⟩ | ⟨outer, rfl, framed, rfl⟩ |
      ⟨command, isError, buffer, rcs, rfl, framed, present, rfl⟩
  · rcases stage.fresh unstarted with ⟨rfl, all⟩
    exact
      (stage_writeZone rcs).congr
        ⟨fun _ => ⟨all, True.intro⟩, fun _ => True.intro⟩
  · rcases stage.fresh unstarted with ⟨rfl, all⟩
    exact (stage_resetZone rcs).congr (and_iff_right all).symm
  · refine
      (stage.frames ?_ _).congr (and_iff_left True.intro).symm
    rw [framed]
    exact List.cons_ne_nil _ _
  · refine
      (stage.frames ?_ _).congr (and_iff_left True.intro).symm
    rw [framed]
    exact List.cons_ne_nil _ _
  · exact stage_complete stage framed present isError buffer rcs

theorem stage_of_reachable
    {ctx : ZstoreContext} {tolerable : Bool}
    (reachable : Reachable geometry ctx tolerable) :
    Stage geometry ctx (tolerable = true) :=
  Run.preserves_judged (Stage geometry) reachable
    (.unstarted rfl True.intro)
    fun _ _ _ _ stage _ taken => stage_step stage taken

/-! ## The law at a test -/

theorem Counting.accounted_iff
    {kind : Kind} {offset : UInt64} {ctx : ZstoreContext}
    (counting : Counting kind offset ctx) :
    Accounted ctx ↔ offset = 0 := by
  rcases counting.count with ⟨number, _, enough, few⟩
  have small :
      (UInt64.ofNat ctx.inFlight.length).toNat = ctx.inFlight.length :=
    UInt64.toNat_ofNat_of_lt' (by
      have : UInt64.size = 18446744073709551616 := rfl
      omega)
  constructor
  · intro accounted
    have same : ctx.numQueued = UInt64.ofNat ctx.inFlight.length := by
      rw [← UInt64.toNat_inj, small]
      exact accounted.queued
    rw [counting.queued] at same
    exact UInt64.add_eq_left.mp same
  · rintro rfl
    refine ⟨?_, counting.completed⟩
    rw [counting.queued, UInt64.add_zero, small]

theorem Reading.not_accounted
    {ctx : ZstoreContext} (reading : Reading ctx) : ¬ Accounted ctx := by
  rcases reading.queued with ⟨extra, some, few, queued⟩
  intro accounted
  have counted := accounted.queued
  rw [queued, UInt64.toNat_ofNat_of_lt' (by
    have : UInt64.size = 18446744073709551616 := rfl
    omega)] at counted
  omega

/--
At each test of a polling loop the accounting is right if and only if all
steps so far were tolerable.
-/
theorem accounted_iff_steps_tolerable
    (geometry : Geometry) (ctx : ZstoreContext) (tolerable : Bool)
    (reachable : Reachable geometry ctx tolerable)
    (testing : AtTest ctx) :
    Accounted ctx ↔ tolerable = true := by
  cases stage_of_reachable reachable with
  | unstarted fresh all =>
      rw [fresh] at testing
      cases testing
  | abandoned started none =>
      rw [AtTest, none] at testing
      cases testing
  | resetting offset counting exact =>
      exact counting.accounted_iff.trans exact
  | writing counting all =>
      exact iff_of_true (counting.accounted_iff.mpr rfl) all
  | reading reading some => exact iff_of_false reading.not_accounted some

instance (ctx : ZstoreContext) : Decidable (AtTest ctx) :=
  inferInstanceAs (Decidable (_ = _))

/-- A small zone with a buffer of one byte. -/
def smallZone : Geometry where
  zoneSize := 256
  buffSize := 1

/-- One append succeeds and the other fails, and the loop ends. -/
theorem accounted_after_failed_append :
    ∃ ctx,
      Reachable smallZone ctx true ∧
        AtTest ctx ∧
          ctx.numQueued = 0 ∧ ctx.stops = [-1] ∧ Accounted ctx := by
  have replayed :
      ∃ pair : ZstoreContext × Bool,
        Reachable smallZone pair.1 pair.2 ∧
          pair.2 = true ∧
            AtTest pair.1 ∧ pair.1.numQueued = 0 ∧ pair.1.stops = [-1] :=
    Run.exists_of_replay _
      [.writeZone [], .test, .complete (.append 0) false [0] [],
        .complete (.append 256) true [0] [], .processed]
      (by decide +kernel)
  rcases replayed with ⟨⟨ctx, _⟩, reached, rfl, testing, queued, stopped⟩
  exact
    ⟨ctx, reached, testing, queued, stopped,
      (accounted_iff_steps_tolerable smallZone ctx true reached
        testing).mpr rfl⟩

/--
Both appends and both reads succeed.  The device has answered everything, and
the loop of `read_zone` goes on.
-/
theorem read_zone_polls_for_no_command :
    ∃ ctx tolerable,
      Reachable smallZone ctx tolerable ∧
        AtTest ctx ∧
          ctx.numQueued = 1 ∧ ctx.inFlight = [] ∧ ¬ Accounted ctx := by
  have replayed :
      ∃ pair : ZstoreContext × Bool,
        Reachable smallZone pair.1 pair.2 ∧
          AtTest pair.1 ∧ pair.1.numQueued = 1 ∧ pair.1.inFlight = [] :=
    Run.exists_of_replay _
      [.writeZone [], .test, .complete (.append 0) false [0] [],
        .complete (.append 256) false [0] [], .test,
        .complete (.read 0) false [0x12] [],
        .complete (.read 256) false [0x12] [], .processed]
      (by decide +kernel)
  rcases replayed with ⟨⟨ctx, tolerable⟩, reached, testing, queued, none⟩
  refine ⟨ctx, tolerable, reached, testing, queued, none, ?_⟩
  intro accounted
  have counted := accounted.queued
  rw [queued, none] at counted
  cases counted

end ZnsBench.ZoneTest.NvmeAccounting

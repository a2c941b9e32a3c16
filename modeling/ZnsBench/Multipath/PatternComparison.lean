import ZnsBench.Multipath.NoFalseAlarm

/-!
# What the comparison of a verify read tells

`task_complete` turns the block that a verify read returned into a C string
and compares its first 50 characters, or fewer when the pattern is shorter,
with the pattern that the append wrote.

The counter value in a pattern ends with a colon within these characters, so
the comparison tells the block of an append from the block of every other
one.  Its verdict depends on the block alone, but the string is as long as the
memory is free of zero bytes: it ends within the block exactly when the
block holds a zero byte.
-/

namespace ZnsBench.Multipath.PatternComparison

open ZnsBench.Core.ByteString
open ZnsBench.Core.GuardedRun
open ZnsBench.Multipath.NamespaceRegistration
open ZnsBench.Multipath.SpdkInterface
open ZnsBench.Multipath.VerificationEngine
open ZnsBench.Multipath.VerifierHistory
open ZnsBench.Multipath.NoFalseAlarm

/-! ## Patterns -/

/-- What follows the counter value in a pattern, without the colon. -/
def patternRest (count : UInt64) : Bytes :=
  ascii "pattern:" ++ decimal (count * 0xDEADBEEF).toNat

/-- The counter value of a pattern stands between the first two colons. -/
theorem dataPattern_eq (count : UInt64) :
    dataPattern count =
      ascii "zstore1:" ++
        (decimal count.toNat ++ 58 :: patternRest count) := by
  have colon : ascii ":pattern:" = 58 :: ascii "pattern:" := by
    decide +kernel
  rw [dataPattern, colon, List.append_assoc]
  rfl

theorem colon_notMem_decimal (number : Nat) : 58 ∉ decimal number := by
  intro member
  exact absurd (mem_decimal member).2 (by decide)

/-- The comparison covers the counter value and the colon behind it. -/
theorem length_decimal_lt_compareLen (count : UInt64) :
    (decimal count.toNat).length <
      min (dataPattern count).length 50 - 8 := by
  have short := length_decimal_le count
  have head : (ascii "zstore1:").length = 8 := by decide +kernel
  have length :
      (dataPattern count).length =
        8 +
          ((decimal count.toNat).length +
            ((patternRest count).length + 1)) := by
    rw [dataPattern_eq, List.length_append, List.length_append,
      List.length_cons, head]
  have rest : 8 ≤ (patternRest count).length := by
    have middle : (ascii "pattern:").length = 8 := by decide +kernel
    rw [patternRest, List.length_append, middle]
    omega
  omega

/-- Patterns that agree where they are compared are the same pattern. -/
theorem eq_of_take_dataPattern_eq
    {count other : UInt64}
    (same :
      (dataPattern other).take (min (dataPattern count).length 50) =
        (dataPattern count).take (min (dataPattern count).length 50)) :
    count = other := by
  have head : (ascii "zstore1:").length = 8 := by decide +kernel
  have beyond := length_decimal_lt_compareLen count
  generalize min (dataPattern count).length 50 = compareLen at same beyond
  have split (rest : Bytes) :
      (ascii "zstore1:" ++ rest).take compareLen =
        ascii "zstore1:" ++ rest.take (compareLen - 8) := by
    rw [List.take_append, List.take_of_length_le (by omega), head]
  rw [dataPattern_eq, dataPattern_eq, split, split,
    List.append_cancel_left_eq] at same
  have numerals :=
    eq_of_take_delimited_eq (colon_notMem_decimal _)
      (colon_notMem_decimal _) beyond same.symm
  exact UInt64.toNat_inj.mp (decimal_inj.mp numerals)

/-- A block that holds a pattern matches that pattern and no other. -/
theorem dataMatches_block_iff
    {setup : Setup}
    (ioSize : 512 ≤ setup.arbitration.ioSizeBytes.toNat)
    (count other : UInt64) (adjacent : Bytes) :
    dataMatches (block setup (dataPattern other) ++ adjacent)
        (dataPattern count) = true ↔
      count = other := by
  constructor
  · intro matched
    have short := length_dataPattern_le other
    have readBack :
        cString (block setup (dataPattern other) ++ adjacent) =
          dataPattern other :=
      cString_snprintfText (zero_notMem_dataPattern other) (by omega)
        adjacent
    rw [dataMatches, readBack, beq_iff_eq] at matched
    exact eq_of_take_dataPattern_eq matched
  · rintro rfl
    exact dataMatches_block ioSize count adjacent

/-! ## The verdict -/

/-- A completed read moves one of the two verdict counters. -/
theorem verdict_settle
    (completion : Completion) (index : Nat) {task : ArbTask}
    (state : Verifier) (mode : task.verificationMode = true) :
    let matched :=
      dataMatches (completion.payload ++ completion.adjacent)
        task.expectedData
    (settle completion index task state).ctx.verificationPassed =
        state.ctx.verificationPassed + (if matched then 1 else 0) ∧
      (settle completion index task state).ctx.verificationFailed =
        state.ctx.verificationFailed + (if matched then 0 else 1) := by
  have payload :
      (deliver completion task).readBuf.getD [] = completion.payload := by
    rw [deliver, if_pos mode]
    rfl
  rw [ctx_settle_read _ _ _ _ mode, payload]
  dsimp only
  split
  · exact ⟨rfl, (UInt64.add_zero _).symm⟩
  · exact ⟨(UInt64.add_zero _).symm, rfl⟩

/-- What follows the verdict in the callback does not change it. -/
theorem verdict_refill
    {setup : Setup} {outcome : SubmitOutcome} {state next : Verifier}
    (refilled : refill setup outcome state = .ok next) :
    next.ctx.verificationPassed = state.ctx.verificationPassed ∧
      next.ctx.verificationFailed = state.ctx.verificationFailed := by
  rcases refill_cases refilled with
    ⟨_, idle⟩ | ⟨_, _, _, _, _, _, submitted⟩ | ⟨_, _, submitted⟩
  · cases idle
    exact ⟨rfl, rfl⟩
  · rcases submits_verifyRead submitted with ⟨stale, submits⟩
    rcases submits.ctx with ⟨_, _, _, ctx⟩
    rw [ctx]
    exact ⟨rfl, rfl⟩
  · rcases submits_append submitted with ⟨stale, submits⟩
    rcases submits.ctx with ⟨_, _, _, ctx⟩
    rw [ctx]
    exact ⟨rfl, rfl⟩

/-- A verify read in flight expects the pattern of some append. -/
theorem exists_expected
    {setup : Setup} {taskPool : List ArbTask} {state : Verifier}
    (reachable : Reachable setup taskPool Unrestricted state)
    {task : ArbTask} (member : task ∈ state.inFlight)
    (mode : task.verificationMode = true) :
    ∃ count, task.expectedData = dataPattern count := by
  have history := history_of_reachable reachable
  rcases history.reading task member mode with ⟨finish, done, key⟩
  rcases (history.appended finish done).1 with ⟨count, expected, _⟩
  refine ⟨count, ?_⟩
  rw [← expected]
  exact (congrArg Prod.snd key).symm

/--
The comparison of the block of one append with the pattern of another
succeeds if and only if they are the same; and in every run, a verify read
that gets the block of another append is counted as failed, one that gets its
own as passed.
-/
theorem pattern_identifies_its_write
    (setup : Setup)
    (ioSize : 512 ≤ setup.arbitration.ioSizeBytes.toNat) :
    (∀ count other adjacent,
      dataMatches (block setup (dataPattern other) ++ adjacent)
          (dataPattern count) = true ↔
        count = other) ∧
      ∀ taskPool state,
        Reachable setup taskPool Unrestricted state →
          ∀ index task completion outcome next other,
            state.inFlight[index]? = some task →
              task.verificationMode = true →
                completion.payload = block setup (dataPattern other) →
                  step setup state (.complete index completion outcome) =
                      some next →
                    ∃ count,
                      task.expectedData = dataPattern count ∧
                        next.ctx.verificationPassed =
                          state.ctx.verificationPassed +
                            (if count = other then 1 else 0) ∧
                        next.ctx.verificationFailed =
                          state.ctx.verificationFailed +
                            (if count = other then 0 else 1) := by
  refine ⟨dataMatches_block_iff ioSize, ?_⟩
  intro taskPool state reachable index task completion outcome next other
    found mode payload taken
  rcases
      exists_expected reachable (List.mem_of_getElem? found) mode with
    ⟨count, expected⟩
  have verdict := verdict_settle completion index state mode
  rcases verdict_refill (refill_of_complete found taken) with
    ⟨passed, failed⟩
  have matched :=
    dataMatches_block_iff ioSize count other completion.adjacent
  rw [payload, expected] at verdict
  refine ⟨count, expected, ?_, ?_⟩
  · rw [passed, verdict.1]
    simp only [matched]
  · rw [failed, verdict.2]
    simp only [matched]

/-- The verify read of append 0 gets the block of append 1. -/
theorem other_block_is_counted_as_failed :
    ∃ state next,
      Reachable oneDeep [idleTask] Unrestricted state ∧
        step oneDeep state
            (.complete 0 ⟨false, 0, block oneDeep (dataPattern 1), []⟩
              ⟨0, true, 0, 0⟩) =
          some next ∧
          next.ctx.verificationPassed = 0 ∧
            next.ctx.verificationFailed = 1 := by
  have replayed :
      ∃ state,
        Reachable oneDeep [idleTask] Unrestricted state ∧
          (state.inFlight[0]?.any fun task =>
              task.verificationMode &&
                task.expectedData == dataPattern 0) = true ∧
            state.ctx.verificationPassed = 0 ∧
              state.ctx.verificationFailed = 0 ∧
                (step oneDeep state
                  (.complete 0
                    ⟨false, 0, block oneDeep (dataPattern 1), []⟩
                    ⟨0, true, 0, 0⟩)).isSome = true :=
    Run.exists_of_replay _
      [.submit ⟨0, true, 0, 0⟩,
        .complete 0 ⟨false, 7, [], []⟩ ⟨0, true, 0, 0⟩]
      (by decide +kernel)
  rcases replayed with ⟨state, reached, reading, passed, failed, ran⟩
  rw [Option.any_eq_true] at reading
  rcases reading with ⟨task, found, verifying⟩
  rw [Bool.and_eq_true, beq_iff_eq] at verifying
  rcases verifying with ⟨mode, expected⟩
  rcases Option.isSome_iff_exists.mp ran with ⟨next, taken⟩
  rcases
      (pattern_identifies_its_write oneDeep (by decide)).2 _ state reached 0
        task _ _ next 1 found mode rfl taken with
    ⟨count, own, nextPassed, nextFailed⟩
  rw [expected] at own
  have zero : count = 0 :=
    eq_of_take_dataPattern_eq (by rw [own])
  rw [zero, passed] at nextPassed
  rw [zero, failed] at nextFailed
  exact ⟨state, next, reached, taken, nextPassed, nextFailed⟩

/-! ## The bytes the comparison looks at -/

/--
The bytes that `std::string(pointer)` examines: the string and, behind it, the
zero byte that ends it.
-/
def examinedBytes (memory : Bytes) : Nat := (cString memory).length + 1

/--
The verification branch on a block: it stays inside the block, and its
verdict is the comparison of the first bytes of the block and the pattern.
-/
structure LooksAtBlock (task : ArbTask) (block adjacent : Bytes)
    (ctx : NsWorkerCtx) : Prop where
  examined : examinedBytes (block ++ adjacent) ≤ block.length
  passed :
    (recordCompletion task adjacent ctx).verificationPassed =
      ctx.verificationPassed +
        if block.take (min task.expectedData.length 50) =
            task.expectedData.take 50 then
          1
        else
          0
  failed :
    (recordCompletion task adjacent ctx).verificationFailed =
      ctx.verificationFailed +
        if block.take (min task.expectedData.length 50) =
            task.expectedData.take 50 then
          0
        else
          1

theorem dataMatches_iff_take_eq
    {block : Bytes} (size : 512 ≤ block.length)
    (count : UInt64) (adjacent : Bytes) :
    dataMatches (block ++ adjacent) (dataPattern count) = true ↔
      block.take (min (dataPattern count).length 50) =
        (dataPattern count).take 50 := by
  have cut :
      (dataPattern count).take (min (dataPattern count).length 50) =
        (dataPattern count).take 50 := by
    rw [Nat.min_comm, ← List.take_take, List.take_length]
  rw [dataMatches, beq_iff_eq, cString,
    take_upTo_eq_iff (zero_notMem_dataPattern count) (Nat.min_le_left _ _),
    List.take_append_of_le_length (by omega), cut]

/-- The verdict is that of the first bytes of the block, in any case. -/
theorem verdict_recordCompletion
    {task : ArbTask} {block : Bytes} {count : UInt64}
    (size : 512 ≤ block.length)
    (mode : task.verificationMode = true)
    (returned : task.readBuf = some block)
    (expected : task.expectedData = dataPattern count)
    (adjacent : Bytes) (ctx : NsWorkerCtx) :
    let same :=
      block.take (min task.expectedData.length 50) =
        task.expectedData.take 50
    (recordCompletion task adjacent ctx).verificationPassed =
        ctx.verificationPassed + (if same then 1 else 0) ∧
      (recordCompletion task adjacent ctx).verificationFailed =
        ctx.verificationFailed + (if same then 0 else 1) := by
  have verdict := dataMatches_iff_take_eq size count adjacent
  have memory : task.readBuf.getD [] = block := by
    rw [returned]
    rfl
  rw [recordCompletion, if_pos mode, memory, expected]
  dsimp only
  split
  · rename_i matched
    rw [if_pos (verdict.mp matched), if_pos (verdict.mp matched)]
    exact ⟨rfl, (UInt64.add_zero _).symm⟩
  · rename_i unmatched
    have different := fun same => unmatched (verdict.mpr same)
    rw [if_neg different, if_neg different]
    exact ⟨(UInt64.add_zero _).symm, rfl⟩

/--
The verification branch keeps to the block if and only if the block holds a
zero byte.
-/
theorem looks_at_block_iff_zero_byte
    (setup : Setup)
    (ioSize : 512 ≤ setup.arbitration.ioSizeBytes.toNat)
    (task : ArbTask) (block adjacent : Bytes) (ctx : NsWorkerCtx)
    (count : UInt64)
    (size : block.length = setup.arbitration.ioSizeBytes.toNat)
    (mode : task.verificationMode = true)
    (returned : task.readBuf = some block)
    (expected : task.expectedData = dataPattern count) :
    LooksAtBlock task block adjacent ctx ↔ 0 ∈ block := by
  have inside :
      examinedBytes (block ++ adjacent) ≤ block.length ↔ 0 ∈ block :=
    length_upTo_append_lt_iff 0 block adjacent
  constructor
  · intro looks
    exact inside.mp looks.examined
  · intro zero
    rcases
        verdict_recordCompletion (size ▸ ioSize) mode returned expected
          adjacent ctx with
      ⟨passed, failed⟩
    exact ⟨inside.mpr zero, passed, failed⟩

/-- The task of a verify read of append 0 that has returned a block. -/
def readBack (block : Bytes) : ArbTask :=
  ⟨none, some block, 7, true, dataPattern 0⟩

/-- The block of append 0 ends the string. -/
theorem looks_at_own_block :
    LooksAtBlock (readBack (block oneDeep (dataPattern 0)))
      (block oneDeep (dataPattern 0)) [1, 2, 3] initNsWorkerCtx :=
  (looks_at_block_iff_zero_byte oneDeep (by decide) _ _ _ _ 0
    (by decide +kernel) rfl rfl rfl).mpr (by decide +kernel)

/-- A block without a zero byte: the string goes on behind it. -/
theorem full_block_is_left :
    ¬ LooksAtBlock (readBack (List.replicate 512 1))
      (List.replicate 512 1) [1, 0] initNsWorkerCtx := by
  intro looks
  have examined := looks.examined
  revert examined
  decide +kernel

end ZnsBench.Multipath.PatternComparison

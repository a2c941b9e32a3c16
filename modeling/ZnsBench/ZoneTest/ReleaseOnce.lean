import ZnsBench.ZoneTest.ReadWriteTest

/-!
# Releasing the channel and the descriptor

Every error branch of the test puts the channel, closes the descriptor and
stops the application.  The branches in the loops of `reset_zone` and
`write_zone` then go on with the loop, and the completions that are still
outstanding run as if nothing had happened: the resources are released again,
or commands are submitted on them.

A run releases them at most once, and submits nothing afterwards, if and only
if its steps are all tolerable: before the release, no call of a loop fails
but the last one; after it, nothing happens but successful completions that
leave the counter above zero.
-/

namespace ZnsBench.ZoneTest.ReleaseOnce

open ZnsBench.Core.GuardedRun
open ZnsBench.ZoneTest.ReadWriteTest

/-! ## Calls after the application was stopped -/

/-- The call is one of `spdk_app_stop`. -/
def isStop : Call → Bool
  | .appStop _ => true
  | _ => false

/-- The call submits a command. -/
def isSubmission : Call → Bool
  | .submit _ _ => true
  | _ => false

/--
The channel is put, the descriptor closed and the application stopped at most
once, and after that no command is submitted.
-/
structure ReleasedOnce (calls : List Call) : Prop where
  channel : calls.count .putIoChannel ≤ 1
  descriptor : calls.count .bdevClose ≤ 1
  stop : calls.countP isStop ≤ 1
  nothingAfter :
    ∀ before rc after,
      calls = before ++ .appStop rc :: after →
        ∀ call ∈ after, isSubmission call = false

/-- The test has called `spdk_app_stop`. -/
def Stopped (calls : List Call) : Prop := ∃ call ∈ calls, isStop call = true

instance (calls : List Call) : Decidable (Stopped calls) :=
  inferInstanceAs (Decidable (∃ call ∈ calls, _))

/-- Calls that neither stop the application nor submit anything. -/
def Inert (calls : List Call) : Prop :=
  ∀ call ∈ calls, isStop call = false ∧ isSubmission call = false

/-- After the first stop, the calls are inert. -/
def OnceOnly : List Call → Prop
  | [] => True
  | call :: rest => if isStop call then Inert rest else OnceOnly rest

@[simp]
theorem inert_append (calls more : List Call) :
    Inert (calls ++ more) ↔ Inert calls ∧ Inert more :=
  List.forall_mem_append

theorem onceOnly_append (calls more : List Call) :
    OnceOnly (calls ++ more) ↔
      OnceOnly calls ∧
        if Stopped calls then Inert more else OnceOnly more := by
  induction calls with
  | nil => simp [OnceOnly, Stopped]
  | cons call rest induction =>
      by_cases stops : isStop call = true
      · simp [OnceOnly, Stopped, stops, inert_append]
      · have same : Stopped (call :: rest) ↔ Stopped rest := by
          simp [Stopped, stops]
        simp only [List.cons_append, OnceOnly, if_neg stops, same,
          induction]

/-! ## The two forms of the law -/

/-- Whoever puts the channel or closes the descriptor stops as well. -/
structure Aligned (calls : List Call) : Prop where
  channel : calls.count .putIoChannel ≤ calls.countP isStop
  descriptor : calls.count .bdevClose ≤ calls.countP isStop

theorem Aligned.append
    {calls more : List Call} (aligned : Aligned calls)
    (others : Aligned more) :
    Aligned (calls ++ more) := by
  have channel := aligned.channel
  have descriptor := aligned.descriptor
  have otherChannel := others.channel
  have otherDescriptor := others.descriptor
  constructor
  · rw [List.count_append, List.countP_append]
    omega
  · rw [List.count_append, List.countP_append]
    omega

theorem countP_isStop_eq_zero
    {calls : List Call} (inert : Inert calls) :
    calls.countP isStop = 0 := by
  rw [List.countP_eq_zero]
  intro call member
  simp [(inert call member).1]

theorem OnceOnly.stop
    {calls : List Call} (once : OnceOnly calls) :
    calls.countP isStop ≤ 1 := by
  induction calls with
  | nil => exact Nat.zero_le _
  | cons call rest induction =>
      rw [OnceOnly] at once
      rw [List.countP_cons]
      split at once
      · rename_i stops
        rw [countP_isStop_eq_zero once, if_pos stops]
      · rename_i continues
        rw [if_neg continues]
        exact induction once

theorem OnceOnly.nothingAfter
    {calls before after : List Call} {rc : Int}
    (once : OnceOnly calls)
    (split : calls = before ++ .appStop rc :: after) :
    ∀ call ∈ after, isSubmission call = false := by
  rw [split, onceOnly_append] at once
  intro call member
  have tail := once.2
  split at tail
  · exact (tail call (List.mem_cons_of_mem _ member)).2
  · simp only [OnceOnly, isStop, if_true] at tail
    exact (tail call member).2

theorem onceOnly_of_stop
    {calls : List Call} (stop : calls.countP isStop ≤ 1)
    (nothingAfter :
      ∀ before rc after,
        calls = before ++ .appStop rc :: after →
          ∀ call ∈ after, isSubmission call = false) :
    OnceOnly calls := by
  induction calls with
  | nil => trivial
  | cons call rest induction =>
      rw [List.countP_cons] at stop
      rw [OnceOnly]
      split
      · rename_i stops
        rw [if_pos stops] at stop
        have none : rest.countP isStop = 0 := by omega
        intro later member
        constructor
        · simpa using List.countP_eq_zero.mp none later member
        · cases call with
          | appStop rc => exact nothingAfter [] rc rest rfl later member
          | _ => cases stops
      · apply induction
        · omega
        · intro before rc after equal
          exact nothingAfter (call :: before) rc after (by rw [equal]; rfl)

theorem releasedOnce_iff
    {calls : List Call} (aligned : Aligned calls) :
    ReleasedOnce calls ↔ OnceOnly calls := by
  constructor
  · intro released
    exact onceOnly_of_stop released.stop released.nothingAfter
  · intro once
    exact
      ⟨aligned.channel.trans once.stop, aligned.descriptor.trans once.stop,
        once.stop, fun _ _ _ split => once.nothingAfter split⟩

/-! ## The calls of a loop -/

/-- No call of a loop fails, but possibly the last one. -/
def OnlyLastFails (fails : Int → Bool) (attempted : List (UInt64 × Int)) :
    Prop :=
  ∀ attempt ∈ attempted.dropLast, fails attempt.2 = false

variable {command : UInt64 → Command} {fails : Int → Bool}

theorem not_inert_loop
    {attempted : List (UInt64 × Int)} (nonempty : attempted ≠ []) :
    ¬ Inert (attempted.flatMap (attemptCalls command fails)) := by
  cases attempted with
  | nil => exact absurd rfl nonempty
  | cons attempt rest =>
      intro inert
      have submitted :=
        (inert (.submit (command attempt.1) attempt.2)
          (by simp [attemptCalls])).2
      cases submitted

theorem onceOnly_loop (attempted : List (UInt64 × Int)) :
    OnceOnly (attempted.flatMap (attemptCalls command fails)) ↔
      OnlyLastFails fails attempted := by
  induction attempted with
  | nil => simp [OnceOnly, OnlyLastFails]
  | cons attempt rest induction =>
      rw [List.flatMap_cons, onceOnly_append]
      by_cases failed : fails attempt.2 = true
      · have first : OnceOnly (attemptCalls command fails attempt) := by
          simp [attemptCalls, failed, OnceOnly, isStop, Inert]
        have stopped : Stopped (attemptCalls command fails attempt) := by
          simp [attemptCalls, failed, Stopped, isStop]
        rw [if_pos stopped]
        cases rest with
        | nil => simp [first, Inert, OnlyLastFails]
        | cons other others =>
            constructor
            · rintro ⟨_, inert⟩
              exact absurd inert (not_inert_loop (by simp))
            · intro last
              have none := last attempt (by simp)
              rw [failed] at none
              cases none
      · have first : OnceOnly (attemptCalls command fails attempt) := by
          simp [attemptCalls, failed, OnceOnly, isStop]
        have running : ¬ Stopped (attemptCalls command fails attempt) := by
          simp [attemptCalls, failed, Stopped, isStop]
        rw [if_neg running, induction]
        cases rest with
        | nil => simp [first, OnlyLastFails]
        | cons other others =>
            simp [first, OnlyLastFails, failed]

theorem aligned_loop (attempted : List (UInt64 × Int)) :
    Aligned (attempted.flatMap (attemptCalls command fails)) := by
  induction attempted with
  | nil => exact ⟨le_refl _, le_refl _⟩
  | cons attempt rest induction =>
      rw [List.flatMap_cons]
      refine Aligned.append ?_ induction
      rw [attemptCalls]
      split
      · constructor <;> simp [isStop]
      · constructor <;> simp

/-! ## Tolerable steps -/

/-- What may happen to the calls of a loop, before and after a release. -/
def LoopTolerable (calls : List Call) (fails : Int → Bool)
    (attempted : List (UInt64 × Int)) : Prop :=
  if Stopped calls then attempted = [] else OnlyLastFails fails attempted

/--
Before the release, only the last call of a loop may fail.  After it, only
completions are tolerable that succeed and do not enter another phase.
-/
def Tolerable (bdev : Bdev) (test : RwTest) : Event → Prop
  | .start outcome rcs =>
      outcome = .ready →
        LoopTolerable test.calls resetFails (resetAttempts bdev rcs)
  | .resetDone _ success rcs =>
      if success then
        test.count - 1 = 0 →
          LoopTolerable test.calls appendFails (appendAttempts bdev rcs)
      else
        ¬ Stopped test.calls
  | .appendDone _ success _ =>
      success = true ∧ test.count - 1 ≠ 0 ∨ ¬ Stopped test.calls
  | .readDone _ _ _ _ => ¬ Stopped test.calls
  | .callBack rcs =>
      if test.bdevIoWait = some .resetZone then
        LoopTolerable test.calls resetFails (resetAttempts bdev rcs)
      else
        ¬ Stopped test.calls

/-- The law for the calls that a step adds. -/
def Adds (calls next : List Call) (tolerable : Prop) : Prop :=
  ∃ more,
    next = calls ++ more ∧
      Aligned more ∧
        ((if Stopped calls then Inert more else OnceOnly more) ↔ tolerable)

theorem adds_nil (calls : List Call) : Adds calls calls True := by
  refine ⟨[], (List.append_nil calls).symm, ⟨le_refl _, le_refl _⟩, ?_⟩
  split <;> simp [Inert, OnceOnly]

/-- A loop, with the call that records its entry. -/
theorem adds_loop
    (calls : List Call) {entered : Call}
    (entry : isStop entered = false ∧ isSubmission entered = false)
    (aligned : Aligned [entered])
    (attempted : List (UInt64 × Int)) :
    Adds calls
      (calls ++
        entered :: attempted.flatMap (attemptCalls command fails))
      (LoopTolerable calls fails attempted) := by
  refine ⟨_, rfl, aligned.append (aligned_loop attempted), ?_⟩
  rw [LoopTolerable]
  split
  · rw [← List.singleton_append, inert_append]
    cases attempted with
    | nil => simp [Inert, entry]
    | cons attempt rest =>
        constructor
        · rintro ⟨_, inert⟩
          exact absurd inert (not_inert_loop (by simp))
        · intro nil
          cases nil
  · rw [OnceOnly, if_neg (by simp [entry.1])]
    exact onceOnly_loop attempted

/-- Calls that stop or submit are tolerable before the release only. -/
theorem adds_of_not_inert
    (calls : List Call) {more : List Call}
    (aligned : Aligned more)
    (busy : ∃ call ∈ more, isStop call = true ∨ isSubmission call = true)
    (once : OnceOnly more) :
    Adds calls (calls ++ more) (¬ Stopped calls) := by
  refine ⟨more, rfl, aligned, ?_⟩
  split
  · rename_i stopped
    constructor
    · intro inert
      rcases busy with ⟨call, member, stops | submits⟩
      · rw [(inert call member).1] at stops
        cases stops
      · rw [(inert call member).2] at submits
        cases submits
    · intro running
      exact absurd stopped running
  · rename_i running
    exact iff_of_true once running

theorem adds_release (calls : List Call) (rc : Int) :
    Adds calls (calls ++ [.putIoChannel, .bdevClose, .appStop rc])
      (¬ Stopped calls) := by
  apply adds_of_not_inert
  · constructor <;> simp [isStop]
  · exact ⟨.appStop rc, by simp, Or.inl rfl⟩
  · simp [OnceOnly, isStop, Inert]

/-- One submission outside the loops, with the release when it fails. -/
theorem adds_submit
    (calls entry : List Call) (read : Command) (rc : Int)
    (failed : Bool)
    (quiet : entry = [] ∨ entry = [.readZone]) :
    Adds calls
      (calls ++
        (entry ++
          (.submit read rc ::
            if failed then
              [.putIoChannel, .bdevClose, .appStop (-1)]
            else
              [])))
      (¬ Stopped calls) := by
  apply adds_of_not_inert
  · rcases quiet with rfl | rfl <;> cases failed <;> constructor <;>
      simp [isStop]
  · exact ⟨.submit read rc, by simp, Or.inr rfl⟩
  · rcases quiet with rfl | rfl <;> cases failed <;>
      simp [OnceOnly, isStop, Inert]

theorem adds_resetZone
    (bdev : Bdev) (rcs : List Int) (test : RwTest) :
    Adds test.calls (resetZone bdev rcs test).calls
      (LoopTolerable test.calls resetFails (resetAttempts bdev rcs)) := by
  rw [resetZone_eq]
  exact
    adds_loop test.calls ⟨rfl, rfl⟩ ⟨by simp, by simp⟩
      (resetAttempts bdev rcs)

theorem adds_writeZone
    (bdev : Bdev) (rcs : List Int) (test : RwTest) :
    Adds test.calls (writeZone bdev rcs test).calls
      (LoopTolerable test.calls appendFails (appendAttempts bdev rcs)) := by
  rw [writeZone_eq]
  exact
    adds_loop test.calls ⟨rfl, rfl⟩ ⟨by simp, by simp⟩
      (appendAttempts bdev rcs)

theorem adds_readZone (bdev : Bdev) (rc : Int) (test : RwTest) :
    Adds test.calls (readZone bdev rc test).calls
      (¬ Stopped test.calls) := by
  have called :
      (readZone bdev rc test).calls =
        test.calls ++
          ([.readZone] ++
            (.submit (.read 0) rc ::
              if resetFails rc then
                [.putIoChannel, .bdevClose, .appStop (-1)]
              else
                [])) := by
    by_cases full : rc = -enomem
    · simp [readZone, submit, queueIoWait, resetFails, full]
    · by_cases zero : rc = 0
      · simp [readZone, submit, resetFails, zero, enomem]
      · simp [readZone, submit, release, resetFails, full, zero]
  rw [called]
  exact adds_submit test.calls _ _ rc _ (Or.inr rfl)

theorem adds_readZoneComplete
    (bdev : Bdev) (success : Bool) (rc : Int) (test : RwTest) :
    Adds test.calls (readZoneComplete bdev success rc test).calls
      (¬ Stopped test.calls) := by
  rw [readZoneComplete]
  split
  · split
    · exact adds_release test.calls (-1)
    · dsimp only
      split
      · exact adds_release test.calls 0
      · split
        · rename_i failed
          have added :=
            adds_submit test.calls []
              (.read (readLba bdev (test.count + 1))) rc true (Or.inl rfl)
          simpa [submit, release] using added
        · rename_i accept
          have added :=
            adds_submit test.calls []
              (.read (readLba bdev (test.count + 1))) rc false
              (Or.inl rfl)
          simpa [submit] using added
  · exact adds_release test.calls (-1)

theorem Adds.congr
    {calls next : List Call} {tolerable other : Prop}
    (adds : Adds calls next tolerable) (same : tolerable ↔ other) :
    Adds calls next other := by
  rcases adds with ⟨more, equal, aligned, law⟩
  exact ⟨more, equal, aligned, law.trans same⟩

theorem adds_resetZoneComplete
    (bdev : Bdev) (success : Bool) (rcs : List Int) (test : RwTest) :
    Adds test.calls (resetZoneComplete bdev success rcs test).calls
      (if success then
        test.count - 1 = 0 →
          LoopTolerable test.calls appendFails (appendAttempts bdev rcs)
      else
        ¬ Stopped test.calls) := by
  cases success with
  | true =>
      simp only [resetZoneComplete, if_true]
      split
      · rename_i last
        refine (adds_writeZone bdev rcs _).congr ?_
        simp [last]
      · rename_i remaining
        refine (adds_nil test.calls).congr ?_
        simp [remaining]
  | false =>
      simp only [resetZoneComplete, Bool.false_eq_true, if_false]
      exact adds_release test.calls (-1)

theorem adds_writeZoneComplete
    (bdev : Bdev) (success : Bool) (rc : Int) (test : RwTest) :
    Adds test.calls (writeZoneComplete bdev success rc test).calls
      (success = true ∧ test.count - 1 ≠ 0 ∨ ¬ Stopped test.calls) := by
  cases success with
  | true =>
      simp only [writeZoneComplete, if_true]
      split
      · rename_i last
        refine (adds_readZone bdev rc _).congr ?_
        simp [last]
      · rename_i remaining
        refine (adds_nil test.calls).congr ?_
        simp [remaining]
  | false =>
      refine (adds_release test.calls (-1)).congr ?_
      simp

theorem adds_testStart
    (bdev : Bdev) (outcome : StartOutcome) (rcs : List Int)
    {test : RwTest} (unstarted : test.calls = []) :
    Adds test.calls (testStart bdev outcome rcs test).calls
      (outcome = .ready →
        LoopTolerable test.calls resetFails (resetAttempts bdev rcs)) := by
  have running : ¬ Stopped test.calls := by
    rw [unstarted]
    simp [Stopped]
  cases outcome with
  | ready =>
      refine (adds_resetZone bdev rcs test).congr ?_
      simp
  | notUsable =>
      refine (adds_release test.calls (-1)).congr ?_
      simp [running]
  | noIoChannel =>
      refine ⟨[.bdevClose, .appStop (-1)], rfl, ?_, ?_⟩
      · constructor <;> simp [isStop]
      · simp [running, OnceOnly, isStop, Inert]
  | bdevNotOpened =>
      refine ⟨[.appStop (-1)], rfl, ?_, ?_⟩
      · constructor <;> simp
      · simp [running, OnceOnly, isStop, Inert]

/-! ## Steps and runs -/

theorem adds_step
    {bdev : Bdev} {test next : RwTest} {event : Event}
    (taken : step bdev test event = some next) :
    Adds test.calls next.calls (Tolerable bdev test event) := by
  rcases step_cases taken with
    ⟨outcome, rcs, rfl, unstarted, rfl⟩ |
      ⟨slba, success, rcs, rfl, flying, rfl⟩ |
        ⟨slba, success, rc, rfl, flying, rfl⟩ |
          ⟨lba, success, data, rc, rfl, flying, rfl⟩ |
            ⟨rcs, rfl, waiting, registered, rfl⟩ |
              ⟨rcs, rfl, waiting, registered, rfl⟩
  · exact adds_testStart bdev outcome rcs unstarted
  · exact adds_resetZoneComplete bdev success rcs _
  · exact adds_writeZoneComplete bdev success rc _
  · exact adds_readZoneComplete bdev success rc _
  · refine (adds_resetZone bdev rcs _).congr ?_
    rw [Tolerable, if_pos registered]
  · refine (adds_readZone bdev (rcs.getD 0 0) _).congr ?_
    rw [Tolerable, if_neg (by rw [registered]; decide)]

theorem aligned_of_reachable
    {bdev : Bdev} {allowed : RwTest → Event → Prop} {test : RwTest}
    (reachable : Reachable bdev allowed test) :
    Aligned test.calls := by
  induction reachable with
  | refl => exact ⟨le_refl _, le_refl _⟩
  | tail _ _ taken aligned =>
      rcases adds_step taken with ⟨more, equal, others, _⟩
      rw [equal]
      exact aligned.append others

/-- A step keeps the law if and only if it is tolerable. -/
theorem onceOnly_step_iff
    {bdev : Bdev} {test next : RwTest} {event : Event}
    (taken : step bdev test event = some next) :
    OnceOnly next.calls ↔
      OnceOnly test.calls ∧ Tolerable bdev test event := by
  rcases adds_step taken with ⟨more, equal, _, law⟩
  rw [equal, onceOnly_append, law]

theorem onceOnly_of_tolerable
    {bdev : Bdev} {test : RwTest}
    (reachable : Reachable bdev (Tolerable bdev) test) :
    OnceOnly test.calls := by
  induction reachable with
  | refl => exact True.intro
  | tail _ tolerable taken once =>
      exact (onceOnly_step_iff taken).mpr ⟨once, tolerable⟩

/-- The steps of a run that keeps the law were tolerable. -/
theorem tolerable_of_onceOnly
    {bdev : Bdev} {test : RwTest}
    (reachable : Reachable bdev Unrestricted test)
    (once : OnceOnly test.calls) :
    Reachable bdev (Tolerable bdev) test := by
  induction reachable with
  | refl => exact .refl
  | tail before _ taken induction =>
      rcases (onceOnly_step_iff taken).mp once with ⟨earlier, tolerable⟩
      exact (induction earlier).tail tolerable taken

/--
For every zone size, every pattern of failing submissions and every order and
outcome of the completions: the resources are released at most once, and
nothing is submitted on them afterwards, if and only if the state is reached
by tolerable steps.
-/
theorem released_once_iff_steps_tolerable
    (bdev : Bdev) (test : RwTest)
    (reachable : Reachable bdev Unrestricted test) :
    ReleasedOnce test.calls ↔ Reachable bdev (Tolerable bdev) test := by
  rw [releasedOnce_iff (aligned_of_reachable reachable)]
  constructor
  · exact tolerable_of_onceOnly reachable
  · exact onceOnly_of_tolerable

instance (calls : List Call) (fails : Int → Bool)
    (attempted : List (UInt64 × Int)) :
    Decidable (LoopTolerable calls fails attempted) :=
  inferInstanceAs
    (Decidable
      (if Stopped calls then
        attempted = []
      else
        ∀ attempt ∈ attempted.dropLast, fails attempt.2 = false))

instance (bdev : Bdev) (test : RwTest) (event : Event) :
    Decidable (Tolerable bdev test event) :=
  match event with
  | .start _ _ => inferInstanceAs (Decidable (_ → LoopTolerable _ _ _))
  | .resetDone _ success _ =>
      inferInstanceAs
        (Decidable (if success then _ → LoopTolerable _ _ _ else ¬ _))
  | .appendDone _ _ _ => inferInstanceAs (Decidable (_ ∧ _ ∨ ¬ _))
  | .readDone _ _ _ _ => inferInstanceAs (Decidable (¬ _))
  | .callBack _ =>
      inferInstanceAs
        (Decidable
          (if test.bdevIoWait = some .resetZone then
            LoopTolerable _ _ _
          else
            ¬ _))

/-- One reset fails, one succeeds, and eight are still outstanding. -/
theorem released_once_after_failed_reset :
    ∃ test,
      Reachable smallZones Unrestricted test ∧
        test.calls.count (.appStop (-1)) = 1 ∧
          test.inFlight.length = 8 ∧ ReleasedOnce test.calls := by
  have replayed :
      ∃ test,
        Reachable smallZones (Tolerable smallZones) test ∧
          test.calls.count (.appStop (-1)) = 1 ∧
            test.inFlight.length = 8 :=
    Run.exists_of_replay _
      [.start .ready [], .resetDone 0 false [], .resetDone 256 true []]
      (by decide +kernel)
  rcases replayed with ⟨test, tolerable, stop, flight⟩
  have reached : Reachable smallZones Unrestricted test :=
    tolerable.relax fun _ _ _ => True.intro
  exact
    ⟨test, reached, stop, flight,
      (released_once_iff_steps_tolerable smallZones test reached).mpr
        tolerable⟩

/--
Two resets are refused, with `-EINVAL`: the loop releases the resources twice
and submits on them in between and afterwards.
-/
theorem refused_resets_release_twice :
    ∃ test,
      Reachable smallZones Unrestricted test ∧
        test.calls.count .putIoChannel = 2 ∧
          test.calls.count .bdevClose = 2 ∧
            test.calls.count (.appStop (-1)) = 2 ∧
              test.inFlight.length = 8 ∧ ¬ ReleasedOnce test.calls := by
  have replayed :
      ∃ test,
        Reachable smallZones Unrestricted test ∧
          test.calls.count .putIoChannel = 2 ∧
            test.calls.count .bdevClose = 2 ∧
              test.calls.count (.appStop (-1)) = 2 ∧
                test.inFlight.length = 8 :=
    Run.exists_of_replay _ [.start .ready [-22, -22]] (by decide +kernel)
  rcases replayed with ⟨test, reached, channel, descriptor, stop, flight⟩
  refine ⟨test, reached, channel, descriptor, stop, flight, ?_⟩
  intro released
  have once := released.channel
  omega

end ZnsBench.ZoneTest.ReleaseOnce

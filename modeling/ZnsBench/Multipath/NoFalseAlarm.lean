import ZnsBench.Multipath.VerifierHistory
import Mathlib.Data.List.Pairwise
import Mathlib.Data.List.Forall2

/-!
# The verifier raises no false alarm

An honest device completes every command with success, places every append
at a range of blocks disjoint from all earlier ones, reports the start of
that range in `cdw0`, and answers a read of a range with the data last
appended there.  Against such a device the `k`-th verify read reads back the
`k`-th completed append and expects the pattern that append wrote, so the
comparison of `task_complete` never fails.  This holds for every completion
order, every pattern of rejected submissions and every moment of draining.
-/

namespace ZnsBench.Multipath.NoFalseAlarm

open ZnsBench.Core.ByteString
open ZnsBench.Core.GuardedRun
open ZnsBench.Multipath.NamespaceRegistration
open ZnsBench.Multipath.SpdkInterface
open ZnsBench.Multipath.VerificationEngine
open ZnsBench.Multipath.VerifierHistory

/-! ## The device -/

/-- A range of blocks an append was given, and the data it wrote there. -/
structure Extent where
  start : Nat
  blocks : Nat
  data : Bytes

/-- One range ends before the other starts. -/
def Extent.Apart (left right : Extent) : Prop :=
  left.start + left.blocks ≤ right.start ∨
    right.start + right.blocks ≤ left.start

instance (left right : Extent) : Decidable (left.Apart right) :=
  inferInstanceAs (Decidable (_ ∨ _))

/-- The range a completed append reports, with the data of its buffer. -/
def extentOf (setup : Setup) (finish : Finish) : Extent where
  start := finish.completion.cdw0.toNat
  blocks := setup.entry.ioSizeBlocks.toNat
  data := finish.task.buf.getD []

/-- The contents of the device: its successful appends, oldest first. -/
def appendedExtents (setup : Setup) (state : Verifier) : List Extent :=
  ((completedAppends state).filter
    fun finish => !finish.completion.isError).map (extentOf setup)

/-- The data last appended at exactly a given range. -/
def lastAppendedAt (extents : List Extent) (start blocks : Nat) :
    Option Bytes :=
  (extents.reverse.find? fun extent =>
    extent.start == start && extent.blocks == blocks).map Extent.data

/-- The device serves one completion honestly. -/
def Serves (setup : Setup) (state : Verifier) (task : ArbTask)
    (completion : Completion) : Prop :=
  completion.isError = false ∧
    if task.verificationMode then
      ∀ data ∈
          lastAppendedAt (appendedExtents setup state) task.lba.toNat
            setup.entry.ioSizeBlocks.toNat,
        completion.payload = data
    else
      ∀ extent ∈ appendedExtents setup state,
        Extent.Apart
          ⟨completion.cdw0.toNat, setup.entry.ioSizeBlocks.toNat,
            task.buf.getD []⟩
          extent

instance (setup : Setup) (state : Verifier) (task : ArbTask)
    (completion : Completion) :
    Decidable (Serves setup state task completion) :=
  inferInstanceAs (Decidable (_ ∧ ite _ _ _))

/-- Every completion delivered in a run is served honestly. -/
def HonestDevice (setup : Setup) (state : Verifier) : Event → Prop
  | .complete index completion _ =>
      ∀ task ∈ state.inFlight[index]?, Serves setup state task completion
  | _ => True

instance (setup : Setup) (state : Verifier) (event : Event) :
    Decidable (HonestDevice setup state event) :=
  match event with
  | .submit _ => isTrue True.intro
  | .complete index completion _ =>
      inferInstanceAs
        (Decidable
          (∀ task ∈ state.inFlight[index]?,
            Serves setup state task completion))
  | .drain => isTrue True.intro

/-! ## The comparison accepts what the pattern wrote -/

theorem zero_notMem_dataPattern (count : UInt64) :
    0 ∉ dataPattern count := by
  intro member
  rcases List.mem_append.mp member with first | second
  · rcases List.mem_append.mp first with head | digits
    · exact absurd head (by decide +kernel)
    · exact zero_notMem_decimal _ digits
  · rcases List.mem_append.mp second with middle | digits
    · exact absurd middle (by decide +kernel)
    · exact zero_notMem_decimal _ digits

theorem length_dataPattern_le (count : UInt64) :
    (dataPattern count).length ≤ 57 := by
  have first := length_decimal_le count
  have second := length_decimal_le (count * 0xDEADBEEF)
  have head : (ascii "zstore1:").length = 8 := by decide +kernel
  have middle : (ascii ":pattern:").length = 9 := by decide +kernel
  simp only [dataPattern, List.length_append, head, middle]
  omega

/-- A block that holds a pattern matches that pattern. -/
theorem dataMatches_block
    {setup : Setup}
    (ioSize : 512 ≤ setup.arbitration.ioSizeBytes.toNat)
    (count : UInt64) (adjacent : Bytes) :
    dataMatches (block setup (dataPattern count) ++ adjacent)
      (dataPattern count) = true := by
  have short := length_dataPattern_le count
  have readBack :
      cString (block setup (dataPattern count) ++ adjacent) =
        dataPattern count :=
    cString_snprintfText (zero_notMem_dataPattern count)
      (by omega) adjacent
  simp [dataMatches, readBack]

/-! ## The invariant -/

/-- The laws that rest on the honesty of the device. -/
structure Quiet (setup : Setup) (state : Verifier) : Prop where
  served :
    ∀ finish ∈ completedAppends state, finish.completion.isError = false
  apart :
    (completedAppends state).Pairwise fun earlier later =>
      (extentOf setup later).Apart (extentOf setup earlier)
  silent : state.ctx.verificationFailed = 0

theorem quiet_initial (setup : Setup) (taskPool : List ArbTask) :
    Quiet setup (initial setup taskPool) where
  served := by
    intro finish member
    cases member
  apart := List.Pairwise.nil
  silent := rfl

namespace Quiet

variable {setup : Setup} {state next : Verifier}

/-- Nothing of this depends on what is submitted. -/
theorem submits {issue : Issue}
    (quiet : Quiet setup state)
    (submits : Submits state next issue) :
    Quiet setup next := by
  rcases submits.ctx with ⟨_, _, _, ctx⟩
  constructor
  · rw [submits.completedAppends_eq]
    exact quiet.served
  · rw [submits.completedAppends_eq]
    exact quiet.apart
  · rw [ctx]
    exact quiet.silent

/-- The device holds exactly the completed appends. -/
theorem appendedExtents_eq (quiet : Quiet setup state) :
    appendedExtents setup state =
      (completedAppends state).map (extentOf setup) := by
  have all :
      (completedAppends state).filter
          (fun finish => !finish.completion.isError) =
        completedAppends state := by
    apply List.filter_eq_self.mpr
    intro finish member
    rw [quiet.served finish member]
    rfl
  rw [appendedExtents, all]

/-- Disjoint nonempty ranges that start at one block are one append. -/
theorem eq_of_start_eq {left right : Finish}
    (quiet : Quiet setup state)
    (blocks : 0 < setup.entry.ioSizeBlocks.toNat)
    (leftCompleted : left ∈ completedAppends state)
    (rightCompleted : right ∈ completedAppends state)
    (equal : left.completion.cdw0 = right.completion.cdw0) :
    left = right := by
  by_contra different
  have symmetric :
      Std.Symm fun earlier later : Finish =>
        (extentOf setup later).Apart (extentOf setup earlier) :=
    ⟨fun _ _ apart => Or.symm apart⟩
  have apart :=
    quiet.apart.forall leftCompleted rightCompleted different
  unfold Extent.Apart extentOf at apart
  simp only [equal] at apart
  omega

/-- What the device holds at the address of a completed append. -/
theorem lastAppendedAt_eq {finish : Finish}
    (quiet : Quiet setup state)
    (blocks : 0 < setup.entry.ioSizeBlocks.toNat)
    (completed : finish ∈ completedAppends state) :
    lastAppendedAt (appendedExtents setup state)
        finish.completion.cdw0.toNat setup.entry.ioSizeBlocks.toNat =
      some (finish.task.buf.getD []) := by
  rw [quiet.appendedExtents_eq, lastAppendedAt]
  have found :
      ((((completedAppends state).map (extentOf setup)).reverse).find?
        fun extent =>
          extent.start == finish.completion.cdw0.toNat &&
            extent.blocks == setup.entry.ioSizeBlocks.toNat).isSome := by
    rw [List.find?_isSome]
    refine ⟨extentOf setup finish, ?_, ?_⟩
    · rw [List.mem_reverse]
      exact List.mem_map_of_mem completed
    · simp [extentOf]
  rcases Option.isSome_iff_exists.mp found with ⟨extent, foundExtent⟩
  have matched := List.find?_some foundExtent
  have member := List.mem_of_find?_eq_some foundExtent
  rw [List.mem_reverse] at member
  rcases List.mem_map.mp member with ⟨other, otherCompleted, rfl⟩
  have sameStart : other.completion.cdw0 = finish.completion.cdw0 := by
    rw [← UInt32.toNat_inj]
    simpa [extentOf] using matched
  have same :=
    quiet.eq_of_start_eq blocks otherCompleted completed sameStart
  subst other
  rw [foundExtent]
  rfl

/-- An honest completion keeps the laws; a read compares equal. -/
theorem settle {index : Nat} {task : ArbTask} {completion : Completion}
    (quiet : Quiet setup state)
    (history : History setup state)
    (blocks : 0 < setup.entry.ioSizeBlocks.toNat)
    (ioSize : 512 ≤ setup.arbitration.ioSizeBytes.toNat)
    (found : state.inFlight[index]? = some task)
    (honest : Serves setup state task completion) :
    Quiet setup (settle completion index task state) := by
  have inFlight : task ∈ state.inFlight := List.mem_of_getElem? found
  rcases honest with ⟨success, answered⟩
  cases mode : task.verificationMode with
  | true =>
      have appends := completedAppends_settle completion index task state
      rw [if_pos mode] at appends
      rw [if_pos mode] at answered
      rcases history.reading task inFlight mode with
        ⟨finish, completed, equal⟩
      rcases history.appended finish completed with
        ⟨⟨count, expected, buffer⟩, reported⟩
      have sameLba : task.lba = finish.completion.cdw0.toUInt64 := by
        rw [← reported]
        exact (congrArg Prod.fst equal).symm
      have sameData : task.expectedData = dataPattern count := by
        rw [← expected]
        exact (congrArg Prod.snd equal).symm
      have payload :
          completion.payload = block setup (dataPattern count) := by
        apply answered
        rw [sameLba, UInt32.toNat_toUInt64,
          quiet.lastAppendedAt_eq blocks completed, buffer]
        rfl
      have passes :
          dataMatches
              ((deliver completion task).readBuf.getD [] ++
                completion.adjacent)
              task.expectedData = true := by
        rw [sameData]
        simp only [deliver, mode, if_true, Option.getD_some]
        rw [payload]
        exact dataMatches_block ioSize count completion.adjacent
      constructor
      · rw [appends]
        exact quiet.served
      · rw [appends]
        exact quiet.apart
      · rw [ctx_settle_read _ _ _ _ mode]
        dsimp only
        rw [if_pos passes]
        exact quiet.silent
  | false =>
      have appends := completedAppends_settle completion index task state
      rw [mode] at appends answered
      simp only [Bool.false_eq_true, if_false] at appends answered
      constructor
      · intro finish member
        rw [appends] at member
        rcases List.mem_append.mp member with old | new
        · exact quiet.served finish old
        · rw [List.mem_singleton] at new
          subst new
          exact success
      · rw [appends, List.pairwise_append]
        refine ⟨quiet.apart, List.pairwise_singleton _ _, ?_⟩
        intro earlier earlierCompleted later laterMember
        rw [List.mem_singleton] at laterMember
        subst laterMember
        have extent :
            extentOf setup earlier ∈ appendedExtents setup state := by
          rw [quiet.appendedExtents_eq]
          exact List.mem_map_of_mem earlierCompleted
        have apart := answered (extentOf setup earlier) extent
        simpa only [Extent.Apart, extentOf] using apart
      · rw [ctx_settle_append _ _ _ _ mode]
        exact quiet.silent

/-- Every step against an honest device keeps the laws. -/
theorem step {event : Event}
    (quiet : Quiet setup state)
    (history : History setup state)
    (blocks : 0 < setup.entry.ioSizeBlocks.toNat)
    (ioSize : 512 ≤ setup.arbitration.ioSizeBytes.toNat)
    (honest : HonestDevice setup state event)
    (taken : step setup state event = some next) :
    Quiet setup next := by
  rcases step_cases taken with
    ⟨outcome, rfl, remaining, submitted⟩ |
      ⟨index, completion, outcome, task, rfl, done, found, refilled⟩ |
        ⟨rfl, done, rfl⟩
  · have counted :
        Quiet setup { state with submitsLeft := state.submitsLeft - 1 } :=
      ⟨quiet.served, quiet.apart, quiet.silent⟩
    rcases submits_append submitted with ⟨stale, submits⟩
    exact counted.submits submits
  · have settled :=
      quiet.settle history blocks ioSize found (honest task found)
    rcases refill_cases refilled with
      ⟨_, idle⟩ |
        ⟨verifyLba, expectedData, rest, _, pending, _, submitted⟩ |
          ⟨_, _, submitted⟩
    · cases idle
      exact settled
    · have popped :
          Quiet setup
            { VerificationEngine.settle completion index task state with
              ctx :=
                { (VerificationEngine.settle completion index task
                    state).ctx with pendingReads := rest } } :=
        ⟨settled.served, settled.apart, settled.silent⟩
      rcases submits_verifyRead submitted with ⟨stale, submits⟩
      exact popped.submits submits
    · rcases submits_append submitted with ⟨stale, submits⟩
      exact settled.submits submits
  · exact ⟨quiet.served, quiet.apart, quiet.silent⟩

end Quiet

theorem quiet_of_reachable
    {setup : Setup} {taskPool : List ArbTask} {state : Verifier}
    (blocks : 0 < setup.entry.ioSizeBlocks.toNat)
    (ioSize : 512 ≤ setup.arbitration.ioSizeBytes.toNat)
    (reachable :
      Reachable setup taskPool (HonestDevice setup) state) :
    Quiet setup state := by
  have both : History setup state ∧ Quiet setup state := by
    apply Run.preserves reachable
    · exact ⟨history_initial setup taskPool, quiet_initial setup taskPool⟩
    · rintro before event after ⟨history, quiet⟩ honest taken
      exact
        ⟨history.step taken,
          quiet.step history blocks ioSize honest taken⟩
  exact both.2

/-! ## The result -/

/--
A verify read reads back one completed append: it targets the LBA reported
for the append and expects the pattern the append wrote.
-/
def ReadsBack (setup : Setup) (read : Issue) (append : Finish) : Prop :=
  read.command =
      .read append.completion.cdw0.toUInt64 setup.entry.ioSizeBlocks ∧
    ∃ count,
      read.task.expectedData = dataPattern count ∧
        append.task.buf = some (block setup (dataPattern count))

/-- The `k`-th verify read reads back the `k`-th completed append. -/
theorem forall₂_readsBack
    {setup : Setup} {state : Verifier} (history : History setup state) :
    ∃ verified,
      verified <+: completedAppends state ∧
        List.Forall₂ (ReadsBack setup) (verifyReads state) verified := by
  refine
    ⟨(completedAppends state).take (verifyReads state).length,
      List.take_prefix _ _, ?_⟩
  have keys :
      (verifyReads state).map (fun issue => taskKey issue.task) =
        ((completedAppends state).take (verifyReads state).length).map
          fun finish => taskKey finish.task := by
    rw [List.map_take, ← history.queue]
    simp
  have related :
      List.Forall₂
        (fun issue finish => taskKey issue.task = taskKey finish.task)
        (verifyReads state)
        ((completedAppends state).take (verifyReads state).length) := by
    have mapped :
        List.Forall₂ Eq
          ((verifyReads state).map fun issue => taskKey issue.task)
          (((completedAppends state).take
            (verifyReads state).length).map
              fun finish => taskKey finish.task) := by
      rw [List.forall₂_eq_eq_eq]
      exact keys
    rw [List.forall₂_map_left_iff, List.forall₂_map_right_iff] at mapped
    exact mapped
  rw [List.forall₂_iff_get] at related ⊢
  refine ⟨related.1, ?_⟩
  intro index inReads inAppends
  have equal := related.2 index inReads inAppends
  have read :=
    history.commands _ (List.get_mem (verifyReads state) ⟨index, inReads⟩)
  have completed :
      ((completedAppends state).take (verifyReads state).length).get
          ⟨index, inAppends⟩ ∈ completedAppends state :=
    List.mem_of_mem_take (List.get_mem _ _)
  rcases history.appended _ completed with
    ⟨⟨count, expected, buffer⟩, reported⟩
  refine ⟨?_, count, ?_, buffer⟩
  · rw [read, ← reported]
    exact congrArg (fun key => Command.read key.1 _) equal
  · rw [← expected]
    exact congrArg Prod.snd equal

/--
Against an honest device, in every reachable state: the verify reads issued
so far read back the completed appends one by one in completion order, no
two of these share an LBA, and no verification has failed.
-/
theorem verifier_raises_no_false_alarm
    (setup : Setup) (ns : NvmeNs) (taskPool : List ArbTask)
    (registered : registerNs setup.arbitration ns = some setup.entry)
    (ioSize : 512 ≤ setup.arbitration.ioSizeBytes.toNat)
    (state : Verifier)
    (reachable :
      Reachable setup taskPool (HonestDevice setup) state) :
    (∃ verified,
      verified <+: completedAppends state ∧
        List.Forall₂ (ReadsBack setup) (verifyReads state) verified) ∧
      ((completedAppends state).map
        fun finish => finish.completion.cdw0).Nodup ∧
      state.ctx.verificationFailed = 0 := by
  have history := history_of_reachable reachable
  have blocks := ioSizeBlocks_pos registered
  have quiet := quiet_of_reachable blocks ioSize reachable
  refine ⟨forall₂_readsBack history, ?_, quiet.silent⟩
  rw [List.Nodup, List.pairwise_map]
  apply quiet.apart.imp
  intro earlier later apart equal
  unfold Extent.Apart extentOf at apart
  simp only [equal] at apart
  omega

/-- One append and its verify read, served honestly. -/
theorem verifier_raises_no_false_alarm_one_append :
    ∃ state,
      Reachable oneDeep [idleTask] (HonestDevice oneDeep) state ∧
        state.ctx.verificationPassed = 1 ∧
          state.ctx.verificationFailed = 0 := by
  have replayed :
      ∃ state,
        Reachable oneDeep [idleTask] (HonestDevice oneDeep) state ∧
          state.ctx.verificationPassed = 1 :=
    Run.exists_of_replay _
      [.submit ⟨0, true, 0, 0⟩,
        .complete 0 ⟨false, 7, [], []⟩ ⟨0, true, 0, 0⟩,
        .complete 0 ⟨false, 0, block oneDeep (dataPattern 0), []⟩
          ⟨0, true, 0, 0⟩]
      (by decide +kernel)
  rcases replayed with ⟨state, reached, passed⟩
  have quiet :=
    verifier_raises_no_false_alarm oneDeep
      ⟨524288, 512, 512, by decide, by decide⟩ [idleTask]
      (by decide) (by decide) state reached
  exact ⟨state, reached, passed, quiet.2.2⟩

end ZnsBench.Multipath.NoFalseAlarm

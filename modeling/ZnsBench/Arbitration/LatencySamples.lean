import ZnsBench.Core.SortedPairing
import ZnsBench.Arbitration.ContextLoop

/-!
# The latency samples of the timed benchmarks

`measurement.cc` and `arbitration_append.cc` push a start time before every
submission and an end time at every completion, and `work_fn` walks over both
vectors by one index.  A submission that SPDK rejects has pushed its start
time and never completes, so the samples of a drained context are paired if
and only if no submission was rejected; otherwise the walk reads past the end
of the shorter vector.
-/

namespace ZnsBench.Arbitration.LatencySamples

open ZnsBench.Core.GuardedRun
open ZnsBench.Core.SortedPairing
open ZnsBench.Multipath.NamespaceRegistration
open ZnsBench.Arbitration.ContextLoop

/-! ## The differences of `work_fn` -/

/--
The loop of `work_fn` over the samples, in clock ticks; `none` when it reads
past the end of `etimes`.
-/
def deltas (ctx : NsWorkerCtx) : Option (List Int) :=
  (List.range ctx.stimes.length).mapM fun index => do
    let etime ← ctx.etimes[index]?
    let stime ← ctx.stimes[index]?
    return etime - stime

/-- A walk by index that stays in bounds collects all values. -/
theorem mapM_range_eq_some
    {read : Nat → Option Int} {value : Nat → Int} {count : Nat}
    (inside : ∀ index < count, read index = some (value index)) :
    (List.range count).mapM read = some ((List.range count).map value) := by
  induction count with
  | zero => rfl
  | succ count induction =>
      have earlier :=
        induction fun index below => inside index (Nat.lt_succ_of_lt below)
      rw [List.range_succ, List.mapM_append, earlier]
      simp [inside count (Nat.lt_succ_self count)]

theorem mapM_range_eq_none
    {read : Nat → Option Int} {count index : Nat}
    (below : index < count) (outside : read index = none) :
    (List.range count).mapM read = none := by
  induction count with
  | zero => cases below
  | succ count induction =>
      rw [List.range_succ, List.mapM_append]
      rcases Nat.lt_succ_iff_lt_or_eq.mp below with earlier | rfl
      · simp [induction earlier]
      · simp [outside]

theorem deltas_eq_some
    {ctx : NsWorkerCtx} (enough : ctx.stimes.length ≤ ctx.etimes.length) :
    deltas ctx = some (differences ctx.stimes ctx.etimes) := by
  have inside :
      ∀ index < ctx.stimes.length,
        (do
          let etime ← ctx.etimes[index]?
          let stime ← ctx.stimes[index]?
          return etime - stime) =
          some ((differences ctx.stimes ctx.etimes).getD index 0) := by
    intro index below
    have ended : index < ctx.etimes.length := by omega
    simp [differences, below, ended]
  rw [deltas, mapM_range_eq_some inside, Option.some.injEq]
  apply List.ext_getElem
  · simpa [differences] using enough
  · intro index _ below
    simp [below]

@[simp]
theorem isSome_deltas_iff (ctx : NsWorkerCtx) :
    (deltas ctx).isSome = true ↔
      ctx.stimes.length ≤ ctx.etimes.length := by
  constructor
  · intro walked
    by_contra! missing
    have outside : deltas ctx = none := by
      refine mapM_range_eq_none missing ?_
      simp
    rw [outside] at walked
    cases walked
  · intro enough
    rw [deltas_eq_some enough]
    rfl

/-! ## Accounting -/

theorem stamps_of_timed
    {program : Program}
    (timed : program = measurement ∨ program = arbitrationAppend) :
    program.stamps = true := by
  rcases timed with rfl | rfl
  · rfl
  · rfl

/-- The submissions that SPDK accepted. -/
def accepted (state : Loop) : List Issue :=
  state.issued.filter fun issue => issue.outcome.rc == 0

/-- What the counters and the samples of a timed context stand for. -/
structure Samples (state : Loop) : Prop where
  stimes :
    state.ctx.stimes = state.issued.map fun issue => issue.task.startedAt
  etimes : state.ctx.etimes = state.finished.map Finish.finishedAt
  completed : state.ctx.ioCompleted = UInt64.ofNat state.finished.length
  depth :
    state.ctx.currentQueueDepth = UInt64.ofNat state.inFlight.length
  tasks :
    ((accepted state).map Issue.task).Perm
      (state.inFlight ++ state.finished.map Finish.task)

@[simp]
theorem accepted_startIo
    (program : Program) (setup : Setup) (outcome : Outcome)
    (state : Loop) :
    accepted (startIo program setup outcome state) =
      if outcome.rc ≠ 0 then
        accepted state
      else
        accepted state ++ [nextIssue program setup outcome state.ctx] := by
  unfold accepted
  simp only [ContextLoop.startIo, List.filter_append]
  split
  · rename_i rejected
    simp [nextIssue, rejected]
  · rename_i started
    simp [nextIssue, not_not.mp started]

theorem Samples.startIo
    {program : Program} {setup : Setup} {state : Loop}
    (timed : program.stamps = true) (samples : Samples state)
    (outcome : Outcome) :
    Samples (startIo program setup outcome state) := by
  constructor
  · simp [ContextLoop.startIo, stamp, timed, nextIssue, samples.stimes]
  · exact samples.etimes
  · exact samples.completed
  · simp only [ContextLoop.startIo]
    split
    · exact samples.depth
    · rw [samples.depth, List.length_append, UInt64.ofNat_add]
      rfl
  · rw [accepted_startIo]
    simp only [ContextLoop.startIo]
    by_cases rejected : outcome.rc ≠ 0
    · rw [if_pos rejected, if_pos rejected]
      exact samples.tasks
    · rw [if_neg rejected, if_neg rejected, List.map_append,
        List.append_assoc]
      have started :=
        samples.tasks.append_right
          [(nextIssue program setup outcome state.ctx).task]
      rw [List.append_assoc] at started
      exact started.trans (List.perm_append_comm.append_left _)

theorem Samples.retire
    {program : Program} {state : Loop} {index : Nat} {task : ArbTask}
    (timed : program.stamps = true) (samples : Samples state)
    (found : state.inFlight[index]? = some task) (now : Int) :
    Samples (retire program index task now state) := by
  rcases List.getElem?_eq_some_iff.mp found with ⟨inside, same⟩
  have taken := List.getElem_cons_eraseIdx_perm inside
  rw [same] at taken
  constructor
  · exact samples.stimes
  · simp [ContextLoop.retire, stamp, timed, samples.etimes]
  · simp only [ContextLoop.retire]
    rw [samples.completed, List.length_append, UInt64.ofNat_add]
    rfl
  · simp only [ContextLoop.retire]
    rw [samples.depth, ← taken.length_eq, List.length_cons,
      UInt64.ofNat_add]
    exact UInt64.add_sub_cancel _ _
  · simp only [ContextLoop.retire, List.map_append, List.map_cons,
      List.map_nil]
    refine samples.tasks.trans ?_
    rw [← List.append_assoc]
    exact
      (taken.symm.append_right _).trans
        (List.perm_append_singleton task _).symm

theorem samples_of_reachable
    {program : Program} {setup : Setup} {state : Loop}
    (timed : program.stamps = true)
    (reachable : Reachable program setup state) :
    Samples state := by
  refine Reachable.preserves Samples reachable ?_ ?_ ?_ ?_
  · exact ⟨rfl, rfl, rfl, rfl, .refl _⟩
  · intro before outcome samples
    exact samples.startIo timed outcome
  · intro before index task now found samples
    exact samples.retire timed found now
  · intro before left draining samples
    exact
      ⟨samples.stimes, samples.etimes, samples.completed, samples.depth,
        samples.tasks⟩

theorem length_inFlight_startIo_le
    (program : Program) (setup : Setup) (outcome : Outcome)
    (state : Loop) :
    (startIo program setup outcome state).inFlight.length ≤
      state.inFlight.length + 1 := by
  simp only [ContextLoop.startIo]
  split
  · exact Nat.le_succ _
  · rw [List.length_append, List.length_singleton]

theorem length_inFlight_retire
    {state : Loop} {index : Nat} {task : ArbTask}
    (found : state.inFlight[index]? = some task)
    (program : Program) (now : Int) :
    (retire program index task now state).inFlight.length + 1 =
      state.inFlight.length := by
  rcases List.getElem?_eq_some_iff.mp found with ⟨inside, _⟩
  rw [ContextLoop.retire, List.length_eraseIdx_of_lt inside]
  omega

/-- At most `queue_depth` commands are in flight. -/
theorem inFlight_add_submitsLeft_le
    {program : Program} {setup : Setup} {state : Loop}
    (reachable : Reachable program setup state) :
    state.inFlight.length + state.submitsLeft ≤
      setup.arbitration.submitIterations := by
  induction reachable with
  | refl => exact (Nat.zero_add _).le
  | tail before _ taken induction =>
      rename_i middle final event admitted
      rcases step_cases taken with
        ⟨outcome, left, rfl⟩ |
          ⟨index, task, now, _, found, rfl | ⟨outcome, rfl⟩⟩ | ⟨_, rfl⟩
      · have grown :=
          length_inFlight_startIo_le program setup outcome
            { middle with submitsLeft := middle.submitsLeft - 1 }
        simp only [ContextLoop.startIo] at grown ⊢
        omega
      · have shrunk := length_inFlight_retire found program now
        simp only [ContextLoop.retire] at shrunk ⊢
        omega
      · have shrunk := length_inFlight_retire found program now
        have grown :=
          length_inFlight_startIo_le program setup outcome
            (retire program index task now middle)
        have left :
            (startIo program setup outcome
                (retire program index task now middle)).submitsLeft =
              middle.submitsLeft :=
          rfl
        omega
      · exact induction

/-- When `drain_io` returns, nothing is in flight. -/
theorem inFlight_eq_nil_of_drained
    {program : Program} {setup : Setup} {state : Loop}
    (timed : program.stamps = true)
    (reachable : Reachable program setup state)
    (drained : Drained state) :
    state.inFlight = [] := by
  have bounded := inFlight_add_submitsLeft_le reachable
  have depth := (samples_of_reachable timed reachable).depth
  have limit := setup.arbitration.queueDepth.toInt_lt
  have small : state.inFlight.length < 2 ^ 64 := by
    unfold ArbContext.submitIterations at bounded
    omega
  rw [drained.2, ← UInt64.toNat_inj, UInt64.toNat_ofNat',
    Nat.mod_eq_of_lt small] at depth
  exact List.length_eq_zero_iff.mp depth.symm

/-! ## Pairing -/

/-- What `work_fn` needs of the samples after `drain_io`. -/
def Paired (ctx : NsWorkerCtx) : Prop :=
  ctx.stimes.length = ctx.etimes.length ∧
    ctx.ioCompleted = UInt64.ofNat ctx.etimes.length ∧
    (deltas ctx).isSome = true

/--
In every run of a timed benchmark, the samples of a drained context are
paired if and only if SPDK accepted every submission.
-/
theorem paired_iff
    {program : Program} {setup : Setup} {state : Loop}
    (timed : program = measurement ∨ program = arbitrationAppend)
    (reachable : Reachable program setup state)
    (drained : Drained state) :
    Paired state.ctx ↔
      ∀ issue ∈ state.issued, issue.outcome.rc = 0 := by
  have stamps := stamps_of_timed timed
  have samples := samples_of_reachable stamps reachable
  have idle := inFlight_eq_nil_of_drained stamps reachable drained
  have starts : state.ctx.stimes.length = state.issued.length := by
    rw [samples.stimes, List.length_map]
  have ends : state.ctx.etimes.length = (accepted state).length := by
    have tasks := samples.tasks.length_eq
    rw [idle, List.nil_append, List.length_map, List.length_map] at tasks
    rw [samples.etimes, List.length_map, tasks]
  have fewer : (accepted state).length ≤ state.issued.length :=
    List.length_filter_le _ _
  have completed :
      state.ctx.ioCompleted = UInt64.ofNat state.ctx.etimes.length := by
    rw [samples.completed, samples.etimes, List.length_map]
  have all :
      (accepted state).length = state.issued.length ↔
        ∀ issue ∈ state.issued, issue.outcome.rc = 0 := by
    unfold accepted
    rw [List.length_filter_eq_length_iff]
    simp
  rw [← all, Paired, isSome_deltas_iff]
  constructor
  · rintro ⟨paired, _, _⟩
    omega
  · intro equal
    exact ⟨by omega, completed, by omega⟩

/-- Two reads of one block in flight. -/
def twoDeep : Setup := ⟨⟨2, 512, false, 1, 1⟩, ⟨1, 8⟩, []⟩

/-- The read submitted last completes first. -/
def reordered : List Event :=
  [.submit ⟨true, true, 0, 0, 0⟩, .submit ⟨true, true, 0, 0, 10⟩, .drain,
    .complete 1 20 ⟨true, true, 0, 0, 20⟩,
    .complete 0 30 ⟨true, true, 0, 0, 30⟩]

/-- Two accepted reads that complete out of order are paired. -/
theorem paired_two_reads :
    ∃ state,
      Reachable measurement twoDeep state ∧
        Drained state ∧
          state.ctx.etimes = [20, 30] ∧ Paired state.ctx := by
  have replayed :
      ∃ state,
        Reachable measurement twoDeep state ∧
          Drained state ∧
            state.ctx.etimes = [20, 30] ∧
              ∀ issue ∈ state.issued, issue.outcome.rc = 0 :=
    Run.exists_of_replay _ reordered (by decide +kernel)
  rcases replayed with ⟨state, reached, drained, ends, started⟩
  exact
    ⟨state, reached, drained, ends,
      (paired_iff (Or.inl rfl) reached drained).mpr started⟩

/-- A rejected read leaves a start without an end. -/
theorem rejected_read_is_not_paired :
    ∃ state,
      Reachable measurement twoDeep state ∧
        Drained state ∧
          state.ctx.stimes = [0, 10] ∧
            state.ctx.etimes = [20] ∧
              deltas state.ctx = none ∧ ¬ Paired state.ctx := by
  have replayed :
      ∃ state,
        Reachable measurement twoDeep state ∧
          Drained state ∧
            state.ctx.stimes = [0, 10] ∧
              state.ctx.etimes = [20] ∧ deltas state.ctx = none :=
    Run.exists_of_replay _
      [.submit ⟨true, true, 0, 0, 0⟩, .submit ⟨true, true, -12, 0, 10⟩,
        .drain, .complete 0 20 ⟨true, true, 0, 0, 20⟩]
      (by decide +kernel)
  rcases replayed with ⟨state, reached, drained, starts, ends, outside⟩
  refine ⟨state, reached, drained, starts, ends, outside, ?_⟩
  rintro ⟨paired, _, _⟩
  rw [starts, ends] at paired
  cases paired

end ZnsBench.Arbitration.LatencySamples

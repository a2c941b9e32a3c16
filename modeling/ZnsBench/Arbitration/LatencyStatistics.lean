import ZnsBench.Arbitration.LatencySamples

/-!
# The statistics of the timed benchmarks

`work_fn` subtracts the `i`-th start from the `i`-th end.  When completions
are reordered these belong to different I/Os.  With a clock that does not run
backwards and no rejected submission, no difference is negative and the mean
is that of the latencies, in every order of completions.  The sum of squares
is right exactly when no I/O overtakes another one.
-/

namespace ZnsBench.Arbitration.LatencyStatistics

open ZnsBench.Core.GuardedRun
open ZnsBench.Core.SortedPairing
open ZnsBench.Arbitration.ContextLoop
open ZnsBench.Arbitration.LatencySamples

/-- The own submission and completion time of every completed I/O. -/
def jobs (state : Loop) : List (Int × Int) :=
  state.finished.map fun finish => (finish.task.startedAt, finish.finishedAt)

/-- The latencies of the I/Os, in clock ticks. -/
def latencies (state : Loop) : List Int :=
  (jobs state).map fun job => job.2 - job.1

/-! ## Readings of the clock -/

/-- The samples are readings of the clock, in the order of the readings. -/
structure Recorded (state : Loop) : Prop where
  samples : Samples state
  starts : state.ctx.stimes.Sublist state.readings
  ends : state.ctx.etimes.Sublist state.readings
  ordered :
    state.readings.Pairwise (· ≤ ·) →
      ∀ (index : Nat) (stime etime : Int),
        state.ctx.stimes[index]? = some stime →
          state.ctx.etimes[index]? = some etime →
            stime ≤ etime

/-- There are never more ends than starts. -/
theorem length_etimes_le
    {state : Loop} (samples : Samples state) :
    state.ctx.etimes.length + state.inFlight.length ≤
      state.ctx.stimes.length := by
  have tasks := samples.tasks.length_eq
  have fewer : (accepted state).length ≤ state.issued.length :=
    List.length_filter_le _ _
  rw [List.length_append, List.length_map, List.length_map] at tasks
  rw [samples.stimes, samples.etimes, List.length_map, List.length_map]
  omega

theorem Recorded.startIo
    {program : Program} {setup : Setup} {state : Loop}
    (timed : program.stamps = true) (recorded : Recorded state)
    (outcome : Outcome) :
    Recorded (startIo program setup outcome state) := by
  have fewer := length_etimes_le recorded.samples
  have stamped : stamp program outcome.now = [outcome.now] := by
    simp [stamp, timed]
  refine ⟨recorded.samples.startIo timed outcome, ?_, ?_, ?_⟩
  · exact recorded.starts.append (List.Sublist.refl _)
  · exact recorded.ends.trans (List.sublist_append_left _ _)
  · intro sorted index stime etime started ended
    simp only [ContextLoop.startIo, stamped] at sorted started ended
    -- An end of this index stands before the new start.
    have inside := (List.getElem?_eq_some_iff.mp ended).1
    rw [List.getElem?_append_left (by omega)] at started
    exact
      recorded.ordered (List.pairwise_append.mp sorted).1 index stime etime
        started ended

theorem Recorded.retire
    {program : Program} {state : Loop} {index : Nat} {task : ArbTask}
    (timed : program.stamps = true) (recorded : Recorded state)
    (found : state.inFlight[index]? = some task) (now : Int) :
    Recorded (retire program index task now state) := by
  have stamped : stamp program now = [now] := by
    simp [stamp, timed]
  refine ⟨recorded.samples.retire timed found now, ?_, ?_, ?_⟩
  · exact recorded.starts.trans (List.sublist_append_left _ _)
  · exact recorded.ends.append (List.Sublist.refl _)
  · intro sorted place stime etime started ended
    simp only [ContextLoop.retire, stamped] at sorted started ended
    rcases List.pairwise_append.mp sorted with ⟨earlier, _, latest⟩
    rcases getElem?_concat_eq_some ended with old | ⟨_, rfl⟩
    · exact recorded.ordered earlier place stime etime started old
    · have read : stime ∈ state.readings :=
        recorded.starts.subset (List.mem_of_getElem? started)
      exact latest stime read etime (List.mem_singleton_self etime)

theorem recorded_of_reachable
    {program : Program} {setup : Setup} {state : Loop}
    (timed : program.stamps = true)
    (reachable : Reachable program setup state) :
    Recorded state := by
  refine Reachable.preserves Recorded reachable ?_ ?_ ?_ ?_
  · refine ⟨samples_of_reachable timed .refl, .refl _, .refl _, ?_⟩
    intro _ index stime etime started
    cases started
  · intro before outcome recorded
    exact recorded.startIo timed outcome
  · intro before index task now found recorded
    exact recorded.retire timed found now
  · intro before left draining recorded
    rcases recorded.samples with ⟨starts, ends, completed, depth, tasks⟩
    exact
      ⟨⟨starts, ends, completed, depth, tasks⟩, recorded.starts,
        recorded.ends, recorded.ordered⟩

/-! ## Drained contexts -/

section Drained

variable
    {program : Program} {setup : Setup} {state : Loop}
    (timed : program.stamps = true)
    (reachable : Reachable program setup state)
    (drained : Drained state)
    (started : ∀ issue ∈ state.issued, issue.outcome.rc = 0)

include timed reachable

theorem etimes_eq_map_snd : state.ctx.etimes = (jobs state).map Prod.snd := by
  rw [(samples_of_reachable timed reachable).etimes, jobs, List.map_map]
  rfl

include drained started

/-- The recorded starts are the starts of the completed I/Os. -/
theorem stimes_perm_map_fst :
    state.ctx.stimes.Perm ((jobs state).map Prod.fst) := by
  have samples := samples_of_reachable timed reachable
  have idle := inFlight_eq_nil_of_drained timed reachable drained
  have all : accepted state = state.issued := by
    rw [accepted, List.filter_eq_self]
    intro issue issued
    simpa using started issue issued
  have tasks := samples.tasks.map ArbTask.startedAt
  rw [all, idle, List.nil_append, List.map_map, List.map_map] at tasks
  rw [samples.stimes, jobs, List.map_map]
  exact tasks

theorem deltas_eq_differences :
    deltas state.ctx =
      some (differences state.ctx.stimes ((jobs state).map Prod.snd)) := by
  have ends := etimes_eq_map_snd timed reachable
  have starts := stimes_perm_map_fst timed reachable drained started
  rw [deltas_eq_some, ends]
  rw [ends, starts.length_eq, List.length_map, List.length_map]

end Drained

/-! ## Mean and spread -/

/--
In every run with a clock that does not run backwards and without a rejected
submission, every end is at or after the start of its index, and the
differences have the sum of the latencies.
-/
theorem mean_latency_exact
    {program : Program} {setup : Setup} {state : Loop}
    (timed : program = measurement ∨ program = arbitrationAppend)
    (reachable : Reachable program setup state)
    (drained : Drained state)
    (clock : state.readings.Pairwise (· ≤ ·))
    (started : ∀ issue ∈ state.issued, issue.outcome.rc = 0) :
    state.ctx.stimes.length = state.ctx.etimes.length ∧
      (∀ (index : Nat) (stime etime : Int),
        state.ctx.stimes[index]? = some stime →
          state.ctx.etimes[index]? = some etime →
            stime ≤ etime) ∧
      ∃ samples,
        deltas state.ctx = some samples ∧
          samples.sum = (latencies state).sum := by
  have stamps := stamps_of_timed timed
  have starts := stimes_perm_map_fst stamps reachable drained started
  refine
    ⟨?_, (recorded_of_reachable stamps reachable).ordered clock, _,
      deltas_eq_differences stamps reachable drained started,
      sum_differences_eq starts⟩
  rw [etimes_eq_map_snd stamps reachable, starts.length_eq,
    List.length_map, List.length_map]

/-- Two reads that complete in the other order. -/
theorem mean_latency_exact_reordered :
    ∃ state,
      Reachable measurement twoDeep state ∧
        jobs state = [(10, 20), (0, 30)] ∧
          ∃ samples, deltas state.ctx = some samples ∧ samples.sum = 40 := by
  have replayed :
      ∃ state,
        Reachable measurement twoDeep state ∧
          Drained state ∧
            jobs state = [(10, 20), (0, 30)] ∧
              state.readings.Pairwise (· ≤ ·) ∧
                ∀ issue ∈ state.issued, issue.outcome.rc = 0 :=
    Run.exists_of_replay _ reordered (by decide +kernel)
  rcases replayed with ⟨state, reached, drained, order, clock, started⟩
  rcases
      (mean_latency_exact (Or.inl rfl) reached drained clock started).2.2
    with ⟨samples, walked, sum⟩
  refine ⟨state, reached, order, samples, walked, ?_⟩
  rw [sum, latencies, order]
  rfl

/--
Under the same conditions the squares have the sum of the squared latencies
if and only if no I/O overtakes another one.
-/
theorem latency_spread_exact_iff
    {program : Program} {setup : Setup} {state : Loop}
    (timed : program = measurement ∨ program = arbitrationAppend)
    (reachable : Reachable program setup state)
    (drained : Drained state)
    (clock : state.readings.Pairwise (· ≤ ·))
    (started : ∀ issue ∈ state.issued, issue.outcome.rc = 0) :
    ∃ samples,
      deltas state.ctx = some samples ∧
        ((samples.map (· ^ 2)).sum =
            ((latencies state).map (· ^ 2)).sum ↔
          NoOvertaking (jobs state)) := by
  have stamps := stamps_of_timed timed
  have recorded := recorded_of_reachable stamps reachable
  have starts := stimes_perm_map_fst stamps reachable drained started
  have ends : ((jobs state).map Prod.snd).Pairwise (· ≤ ·) := by
    rw [← etimes_eq_map_snd stamps reachable]
    exact clock.sublist recorded.ends
  refine
    ⟨_, deltas_eq_differences stamps reachable drained started, ?_⟩
  rw [← sum_sq_differences_eq_iff starts (clock.sublist recorded.starts)
    ends, latencies, List.map_map]
  rfl

/-- Two reads that complete in the order in which they were submitted. -/
theorem latency_spread_exact_in_order :
    ∃ state,
      Reachable measurement twoDeep state ∧
        jobs state = [(0, 20), (10, 40)] ∧
          ∃ samples,
            deltas state.ctx = some samples ∧
              (samples.map (· ^ 2)).sum =
                ((latencies state).map (· ^ 2)).sum := by
  have replayed :
      ∃ state,
        Reachable measurement twoDeep state ∧
          Drained state ∧
            jobs state = [(0, 20), (10, 40)] ∧
              state.readings.Pairwise (· ≤ ·) ∧
                ∀ issue ∈ state.issued, issue.outcome.rc = 0 :=
    Run.exists_of_replay _
      [.submit ⟨true, true, 0, 0, 0⟩, .submit ⟨true, true, 0, 0, 10⟩,
        .drain, .complete 0 20 ⟨true, true, 0, 0, 20⟩,
        .complete 0 40 ⟨true, true, 0, 0, 40⟩]
      (by decide +kernel)
  rcases replayed with ⟨state, reached, drained, order, clock, started⟩
  rcases
      latency_spread_exact_iff (Or.inl rfl) reached drained clock started
    with ⟨samples, walked, spread⟩
  refine ⟨state, reached, order, samples, walked, spread.mpr ?_⟩
  rw [order]
  unfold NoOvertaking
  decide

/-- A read that overtakes another one makes both samples equal. -/
theorem overtaken_read_changes_spread :
    ∃ state,
      Reachable measurement twoDeep state ∧
        Drained state ∧
          state.readings.Pairwise (· ≤ ·) ∧
            (∀ issue ∈ state.issued, issue.outcome.rc = 0) ∧
              deltas state.ctx = some [20, 20] ∧
                latencies state = [10, 30] ∧
                  (([20, 20] : List Int).map (· ^ 2)).sum ≠
                    ((latencies state).map (· ^ 2)).sum :=
  Run.exists_of_replay _ reordered (by decide +kernel)

end ZnsBench.Arbitration.LatencyStatistics

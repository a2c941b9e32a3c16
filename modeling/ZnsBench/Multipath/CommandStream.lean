import ZnsBench.Multipath.ClosedLoopEngine

/-!
# The commands of one context

The counter of a context of a benchmark engine is the number of commands that
the context has handed to SPDK, accepted or not, and the `n`-th command is
built from the counter value `n`.  This holds in every run, for every copy of
the loop and whatever the other contexts do.
-/

namespace ZnsBench.Multipath.CommandStream

open ZnsBench.Core.ByteString
open ZnsBench.Core.GuardedRun
open ZnsBench.Multipath.NamespaceRegistration
open ZnsBench.Multipath.SpdkInterface
open ZnsBench.Multipath.ClosedLoopEngine

/-- The commands that a context has handed to SPDK, in order. -/
def commandsOf (state : Bench) (index : Nat) : List Command :=
  (state.issued.filter fun issue => issue.1 == index).map
    fun issue => issue.2.1

/-- A context has submitted one command for each number it has counted. -/
structure Stream (variant : Variant) (setup : Setup) (state : Bench)
    (index : Nat) : Prop where
  count :
    (state.ctx index).count =
      UInt64.ofNat (commandsOf state index).length
  command :
    ∀ number command,
      (commandsOf state index)[number]? = some command →
        ∃ offset buffer,
          command =
            variant.command (setup.entry index) (UInt64.ofNat number)
              offset buffer

section Submission

variable
    {variant : Variant} {setup : Setup} {outcome : SubmitOutcome}
    {index : Nat} {state next : Bench}

/-- What a submission adds to the commands, and to the counter. -/
theorem issued_submitSingleIo
    (submitted :
      submitSingleIo variant setup outcome index state = .ok next) :
    (∃ offset buffer,
      next.issued =
        state.issued ++
          [(index,
            variant.command (setup.entry index) (state.ctx index).count
              offset buffer,
            outcome.rc)]) ∧
      ∀ other,
        (next.ctx other).count =
          (state.ctx other).count + if other = index then 1 else 0 := by
  rcases submitSingleIo_ok submitted with
    ⟨stale, pool, chosen, buffer, offset, _, rfl⟩
  unfold startIo
  constructor
  · refine ⟨chosen, buffer, ?_⟩
    split
    · rfl
    · rfl
  · intro other
    by_cases same : other = index
    · subst other
      split
      · simp
      · simp
    · split
      · simp [same]
      · simp [same]

theorem Stream.submitSingleIo
    {context : Nat} (stream : Stream variant setup state context)
    (submitted :
      ClosedLoopEngine.submitSingleIo variant setup outcome index state =
        .ok next) :
    Stream variant setup next context := by
  rcases issued_submitSingleIo submitted with
    ⟨⟨offset, buffer, issued⟩, counts⟩
  have counted := counts context
  by_cases same : context = index
  · subst context
    have commands :
        commandsOf next index =
          commandsOf state index ++
            [variant.command (setup.entry index) (state.ctx index).count
              offset buffer] := by
      rw [commandsOf, issued]
      simp [commandsOf]
    constructor
    · rw [counted, if_pos rfl, commands, List.length_append,
        UInt64.ofNat_add, stream.count]
      rfl
    · intro number command found
      rw [commands] at found
      rcases getElem?_concat_eq_some found with earlier | ⟨rfl, rfl⟩
      · exact stream.command number command earlier
      · rw [← stream.count]
        exact ⟨offset, buffer, rfl⟩
  · have commands : commandsOf next context = commandsOf state context := by
      rw [commandsOf, issued]
      simp [commandsOf, Ne.symm same]
    rw [if_neg same, UInt64.add_zero] at counted
    constructor
    · rw [counted, commands]
      exact stream.count
    · rw [commands]
      exact stream.command

end Submission

/-- A completion does not count. -/
theorem Stream.retire
    {variant : Variant} {setup : Setup} {state : Bench} {context : Nat}
    (stream : Stream variant setup state context)
    (completion : Completion) (task : ArbTask) (flight : List ArbTask) :
    Stream variant setup
      (retire completion task { state with inFlight := flight }) context := by
  have counted :
      ((ClosedLoopEngine.retire completion task
        { state with inFlight := flight }).ctx context).count =
        (state.ctx context).count := by
    by_cases same : context = task.nsCtx
    · simp [ClosedLoopEngine.retire, same]
    · simp [ClosedLoopEngine.retire, same]
  exact ⟨counted.trans stream.count, stream.command⟩

theorem Stream.step
    {variant : Variant} {setup : Setup} {state next : Bench}
    {event : Event} {context : Nat}
    (stream : Stream variant setup state context)
    (taken : step variant setup state event = some next) :
    Stream variant setup next context := by
  rcases step_cases taken with
    ⟨index, outcome, rfl, _, submitted⟩ |
      ⟨position, completion, outcome, task, rfl, _, _, completed⟩ |
        ⟨index, rfl, _, rfl⟩
  · have counted :
        Stream variant setup
          { state with
            submitsLeft :=
              Function.update state.submitsLeft index
                (state.submitsLeft index - 1) }
          context :=
      ⟨stream.count, stream.command⟩
    exact counted.submitSingleIo submitted
  · have retired :=
      stream.retire completion task (state.inFlight.eraseIdx position)
    rw [ioComplete] at completed
    split at completed
    · cases completed
      exact retired
    · exact retired.submitSingleIo completed
  · have counted :
        (Function.update state.ctx index
            { state.ctx index with isDraining := true } context).count =
          (state.ctx context).count := by
      by_cases same : context = index
      · simp [same]
      · simp [same]
    exact ⟨counted.trans stream.count, stream.command⟩

theorem stream_of_reachable
    {variant : Variant} {setup : Setup} {taskPool : List ArbTask}
    {allowed : Bench → Event → Prop} {state : Bench}
    (reachable : Reachable variant setup taskPool allowed state)
    (context : Nat) :
    Stream variant setup state context := by
  induction reachable with
  | refl =>
      refine ⟨rfl, ?_⟩
      intro number command found
      cases found
  | tail _ _ taken induction => exact induction.step taken

end ZnsBench.Multipath.CommandStream

import Mathlib.Logic.Basic
import Mathlib.Data.List.Basic

/-!
# Guarded runs of executable transition functions

A component is given by an executable step function: `step state label` is
`some next` when the event `label` is enabled in `state` and `none`
otherwise.  All nondeterminism of the environment sits in the labels, so one
definition serves both replay of a concrete schedule and proof over every
schedule.

An assumption about the environment is a predicate `allowed state label`.
`Run step allowed start final` says that `final` is reached from `start` by
enabled events which all meet the assumption.  The unrestricted runs are the
ones for `Unrestricted`.
-/

namespace ZnsBench.Core.GuardedRun

universe u v

variable {State : Type u} {Label : Type v}

/-- Every event is admitted by the environment. -/
def Unrestricted (_ : State) (_ : Label) : Prop := True

instance (state : State) (label : Label) :
    Decidable (Unrestricted state label) :=
  isTrue True.intro

/-- Finite runs whose events are all enabled and all admitted. -/
inductive Run
    (step : State → Label → Option State)
    (allowed : State → Label → Prop)
    (start : State) : State → Prop where
  | refl : Run step allowed start start
  | tail {middle final : State} {label : Label}
      (before : Run step allowed start middle)
      (admitted : allowed middle label)
      (taken : step middle label = some final) :
      Run step allowed start final

variable
    {step : State → Label → Option State}
    {allowed : State → Label → Prop}
    {start final : State}

namespace Run

/-- The invariant rule: what one admitted step preserves, a run preserves. -/
theorem preserves
    {Invariant : State → Prop}
    (run : Run step allowed start final)
    (initially : Invariant start)
    (preserved :
      ∀ state label next,
        Invariant state →
          allowed state label →
            step state label = some next →
              Invariant next) :
    Invariant final := by
  induction run with
  | refl => exact initially
  | tail _ admitted taken induction =>
      exact preserved _ _ _ induction admitted taken

/--
The invariant rule with what is known of reached states: the step may use
every invariant that has been proved before.
-/
theorem preserves_along
    {Invariant : State → Prop}
    (run : Run step allowed start final)
    (initially : Invariant start)
    (preserved :
      ∀ state label next,
        Run step allowed start state →
          Invariant state →
            allowed state label →
              step state label = some next →
                Invariant next) :
    Invariant final := by
  induction run with
  | refl => exact initially
  | tail before admitted taken induction =>
      exact preserved _ _ _ before induction admitted taken

/-- Runs compose. -/
theorem trans
    {middle : State}
    (first : Run step allowed start middle)
    (second : Run step allowed middle final) :
    Run step allowed start final := by
  induction second with
  | refl => exact first
  | tail _ admitted taken induction =>
      exact .tail induction admitted taken

/-- A weaker assumption about the environment admits more runs. -/
theorem relax
    {weaker : State → Label → Prop}
    (run : Run step allowed start final)
    (implied : ∀ state label, allowed state label → weaker state label) :
    Run step weaker start final := by
  induction run with
  | refl => exact .refl
  | tail _ admitted taken induction =>
      exact .tail induction (implied _ _ admitted) taken

end Run

/-! ## Recorded runs -/

/--
A component together with a record of its run: `observe` adds to the record
what is seen when an event happens, and has no influence on the run.
-/
def recorded
    {Record : Type*}
    (step : State → Label → Option State)
    (observe : State → Label → Record → Record)
    (state : State × Record) (label : Label) : Option (State × Record) :=
  (step state.1 label).map fun next =>
    (next, observe state.1 label state.2)

/-- The invariant rule for a component and its record. -/
theorem Run.preserves_recorded
    {Record : Type*} {observe : State → Label → Record → Record}
    {record : Record} {reached : State × Record}
    (Invariant : State → Record → Prop)
    (run :
      Run (recorded step observe) (fun pair label => allowed pair.1 label)
        (start, record) reached)
    (initially : Invariant start record)
    (preserved :
      ∀ state label next seen,
        Invariant state seen →
          allowed state label →
            step state label = some next →
              Invariant next (observe state label seen)) :
    Invariant reached.1 reached.2 := by
  induction run with
  | refl => exact initially
  | tail _ admitted taken induction =>
      rw [recorded] at taken
      rcases Option.map_eq_some_iff.mp taken with ⟨next, stepped, rfl⟩
      exact preserved _ _ _ _ induction admitted stepped

/-- An entry of a log that has grown is an earlier one or the latest. -/
theorem getElem?_concat_eq_some
    {Entry : Type*} {log : List Entry} {entry latest : Entry}
    {position : Nat}
    (found : (log ++ [latest])[position]? = some entry) :
    log[position]? = some entry ∨
      position = log.length ∧ entry = latest := by
  rcases Nat.lt_or_ge position log.length with earlier | last
  · rw [List.getElem?_append_left earlier] at found
    exact Or.inl found
  · rw [List.getElem?_append_right last, List.getElem?_singleton] at found
    split at found
    · cases found
      exact Or.inr ⟨by omega, rfl⟩
    · cases found

/-! ## Judged runs -/

/-- A component with the record of whether all its events were good. -/
def judged
    (step : State → Label → Option State)
    (Good : State → Label → Prop)
    [∀ state label, Decidable (Good state label)] :
    State × Bool → Label → Option (State × Bool) :=
  recorded step fun state label earlier =>
    earlier && decide (Good state label)

/-- The invariant rule for a component and the judgement of its events. -/
theorem Run.preserves_judged
    {Good : State → Label → Prop}
    [∀ state label, Decidable (Good state label)]
    {reached : State × Bool}
    (Invariant : State → Prop → Prop)
    (run :
      Run (judged step Good) (fun pair label => allowed pair.1 label)
        (start, true) reached)
    (initially : Invariant start True)
    (preserved :
      ∀ state label next earlier,
        Invariant state earlier →
          allowed state label →
            step state label = some next →
              Invariant next (earlier ∧ Good state label)) :
    Invariant reached.1 (reached.2 = true) := by
  refine
    Run.preserves_recorded
      (fun state earlier => Invariant state (earlier = true)) run ?_ ?_
  · rw [propext (iff_true_intro (Eq.refl true))]
    exact initially
  · intro state label next earlier holds admitted taken
    have judgement :
        ((earlier && decide (Good state label)) = true) =
          (earlier = true ∧ Good state label) := by
      rw [Bool.and_eq_true, decide_eq_true_eq]
    rw [judgement]
    exact preserved state label next _ holds admitted taken

/-! ## Replay -/

/-- Replay a schedule; `none` when an event is disabled or not admitted. -/
def replay
    (step : State → Label → Option State)
    (allowed : State → Label → Prop)
    [∀ state label, Decidable (allowed state label)] :
    State → List Label → Option State
  | state, [] => some state
  | state, label :: rest =>
      if allowed state label then
        (step state label).bind fun next =>
          replay step allowed next rest
      else
        none

/-- A schedule that replays is a run. -/
theorem Run.of_replay
    [∀ state label, Decidable (allowed state label)]
    {labels : List Label}
    (replayed : replay step allowed start labels = some final) :
    Run step allowed start final := by
  induction labels generalizing start with
  | nil =>
      simp only [replay, Option.some.injEq] at replayed
      subst final
      exact .refl
  | cons label rest induction =>
      simp only [replay] at replayed
      split at replayed
      · rename_i admitted
        rcases Option.bind_eq_some_iff.mp replayed with
          ⟨next, taken, remaining⟩
        exact (Run.tail .refl admitted taken).trans (induction remaining)
      · cases replayed

/-- A schedule whose replay ends in a state with a decidable property. -/
theorem Run.exists_of_replay
    [∀ state label, Decidable (allowed state label)]
    (Goal : State → Prop) [DecidablePred Goal]
    (labels : List Label)
    (replayed :
      (replay step allowed start labels).any
        (fun state => decide (Goal state)) = true) :
    ∃ final, Run step allowed start final ∧ Goal final := by
  rw [Option.any_eq_true] at replayed
  rcases replayed with ⟨final, ended, goal⟩
  exact ⟨final, Run.of_replay ended, of_decide_eq_true goal⟩

/--
A schedule that folds is a run, for an assumption about the environment that
need not be decidable.
-/
theorem Run.of_foldlM
    {labels : List Label}
    (admitted : ∀ label ∈ labels, ∀ state, allowed state label)
    (folded : labels.foldlM step start = some final) :
    Run step allowed start final := by
  induction labels generalizing start with
  | nil =>
      cases folded
      exact .refl
  | cons label rest induction =>
      rw [List.foldlM_cons] at folded
      rcases Option.bind_eq_some_iff.mp folded with ⟨next, taken, remaining⟩
      have first : Run step allowed start next :=
        .tail .refl (admitted label List.mem_cons_self start) taken
      exact first.trans
        (induction
          (fun other member =>
            admitted other (List.mem_cons_of_mem label member))
          remaining)

/-! ## Progress -/

/--
The progress rule: where every state that has not reached the goal has an
event that lowers a well-founded measure and keeps the invariant, some run
reaches the goal.
-/
theorem Run.reaches
    {Rank : Type*} {lower : Rank → Rank → Prop}
    (founded : WellFounded lower) (rank : State → Rank)
    (Invariant Goal : State → Prop)
    (progress :
      ∀ state, Invariant state →
        Goal state ∨
          ∃ label next,
            allowed state label ∧ step state label = some next ∧
              Invariant next ∧ lower (rank next) (rank state))
    (holds : Invariant start) :
    ∃ final, Run step allowed start final ∧ Goal final := by
  induction ranked : rank start using founded.induction
    generalizing start with
  | h _ induction =>
      rcases progress start holds with
        goal | ⟨label, next, admitted, taken, kept, drops⟩
      · exact ⟨start, .refl, goal⟩
      · rw [ranked] at drops
        rcases induction _ drops kept rfl with ⟨final, run, goal⟩
        exact ⟨final, (Run.tail .refl admitted taken).trans run, goal⟩

end ZnsBench.Core.GuardedRun

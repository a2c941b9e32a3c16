import Mathlib.Init

/-!
# Computations that may fail

A computation in `Except` either finds a value or raises a failure.  The
modules that follow a program through a sequence of fallible calls take a
success apart call by call, and show that one failure is never raised by
showing it of each call.
-/

namespace ZnsBench.Core.Fallible

universe u v

variable {Failure : Type u} {Found Other : Type v}

theorem exists_of_bind_eq_ok
    {result : Except Failure Found} {next : Found → Except Failure Other}
    {other : Other} (done : (result >>= next) = .ok other) :
    ∃ found, result = .ok found ∧ next found = .ok other := by
  cases result with
  | error failure => cases done
  | ok found => exact ⟨found, rfl, done⟩

theorem bind_eq_ok
    {result : Except Failure Found} {next : Found → Except Failure Other}
    {found : Found} {other : Other} (first : result = .ok found)
    (second : next found = .ok other) : (result >>= next) = .ok other := by
  rw [first]
  exact second

theorem exists_of_map_eq_ok
    {result : Except Failure Found} {next : Found → Other} {other : Other}
    (done : result.map next = .ok other) :
    ∃ found, result = .ok found ∧ next found = other := by
  cases result with
  | error failure => cases done
  | ok found => exact ⟨found, rfl, Except.ok.inj done⟩

/-- A sequence of computations that all succeed. -/
theorem mapM_map_eq_ok
    {Item Input : Type v} {items : List Item}
    {input : Item → Input} {call : Input → Except Failure Found}
    {found : Item → Found}
    (all : ∀ item ∈ items, call (input item) = .ok (found item)) :
    (items.map input).mapM call = .ok (items.map found) := by
  induction items with
  | nil => rfl
  | cons item rest induction =>
      have first := all item List.mem_cons_self
      have later := induction fun other member =>
        all other (List.mem_cons_of_mem item member)
      rw [List.map_cons, List.mapM_cons, first, later]
      rfl

/-- A computation does not raise a failure. -/
def Avoids (failure : Failure) (result : Except Failure Found) : Prop :=
  result ≠ .error failure

variable {failure : Failure}

theorem Avoids.ok (found : Found) : Avoids failure (.ok found) := by
  intro same
  cases same

theorem Avoids.error {raised : Failure} (differs : raised ≠ failure) :
    Avoids failure (.error raised : Except Failure Found) := by
  intro same
  cases same
  exact differs rfl

theorem Avoids.bind
    {result : Except Failure Found} {next : Found → Except Failure Other}
    (first : Avoids failure result)
    (second : ∀ found, result = .ok found → Avoids failure (next found)) :
    Avoids failure (result >>= next) := by
  cases result with
  | error raised =>
      intro same
      cases same
      exact first rfl
  | ok found => exact second found rfl

theorem Avoids.map
    {result : Except Failure Found} (first : Avoids failure result)
    (next : Found → Other) : Avoids failure (result.map next) := by
  cases result with
  | error raised =>
      intro same
      cases same
      exact first rfl
  | ok found => exact Avoids.ok (next found)

end ZnsBench.Core.Fallible

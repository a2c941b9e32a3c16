import Mathlib.Algebra.BigOperators.Fin
import Mathlib.Algebra.Order.Rearrangement
import Mathlib.Data.Fin.Tuple.Sort
import Mathlib.Tactic.LinearCombination
import Mathlib.Tactic.Ring

/-!
# Pairing starts and ends by rank

Jobs start and end at certain times; the jobs are listed by their end.  The
starts are recorded separately, in increasing order, and the `i`-th recorded
start is subtracted from the `i`-th end although the two may belong to
different jobs.

The sum of these differences is the sum of the durations.  The sum of their
squares is the sum of the squared durations exactly when no job overtakes
another one; this is the equality case of the rearrangement inequality.
-/

namespace ZnsBench.Core.SortedPairing

universe u

/-! ## Jobs numbered by their end -/

section Tuples

variable
    {Time : Type u} [CommRing Time] [LinearOrder Time]
    [IsStrictOrderedRing Time]
    {count : Nat} {start finish : Fin count → Time}

/-- Sorting the starts changes neither their sum nor that of the squares. -/
theorem sum_sq_sub_eq_iff_sum_mul
    (order : Equiv.Perm (Fin count)) :
    ∑ job, (finish job - start (order job)) ^ 2 =
        ∑ job, (finish job - start job) ^ 2 ↔
      ∑ job, start (order job) * finish job =
        ∑ job, start job * finish job := by
  have squares :
      ∑ job, start (order job) ^ 2 = ∑ job, start job ^ 2 :=
    Equiv.sum_comp order fun job => start job ^ 2
  have expanded :
      ∀ paired : Fin count → Time,
        ∑ job, (finish job - paired job) ^ 2 =
          ∑ job, finish job ^ 2 - 2 * ∑ job, paired job * finish job +
            ∑ job, paired job ^ 2 := by
    intro paired
    rw [Finset.mul_sum, ← Finset.sum_sub_distrib,
      ← Finset.sum_add_distrib]
    apply Finset.sum_congr rfl
    intro job _
    ring
  rw [expanded fun job => start (order job), expanded start, squares]
  constructor
  · intro equal
    have doubled :
        2 * ∑ job, start (order job) * finish job =
          2 * ∑ job, start job * finish job := by
      linear_combination -equal
    exact mul_left_cancel₀ two_ne_zero doubled
  · intro equal
    rw [equal]

theorem sum_sq_sub_sort_eq_iff
    (start : Fin count → Time) (increasing : Monotone finish) :
    ∑ job, (finish job - start (Tuple.sort start job)) ^ 2 =
        ∑ job, (finish job - start job) ^ 2 ↔
      ∀ job other, start job < start other → finish job ≤ finish other := by
  have sorted : Monovary (start ∘ Tuple.sort start) finish :=
    (Tuple.monotone_sort start).monovary increasing
  have equality :=
    sorted.sum_comp_perm_mul_eq_sum_mul_iff (σ := (Tuple.sort start).symm)
  simp only [Function.comp_apply, Equiv.apply_symm_apply] at equality
  have restored :
      (start ∘ Tuple.sort start) ∘ (Tuple.sort start).symm = start := by
    funext job
    simp
  rw [restored] at equality
  rw [sum_sq_sub_eq_iff_sum_mul, eq_comm, equality]
  constructor
  · intro monovary job other earlier
    by_contra! overtaken
    exact absurd (monovary overtaken) (not_le.mpr earlier)
  · intro inOrder job other earlier
    by_contra! overtaken
    exact absurd (inOrder other job overtaken) (not_le.mpr earlier)

end Tuples

/-! ## Jobs in a list -/

section Lists

variable
    {Time : Type u} [CommRing Time] [LinearOrder Time]
    {jobs : List (Time × Time)} {starts : List Time}

/-- No job that starts before another one ends after it. -/
def NoOvertaking (jobs : List (Time × Time)) : Prop :=
  ∀ job ∈ jobs, ∀ other ∈ jobs, job.1 < other.1 → job.2 ≤ other.2

/-- The differences of ends and starts of the same rank. -/
def differences (starts ends : List Time) : List Time :=
  List.zipWith (fun start finish => finish - start) starts ends

omit [LinearOrder Time] in
theorem sum_differences
    {starts ends : List Time} (paired : starts.length = ends.length) :
    (differences starts ends).sum = ends.sum - starts.sum := by
  induction starts generalizing ends with
  | nil =>
      rw [List.eq_nil_of_length_eq_zero paired.symm]
      simp [differences]
  | cons start starts induction =>
      cases ends with
      | nil => cases paired
      | cons finish ends =>
          have rest := induction (Nat.succ_injective paired)
          rw [differences] at rest ⊢
          rw [List.zipWith_cons_cons, List.sum_cons, rest, List.sum_cons,
            List.sum_cons]
          ring

omit [LinearOrder Time] in
/-- The differences by rank have the sum of the durations. -/
theorem sum_differences_eq
    (recorded : starts.Perm (jobs.map Prod.fst)) :
    (differences starts (jobs.map Prod.snd)).sum =
      (jobs.map fun job => job.2 - job.1).sum := by
  have paired : starts.length = (jobs.map Prod.snd).length := by
    rw [recorded.length_eq, List.length_map, List.length_map]
  have durations :
      differences (jobs.map Prod.fst) (jobs.map Prod.snd) =
        jobs.map fun job => job.2 - job.1 := by
    rw [differences, List.zipWith_map, List.zipWith_self]
  rw [← durations, sum_differences paired, recorded.sum_eq,
    sum_differences (by rw [List.length_map, List.length_map])]

omit [CommRing Time] in
/-- Starts that are recorded in order are the sorted ones. -/
theorem eq_ofFn_sort
    {count : Nat} {start : Fin count → Time}
    (recorded : starts.Perm (List.ofFn start))
    (increasing : starts.Pairwise (· ≤ ·)) :
    starts = List.ofFn (start ∘ Tuple.sort start) := by
  have permuted :
      starts.Perm (List.ofFn (start ∘ Tuple.sort start)) :=
    recorded.trans
      (Equiv.Perm.ofFn_comp_perm (Tuple.sort start) start).symm
  exact
    permuted.eq_of_pairwise' increasing
      (Tuple.monotone_sort start).sortedLE_ofFn.pairwise

omit [LinearOrder Time] in
theorem differences_ofFn
    {count : Nat} (start finish : Fin count → Time) :
    differences (List.ofFn start) (List.ofFn finish) =
      List.ofFn fun job => finish job - start job := by
  apply List.ext_getElem
  · simp [differences]
  · intro index _ _
    simp [differences]

/--
The squares of the differences by rank have the sum of the squared durations
if and only if no job overtakes another one.
-/
theorem sum_sq_differences_eq_iff [IsStrictOrderedRing Time]
    (recorded : starts.Perm (jobs.map Prod.fst))
    (increasing : starts.Pairwise (· ≤ ·))
    (ends : (jobs.map Prod.snd).Pairwise (· ≤ ·)) :
    ((differences starts (jobs.map Prod.snd)).map (· ^ 2)).sum =
        (jobs.map fun job => (job.2 - job.1) ^ 2).sum ↔
      NoOvertaking jobs := by
  rcases (⟨_, _, (List.ofFn_get jobs).symm⟩ :
      ∃ count, ∃ job : Fin count → Time × Time, jobs = List.ofFn job) with
    ⟨count, job, rfl⟩
  rw [List.map_ofFn] at recorded ends ⊢
  have finished : Monotone (Prod.snd ∘ job) :=
    List.sortedLE_ofFn_iff.mp (List.sortedLE_iff_pairwise.mpr ends)
  rw [eq_ofFn_sort recorded increasing, differences_ofFn, List.map_ofFn,
    List.map_ofFn, List.sum_ofFn, List.sum_ofFn]
  refine (sum_sq_sub_sort_eq_iff (Prod.fst ∘ job) finished).trans ?_
  simp [NoOvertaking]

end Lists

end ZnsBench.Core.SortedPairing

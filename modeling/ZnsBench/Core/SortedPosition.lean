import Mathlib.Data.List.Basic
import Mathlib.Data.List.Induction
import Mathlib.Data.List.Sort
import Mathlib.Order.Basic

/-!
# Positions in a sorted list

An element is looked up in a sorted copy of a list.  It stands first exactly
when it is a least element, and the element right before its first occurrence
is the greatest one below it.
-/

namespace ZnsBench.Core.SortedPosition

universe u

variable {Element : Type u}
    [LE Element] [DecidableLE Element] [Std.IsLinearOrder Element]
    [BEq Element] [LawfulBEq Element]

/--
`std::sort` into ascending order.  The order is linear, so the result does
not depend on the algorithm.
-/
def sorted (elements : List Element) : List Element :=
  elements.insertionSort (· ≤ ·)

omit [BEq Element] [LawfulBEq Element] in
theorem pairwise_sorted (elements : List Element) :
    (sorted elements).Pairwise (· ≤ ·) := by
  have transitive : IsTrans Element (· ≤ ·) :=
    ⟨fun _ _ _ lower upper => Std.le_trans lower upper⟩
  exact List.pairwise_insertionSort (· ≤ ·) elements

omit [Std.IsLinearOrder Element] [BEq Element] [LawfulBEq Element] in
@[simp]
theorem mem_sorted {elements : List Element} {element : Element} :
    element ∈ sorted elements ↔ element ∈ elements :=
  List.mem_insertionSort (· ≤ ·)

/-- The elements before the first occurrence, and those after it. -/
theorem sorted_split
    {elements : List Element} {element : Element}
    (member : element ∈ elements) :
    ∃ before after,
      sorted elements = before ++ element :: after ∧
        element ∉ before ∧
          (sorted elements).idxOf element = before.length ∧
            before.Pairwise (· ≤ ·) ∧
              (∀ other ∈ before, other ≤ element) ∧
                ∀ other ∈ after, element ≤ other := by
  rcases List.eq_append_cons_of_mem (mem_sorted.mpr member) with
    ⟨before, after, split, first⟩
  have ordered := pairwise_sorted elements
  rw [split, List.pairwise_append, List.pairwise_cons] at ordered
  refine ⟨before, after, split, first, ?_, ordered.1, ?_, ordered.2.1.1⟩
  · rw [split, List.idxOf_append_of_notMem first, List.idxOf_cons_self,
      Nat.add_zero]
  · intro other otherMember
    exact ordered.2.2 other otherMember element List.mem_cons_self

/-- An element stands first exactly when it is a least element. -/
theorem idxOf_sorted_eq_zero_iff
    {elements : List Element} {element : Element}
    (member : element ∈ elements) :
    (sorted elements).idxOf element = 0 ↔
      ∀ other ∈ elements, element ≤ other := by
  rcases sorted_split member with
    ⟨before, after, split, first, position, _, lower, upper⟩
  rw [position, List.length_eq_zero_iff]
  constructor
  · rintro rfl other otherMember
    rw [← mem_sorted, split] at otherMember
    rcases List.mem_cons.mp otherMember with rfl | later
    · exact Std.le_refl _
    · exact upper other later
  · intro least
    rw [List.eq_nil_iff_forall_not_mem]
    intro other otherMember
    have listed : other ∈ elements := by
      rw [← mem_sorted, split]
      exact List.mem_append_left _ otherMember
    have equal : other = element :=
      Std.le_antisymm (lower other otherMember) (least other listed)
    rw [equal] at otherMember
    exact first otherMember

/-- The element before an occurrence is the greatest one below it. -/
theorem sorted_predecessor
    {elements : List Element} {element : Element}
    (member : element ∈ elements)
    (notFirst : (sorted elements).idxOf element ≠ 0) :
    ∃ found ∈ elements,
      (sorted elements)[(sorted elements).idxOf element - 1]? =
          some found ∧
        found ≤ element ∧ found ≠ element ∧
          ∀ other ∈ elements,
            other ≤ element → other ≠ element → other ≤ found := by
  rcases sorted_split member with
    ⟨before, after, split, first, position, ordered, lower, upper⟩
  rw [position] at notFirst ⊢
  cases before using List.reverseRecOn with
  | nil => exact absurd rfl notFirst
  | append_singleton front found =>
      rw [List.pairwise_append] at ordered
      have foundMember : found ∈ front ++ [found] := by simp
      refine ⟨found, ?_, ?_, lower found foundMember, ?_, ?_⟩
      · rw [← mem_sorted, split]
        exact List.mem_append_left _ foundMember
      · rw [split]
        simp
      · rintro rfl
        exact first foundMember
      · intro other otherMember below different
        rw [← mem_sorted, split] at otherMember
        rcases List.mem_append.mp otherMember with early | late
        · rcases List.mem_append.mp early with earlier | last
          · exact ordered.2.2 other earlier found (List.mem_singleton_self _)
          · rw [List.mem_singleton] at last
            rw [last]
            exact Std.le_refl _
        · rcases List.mem_cons.mp late with same | later
          · exact absurd same different
          · exact
              absurd (Std.le_antisymm below (upper other later)) different

end ZnsBench.Core.SortedPosition

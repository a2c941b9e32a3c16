import Mathlib.Data.List.Basic

/-!
# Exchanging one part of a whole

A whole is made of the contents of a row of parts.  When one part is replaced
the whole changes by what the new part has more or less than the old one.
-/

namespace ZnsBench.Core.Exchange

universe u v

variable {Part : Type u} {Item : Type v} [DecidableEq Item]

/-- The new part comes for the old one. -/
theorem count_flatMap_set
    {parts : List Part} {position : Nat} {old : Part}
    (here : parts[position]? = some old)
    (contents : Part → List Item) (new : Part) (item : Item) :
    ((parts.set position new).flatMap contents).count item +
        (contents old).count item =
      (parts.flatMap contents).count item +
        (contents new).count item := by
  induction parts generalizing position with
  | nil => cases here
  | cons part rest induction =>
      cases position with
      | zero =>
          cases here
          simp only [List.set_cons_zero, List.flatMap_cons,
            List.count_append]
          omega
      | succ position =>
          have tail := induction here
          simp only [List.set_cons_succ, List.flatMap_cons,
            List.count_append]
          omega

/-- What holds of every part still does if it holds of the new one. -/
theorem forall_mem_set
    {parts : List Part} {Holds : Nat → Part → Prop}
    (all : ∀ index part, parts[index]? = some part → Holds index part)
    {position : Nat} {new : Part}
    (fresh : position < parts.length → Holds position new) :
    ∀ index part, (parts.set position new)[index]? = some part →
      Holds index part := by
  intro index part found
  rw [List.getElem?_set] at found
  split at found
  · rename_i same
    subst same
    split at found
    · rename_i inside
      cases found
      exact fresh inside
    · cases found
  · exact all index part found

end ZnsBench.Core.Exchange

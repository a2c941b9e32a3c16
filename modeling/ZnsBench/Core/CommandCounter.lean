import Mathlib.Data.List.Basic
import Mathlib.Data.UInt

/-!
# Machine counters of commands in flight

A program counts the commands that it has submitted in a fixed-width integer.
The counter is the length of the list of commands in flight, as such an
integer; below half the range it is the length itself.
-/

namespace ZnsBench.Core.CommandCounter

universe u

@[simp]
theorem ofNat_succ_sub_one (number : Nat) :
    Int32.ofNat (number + 1) - 1 = Int32.ofNat number := by
  rw [Int32.ofNat_add]
  exact Int32.add_sub_cancel _ _

theorem ofNat_eq_ofNat_iff
    {number other : Nat} (small : number < 2 ^ 31) (bound : other < 2 ^ 31) :
    Int32.ofNat number = Int32.ofNat other ↔ number = other := by
  rw [← Int32.toInt_inj, Int32.toInt_ofNat_of_lt small,
    Int32.toInt_ofNat_of_lt bound]
  omega

section Flight

variable {Command : Type u} {command : Command} {flight : List Command}

/-- One command more is counted. -/
theorem ofNat_length_append (command : Command) (flight : List Command) :
    Int32.ofNat (flight ++ [command]).length =
      Int32.ofNat flight.length + 1 := by
  rw [List.length_append, Int32.ofNat_add]
  rfl

/-- One command less is counted. -/
theorem ofNat_length_erase [BEq Command] [LawfulBEq Command]
    (present : command ∈ flight) :
    Int32.ofNat (flight.erase command).length =
      Int32.ofNat flight.length - 1 := by
  rw [← List.length_erase_add_one present, ofNat_succ_sub_one]

/-- A counter in range is zero only when nothing is in flight. -/
theorem eq_nil_of_ofNat_length_eq_zero
    (small : flight.length < 2 ^ 31)
    (zero : Int32.ofNat flight.length = 0) :
    flight = [] := by
  have none : flight.length = 0 :=
    (ofNat_eq_ofNat_iff small (Nat.two_pow_pos 31)).mp zero
  exact List.length_eq_zero_iff.mp none

end Flight

end ZnsBench.Core.CommandCounter

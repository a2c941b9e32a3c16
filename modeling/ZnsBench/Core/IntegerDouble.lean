import Mathlib.Algebra.Order.Group.Nat
import Mathlib.Data.Nat.Log

/-!
# Counting in double precision

In a language whose only numbers are doubles a counter is a double too.  This
module has the doubles that are natural numbers, and the infinite one: a
natural number is rounded to 53 significant bits, to the even neighbour when
it lies halfway.

Up to `2 ^ 53` nothing is rounded.  There counting stops: the next number lies
halfway and is rounded back, so that a counter stands still from then on.
-/

namespace ZnsBench.Core.IntegerDouble

/-- All natural numbers up to this one are doubles. -/
def exactBound : Nat := 2 ^ 53

/-- The binary exponents of finite doubles lie below this one. -/
def exponentBound : Nat := 1024

/-- The distance of the doubles around a number. -/
def unit (number : Nat) : Nat := 2 ^ (number.log2 - 52)

/-- The nearest double, the even one of two. -/
def rounded (number : Nat) : Nat :=
  let significand := number / unit number
  let rest := number % unit number
  if 2 * rest < unit number ∨
      2 * rest = unit number ∧ significand % 2 = 0 then
    significand * unit number
  else
    (significand + 1) * unit number

/-- A double that is a natural number or infinite. -/
inductive Number where
  | finite (value : Nat)
  | infinite
  deriving DecidableEq, Repr

namespace Number

/-- The double of a natural number. -/
def ofNat (number : Nat) : Number :=
  if (rounded number).log2 < exponentBound then
    .finite (rounded number)
  else
    .infinite

/-- The sum, rounded to a number again. -/
def add : Number → Number → Number
  | .finite first, .finite second => ofNat (first + second)
  | _, _ => .infinite

/-- The order, in which nothing is above infinity. -/
def lessThan : Number → Number → Bool
  | .finite first, .finite second => decide (first < second)
  | .finite _, .infinite => true
  | .infinite, _ => false

end Number

/-! ## Exact numbers -/

theorem rounded_of_unit_eq_one
    {number : Nat} (fine : unit number = 1) :
    rounded number = number := by
  simp [rounded, fine, Nat.mod_one]

theorem rounded_of_le {number : Nat} (exact : number ≤ exactBound) :
    rounded number = number := by
  rcases Nat.lt_or_eq_of_le exact with below | rfl
  · apply rounded_of_unit_eq_one
    by_cases zero : number = 0
    · subst number
      rfl
    · have short : number.log2 < 53 := (Nat.log2_lt zero).mpr below
      rw [unit, Nat.sub_eq_zero_of_le (Nat.le_of_lt_succ short), Nat.pow_zero]
  · decide

/-- Rounding does not lead back below the exact numbers. -/
theorem exactBound_le_rounded
    {number : Nat} (large : exactBound ≤ number) :
    exactBound ≤ rounded number := by
  have nonzero : number ≠ 0 := by
    rintro rfl
    exact absurd large (by decide)
  have long : 53 ≤ number.log2 := (Nat.le_log2 nonzero).mpr large
  have full : 2 ^ 52 ≤ number / unit number := by
    rw [unit, Nat.le_div_iff_mul_le (Nat.two_pow_pos _), ← Nat.pow_add,
      show 52 + (number.log2 - 52) = number.log2 by omega]
    exact Nat.log2_self_le nonzero
  have wide : 2 ≤ unit number := by
    rw [unit]
    calc
      2 = 2 ^ 1 := rfl
      _ ≤ 2 ^ (number.log2 - 52) :=
        Nat.pow_le_pow_right (by decide) (by omega)
  have product :
      exactBound ≤ number / unit number * unit number :=
    calc
      exactBound = 2 ^ 52 * 2 := by decide
      _ ≤ number / unit number * unit number := Nat.mul_le_mul full wide
  have next :
      number / unit number * unit number ≤
        (number / unit number + 1) * unit number :=
    Nat.mul_le_mul_right _ (Nat.le_succ _)
  rw [rounded]
  split
  · exact product
  · exact product.trans next

namespace Number

theorem ofNat_of_le {number : Nat} (exact : number ≤ exactBound) :
    ofNat number = .finite number := by
  have small : number.log2 < exponentBound := by
    by_cases zero : number = 0
    · subst number
      decide
    · have short : number.log2 < 54 :=
        (Nat.log2_lt zero).mpr (lt_of_le_of_lt exact (by decide))
      exact short.trans (by decide)
  rw [ofNat, rounded_of_le exact, if_pos small]

/-- Comparing an exact number with a rounded one is exact. -/
theorem lessThan_ofNat
    {number : Nat} (exact : number ≤ exactBound) (other : Nat) :
    lessThan (ofNat other) (.finite number) = decide (other < number) := by
  rcases Nat.le_total other exactBound with small | large
  · rw [ofNat_of_le small, lessThan]
  · have notBelow : ¬ other < number := Nat.not_lt_of_le (exact.trans large)
    rw [ofNat, decide_eq_false notBelow]
    split
    · rw [lessThan, decide_eq_false]
      exact Nat.not_lt_of_le (exact.trans (exactBound_le_rounded large))
    · rfl

/-! ## Counters -/

/-- A counter after a number of increments from zero. -/
def counted (count : Nat) : Number := .finite (min count exactBound)

theorem counted_of_le {count : Nat} (exact : count ≤ exactBound) :
    counted count = .finite count := by
  rw [counted, Nat.min_eq_left exact]

/-- An increment is lost when the exact numbers are used up. -/
@[simp]
theorem counted_add_one (count : Nat) :
    (counted count).add (.finite 1) = counted (count + 1) := by
  rcases Nat.lt_or_ge count exactBound with below | reached
  · rw [counted_of_le (Nat.le_of_lt below), add,
      ofNat_of_le (Nat.succ_le_of_lt below),
      counted_of_le (Nat.succ_le_of_lt below)]
  · have stands :
        (finite exactBound).add (.finite 1) = .finite exactBound := by
      decide
    rw [counted, counted, Nat.min_eq_right reached,
      Nat.min_eq_right (Nat.le_succ_of_le reached), stands]

/-- An increment that is made under a condition. -/
def addOneIf (condition : Bool) (number : Number) : Number :=
  if condition then number.add (.finite 1) else number

@[simp]
theorem addOneIf_counted (condition : Bool) (count : Nat) :
    addOneIf condition (counted count) =
      counted (count + if condition then 1 else 0) := by
  cases condition with
  | false => rfl
  | true => exact counted_add_one count

end Number

end ZnsBench.Core.IntegerDouble

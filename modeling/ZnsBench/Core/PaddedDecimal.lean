import ZnsBench.Core.ByteString
import Mathlib.Order.Basic
import Mathlib.Tactic.Ring

/-!
# Zero-padded decimal names

Numbers printed with `%0*d` and read back with `%d`.  Among numbers that fit
the width, printing is injective, `%d` reads the number back, and the order
of the printed names as strings is the order of the numbers.
-/

namespace ZnsBench.Core.PaddedDecimal

open ZnsBench.Core.ByteString

/-! ## Printing -/

/-- The digit character of a number below ten. -/
def digitByte (digit : Nat) : UInt8 := UInt8.ofNat (48 + digit)

/-- `%0*d` of a number of at most `width` digits. -/
def padded : Nat → Nat → Bytes
  | 0, _ => []
  | width + 1, number =>
      digitByte (number / 10 ^ width) ::
        padded width (number % 10 ^ width)

theorem toNat_digitByte {digit : Nat} (small : digit < 10) :
    (digitByte digit).toNat = 48 + digit := by
  rw [digitByte, UInt8.toNat_ofNat']
  exact Nat.mod_eq_of_lt (by omega)

theorem digitByte_lt_iff
    {first second : Nat}
    (firstSmall : first < 10) (secondSmall : second < 10) :
    digitByte first < digitByte second ↔ first < second := by
  rw [UInt8.lt_iff_toNat_lt, toNat_digitByte firstSmall,
    toNat_digitByte secondSmall]
  omega

theorem digitByte_inj
    {first second : Nat}
    (firstSmall : first < 10) (secondSmall : second < 10) :
    digitByte first = digitByte second ↔ first = second := by
  rw [← UInt8.toNat_inj, toNat_digitByte firstSmall,
    toNat_digitByte secondSmall]
  omega

/-- The leading digit of a number that fits is a digit. -/
theorem leading_lt_ten
    {width number : Nat} (fits : number < 10 ^ (width + 1)) :
    number / 10 ^ width < 10 := by
  apply Nat.div_lt_of_lt_mul
  rwa [← pow_succ]

theorem trailing_fits (width number : Nat) :
    number % 10 ^ width < 10 ^ width :=
  Nat.mod_lt _ (Nat.pow_pos (by decide))

/-- Division with remainder compares numbers lexicographically. -/
theorem lt_iff_div_mod_lt
    {divisor : Nat} (positive : 0 < divisor) (first second : Nat) :
    first < second ↔
      first / divisor < second / divisor ∨
        first / divisor = second / divisor ∧
          first % divisor < second % divisor := by
  have firstSplit := Nat.div_add_mod first divisor
  have secondSplit := Nat.div_add_mod second divisor
  have firstSmall := Nat.mod_lt first positive
  have secondSmall := Nat.mod_lt second positive
  constructor
  · intro less
    have quotients : first / divisor ≤ second / divisor :=
      Nat.div_le_div_right (le_of_lt less)
    rcases lt_or_eq_of_le quotients with smaller | equal
    · exact Or.inl smaller
    · rw [equal] at firstSplit
      exact Or.inr ⟨equal, by omega⟩
  · rintro (smaller | ⟨equal, less⟩)
    · exact lt_of_not_ge fun ge =>
        absurd (Nat.div_le_div_right ge) (not_le_of_gt smaller)
    · rw [equal] at firstSplit
      omega

/-- String order of padded names is numeric order. -/
theorem padded_lt_iff
    {width first second : Nat}
    (firstFits : first < 10 ^ width) (secondFits : second < 10 ^ width) :
    padded width first < padded width second ↔ first < second := by
  induction width generalizing first second with
  | zero =>
      have firstZero : first = 0 := by simpa using firstFits
      have secondZero : second = 0 := by simpa using secondFits
      subst first second
      simp
  | succ width induction =>
      rw [padded, padded, List.cons_lt_cons_iff,
        digitByte_lt_iff (leading_lt_ten firstFits)
          (leading_lt_ten secondFits),
        digitByte_inj (leading_lt_ten firstFits)
          (leading_lt_ten secondFits),
        induction (trailing_fits width first)
          (trailing_fits width second),
        ← lt_iff_div_mod_lt (Nat.pow_pos (by decide)) first second]

theorem padded_le_iff
    {width first second : Nat}
    (firstFits : first < 10 ^ width) (secondFits : second < 10 ^ width) :
    padded width first ≤ padded width second ↔ first ≤ second := by
  rw [← List.not_lt, padded_lt_iff secondFits firstFits, not_lt]

theorem padded_inj
    {width first second : Nat}
    (firstFits : first < 10 ^ width) (secondFits : second < 10 ^ width) :
    padded width first = padded width second ↔ first = second := by
  constructor
  · intro equal
    apply le_antisymm
    · rw [← padded_le_iff firstFits secondFits, equal]
      exact List.le_refl _
    · rw [← padded_le_iff secondFits firstFits, equal]
      exact List.le_refl _
  · rintro rfl
    rfl

/-- A common stem does not change the order of names. -/
@[simp]
theorem stem_append_lt_iff (stem first second : Bytes) :
    stem ++ first < stem ++ second ↔ first < second := by
  induction stem with
  | nil => exact Iff.rfl
  | cons byte rest induction =>
      rw [List.cons_append, List.cons_append, List.cons_lt_cons_iff,
        induction]
      simp

/-! ## Scanning -/

/-- `isdigit` of the C locale. -/
def isDigit (byte : UInt8) : Bool := 48 ≤ byte && byte ≤ 57

/-- `isspace` of the C locale. -/
def isSpace (byte : UInt8) : Bool :=
  byte == 32 || (9 ≤ byte && byte ≤ 13)

/-- The value of the leading digits, appended to the digits read so far. -/
def digitsValue (value : Nat) : Bytes → Nat
  | [] => value
  | byte :: rest =>
      if isDigit byte then
        digitsValue (value * 10 + (byte.toNat - 48)) rest
      else
        value

/-- At least one digit has to stand at the front. -/
def scanUnsigned (text : Bytes) : Option Nat :=
  if text.head?.any isDigit then some (digitsValue 0 text) else none

/--
`sscanf(text, "%d", …)`: white space and a sign are skipped.  `none` when
the conversion fails and the variable keeps its value.
-/
def scanInt (text : Bytes) : Option Int :=
  match text.dropWhile isSpace with
  | [] => none
  | byte :: rest =>
      if byte == 45 then
        (scanUnsigned rest).map fun value => -Int.ofNat value
      else if byte == 43 then
        (scanUnsigned rest).map Int.ofNat
      else
        (scanUnsigned (byte :: rest)).map Int.ofNat

/-- `sscanf(text, "literal%d", …)`. -/
def scanIntAfter (literal text : Bytes) : Option Int :=
  if literal.isPrefixOf text then
    scanInt (text.drop literal.length)
  else
    none

theorem isDigit_digitByte {digit : Nat} (small : digit < 10) :
    isDigit (digitByte digit) = true := by
  simp only [isDigit, Bool.and_eq_true, decide_eq_true_eq,
    UInt8.le_iff_toNat_le, toNat_digitByte small]
  constructor
  · show 48 ≤ 48 + digit
    omega
  · show 48 + digit ≤ 57
    omega

theorem digitsValue_padded
    {width number : Nat} (value : Nat) (fits : number < 10 ^ width) :
    digitsValue value (padded width number) =
      value * 10 ^ width + number := by
  induction width generalizing value number with
  | zero =>
      have zero : number = 0 := by simpa using fits
      subst number
      simp [padded, digitsValue]
  | succ width induction =>
      have leading := leading_lt_ten fits
      have split := Nat.div_add_mod number (10 ^ width)
      rw [padded, digitsValue, if_pos (isDigit_digitByte leading),
        toNat_digitByte leading,
        induction _ (trailing_fits width number), Nat.add_sub_cancel_left]
      calc
        (value * 10 + number / 10 ^ width) * 10 ^ width +
              number % 10 ^ width =
            value * 10 ^ (width + 1) +
              (10 ^ width * (number / 10 ^ width) +
                number % 10 ^ width) := by ring
        _ = value * 10 ^ (width + 1) + number := by rw [split]

/-- `%d` reads a padded name back. -/
theorem scanInt_padded
    {width number : Nat}
    (fits : number < 10 ^ (width + 1)) :
    scanInt (padded (width + 1) number) = some (number : Int) := by
  have leading := leading_lt_ten fits
  have digit := isDigit_digitByte leading
  have noSpace : isSpace (digitByte (number / 10 ^ width)) = false := by
    simp only [isDigit, isSpace, Bool.and_eq_true, decide_eq_true_eq,
      Bool.or_eq_false_iff, beq_eq_false_iff_ne, ne_eq] at digit ⊢
    grind
  have noMinus : (digitByte (number / 10 ^ width) == 45) = false := by
    simp only [isDigit, Bool.and_eq_true, decide_eq_true_eq,
      beq_eq_false_iff_ne, ne_eq] at digit ⊢
    grind
  have noPlus : (digitByte (number / 10 ^ width) == 43) = false := by
    simp only [isDigit, Bool.and_eq_true, decide_eq_true_eq,
      beq_eq_false_iff_ne, ne_eq] at digit ⊢
    grind
  have value := digitsValue_padded 0 fits
  rw [Nat.zero_mul, Nat.zero_add, padded] at value
  rw [scanInt, padded, List.dropWhile_cons_of_neg (by simp [noSpace])]
  simp only [noMinus, noPlus, Bool.false_eq_true, if_false, scanUnsigned,
    List.head?_cons, Option.any_some, digit, if_true, Option.map_some,
    value]
  rfl

@[simp]
theorem scanIntAfter_append (literal text : Bytes) :
    scanIntAfter literal (literal ++ text) = scanInt text := by
  rw [scanIntAfter, if_pos (by simp), List.drop_left]

end ZnsBench.Core.PaddedDecimal

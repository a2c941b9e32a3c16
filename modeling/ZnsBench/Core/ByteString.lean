import Mathlib.Data.List.Basic
import Mathlib.Data.List.TakeWhile

/-!
# Delimited reads and slices of byte sequences

The programs keep raw bytes in buffers and files and read them back in two
ways: as a slice of known length, and by scanning up to a delimiter.  A slice
of an append-only sequence is stable; a delimited scan is not, because it
stops wherever the delimiter happens to stand.  This module states both facts
over an arbitrary element type, and then the C view of text: NUL-terminated
strings in zero-filled buffers and decimal numerals.
-/

namespace ZnsBench.Core.ByteString

universe u

variable {Symbol : Type u}

/-- The `size` symbols of a sequence that start at `offset`. -/
def slice (contents : List Symbol) (offset size : Nat) : List Symbol :=
  (contents.drop offset).take size

/-- Appending behind a slice does not change it. -/
theorem slice_append
    {contents : List Symbol} {offset size : Nat}
    (inside : offset + size ≤ contents.length)
    (suffix : List Symbol) :
    slice (contents ++ suffix) offset size =
      slice contents offset size := by
  have offsetInside : offset ≤ contents.length := by omega
  have sizeInside : size ≤ (contents.drop offset).length := by
    rw [List.length_drop]
    omega
  rw [slice, slice, List.drop_append_of_le_length offsetInside,
    List.take_append_of_le_length sizeInside]

section Delimited

variable [DecidableEq Symbol]

/-- Scan up to the first delimiter, or to the end when there is none. -/
def upTo (delimiter : Symbol) (contents : List Symbol) : List Symbol :=
  contents.takeWhile fun symbol => symbol != delimiter

@[simp]
theorem upTo_cons_self (delimiter : Symbol) (rest : List Symbol) :
    upTo delimiter (delimiter :: rest) = [] := by
  simp [upTo]

theorem upTo_cons_of_ne
    {delimiter head : Symbol} (different : head ≠ delimiter)
    (tail : List Symbol) :
    upTo delimiter (head :: tail) = head :: upTo delimiter tail := by
  simp [upTo, different]

/--
A scan returns exactly a leading part precisely when that part holds no
delimiter and the scan has to stop behind it.
-/
theorem upTo_append_eq_iff
    (delimiter : Symbol) (leading rest : List Symbol) :
    upTo delimiter (leading ++ rest) = leading ↔
      delimiter ∉ leading ∧
        (rest = [] ∨ rest.head? = some delimiter) := by
  induction leading with
  | nil =>
      cases rest with
      | nil => simp [upTo]
      | cons head tail =>
          by_cases equal : head = delimiter <;>
            simp [upTo, equal]
  | cons head tail induction =>
      by_cases equal : head = delimiter
      · subst head
        simp [upTo_cons_self]
      · rw [List.cons_append, upTo_cons_of_ne equal, List.cons.injEq,
          induction]
        simp [Ne.symm equal]

/-- Two delimited words that agree beyond the first delimiter are equal. -/
theorem eq_of_take_delimited_eq
    {delimiter : Symbol} {first second : List Symbol}
    (firstClean : delimiter ∉ first) (secondClean : delimiter ∉ second)
    {firstRest secondRest : List Symbol} {count : Nat}
    (beyond : first.length < count)
    (same :
      (first ++ delimiter :: firstRest).take count =
        (second ++ delimiter :: secondRest).take count) :
    first = second := by
  -- A scan of a part that holds the delimiter returns the word before it.
  have scanned :
      ∀ word rest : List Symbol,
        delimiter ∉ word →
          word.length < count →
            upTo delimiter ((word ++ delimiter :: rest).take count) =
              word := by
    intro word rest clean inside
    rcases Nat.exists_eq_add_of_lt inside with ⟨more, rfl⟩
    rw [List.take_append, List.take_of_length_le (by omega),
      show word.length + more + 1 - word.length = more + 1 by omega,
      List.take_succ_cons, upTo_append_eq_iff]
    exact ⟨clean, Or.inr rfl⟩
  have firstWord := scanned first firstRest firstClean beyond
  rcases Nat.lt_or_ge second.length count with inside | outside
  · rw [← firstWord, same]
    exact scanned second secondRest secondClean inside
  · -- The second word has no delimiter where the first has one.
    have member :
        delimiter ∈ (first ++ delimiter :: firstRest).take count := by
      rw [List.take_append]
      apply List.mem_append_right
      rcases Nat.exists_eq_add_of_lt beyond with ⟨more, rfl⟩
      rw [show first.length + more + 1 - first.length = more + 1 by omega,
        List.take_succ_cons]
      exact List.mem_cons_self
    rw [same, List.take_append_of_le_length outside] at member
    exact absurd (List.mem_of_mem_take member) secondClean

/--
A scan and the memory it scans agree with the same texts, as far as the texts
reach and when these hold no delimiter.
-/
theorem take_upTo_eq_iff
    {delimiter : Symbol} {text : List Symbol} (clean : delimiter ∉ text)
    {count : Nat} (inside : count ≤ text.length)
    (memory : List Symbol) :
    (upTo delimiter memory).take count = text.take count ↔
      memory.take count = text.take count := by
  induction memory generalizing text count with
  | nil => rfl
  | cons head tail induction =>
      cases count with
      | zero => simp
      | succ count =>
          cases text with
          | nil => simp at inside
          | cons first rest =>
              rw [List.mem_cons, not_or] at clean
              rw [List.length_cons, Nat.add_le_add_iff_right] at inside
              by_cases equal : head = delimiter
              · subst head
                simp [upTo_cons_self, clean.1]
              · rw [upTo_cons_of_ne equal, List.take_succ_cons,
                  List.take_succ_cons, List.take_succ_cons,
                  List.cons.injEq, List.cons.injEq,
                  induction clean.2 inside]

/-- A scan stops inside a block precisely when the delimiter is there. -/
theorem length_upTo_append_lt_iff
    (delimiter : Symbol) (block rest : List Symbol) :
    (upTo delimiter (block ++ rest)).length < block.length ↔
      delimiter ∈ block := by
  induction block with
  | nil => simp
  | cons head tail induction =>
      by_cases equal : head = delimiter
      · subst head
        simp [upTo_cons_self]
      · rw [List.cons_append, upTo_cons_of_ne equal, List.length_cons,
          List.length_cons, Nat.add_lt_add_iff_right, induction,
          List.mem_cons, or_iff_right (Ne.symm equal)]

end Delimited

/-! ## Text in buffers -/

/-- `std::string` values, buffers and file contents. -/
abbrev Bytes := List UInt8

/-- What holds of the bytes one by one holds of every byte. -/
theorem forall_byte
    {Holds : UInt8 → Prop}
    (all : ∀ value < 256, Holds (UInt8.ofNat value)) (byte : UInt8) :
    Holds byte := by
  have one := all byte.toNat byte.toNat_lt
  rwa [UInt8.ofNat_toNat] at one

/-- The bytes of a literal of the execution character set. -/
def ascii (text : String) : Bytes :=
  text.toList.map fun character => character.toNat.toUInt8

/-- `std::to_string` of an unsigned number. -/
def decimal (number : Nat) : Bytes :=
  (Nat.toDigits 10 number).map fun digit => digit.toNat.toUInt8

/-- `std::string(pointer)`: the bytes up to the first NUL. -/
def cString (memory : Bytes) : Bytes := upTo 0 memory

/--
`snprintf(buffer, size, "%s", text)` into a zero-filled buffer of `size`
bytes: at most `size - 1` bytes are written, the rest stays zero.
-/
def snprintfText (size : Nat) (text : Bytes) : Bytes :=
  text.take (size - 1) ++ List.replicate (size - min (size - 1) text.length) 0

@[simp]
theorem length_snprintfText (size : Nat) (text : Bytes) :
    (snprintfText size text).length = size := by
  rw [snprintfText, List.length_append, List.length_take,
    List.length_replicate]
  omega

/-- Text that fits its buffer and holds no NUL is read back whole. -/
theorem cString_snprintfText
    {size : Nat} {text : Bytes}
    (noNul : 0 ∉ text)
    (fits : text.length < size)
    (adjacent : Bytes) :
    cString (snprintfText size text ++ adjacent) = text := by
  have whole : text.take (size - 1) = text :=
    List.take_of_length_le (by omega)
  have padding : ∃ rest, size - min (size - 1) text.length = rest + 1 :=
    ⟨size - min (size - 1) text.length - 1, by omega⟩
  rcases padding with ⟨rest, padding⟩
  rw [cString, snprintfText, whole, padding, List.append_assoc,
    upTo_append_eq_iff]
  refine ⟨noNul, Or.inr ?_⟩
  simp [List.replicate_succ]

/-- The bytes of a decimal numeral are digits. -/
theorem mem_decimal
    {number : Nat} {byte : UInt8}
    (member : byte ∈ decimal number) :
    48 ≤ byte ∧ byte ≤ 57 := by
  rcases List.mem_map.mp member with ⟨digit, digitMember, rfl⟩
  have isDigit :=
    Nat.isDigit_of_mem_toDigits (by decide) (by decide) digitMember
  simp only [Char.isDigit, Bool.and_eq_true, decide_eq_true_eq] at isDigit
  have lower : 48 ≤ digit.toNat := isDigit.1
  have upper : digit.toNat ≤ 57 := isDigit.2
  constructor
  · rw [UInt8.le_iff_toNat_le]
    simp
    omega
  · rw [UInt8.le_iff_toNat_le]
    simp
    omega

theorem zero_notMem_decimal (number : Nat) : 0 ∉ decimal number := by
  intro member
  exact absurd (mem_decimal member).1 (by decide)

/-- The digits of a number, read back from the bytes of its numeral. -/
theorem map_ofNat_decimal (number : Nat) :
    (decimal number).map (fun byte => Char.ofNat byte.toNat) =
      Nat.toDigits 10 number := by
  rw [decimal, List.map_map]
  conv_rhs => rw [← List.map_id (Nat.toDigits 10 number)]
  apply List.map_congr_left
  intro digit member
  have isDigit :=
    Nat.isDigit_of_mem_toDigits (by decide) (by decide) member
  simp only [Char.isDigit, Bool.and_eq_true, decide_eq_true_eq] at isDigit
  have upper : digit.toNat ≤ 57 := isDigit.2
  have small : digit.toNat.toUInt8.toNat = digit.toNat :=
    Nat.mod_eq_of_lt (by omega)
  rw [Function.comp_apply, small, Char.ofNat_toNat, id]

/-- Different numbers have different numerals. -/
@[simp]
theorem decimal_inj {first second : Nat} :
    decimal first = decimal second ↔ first = second := by
  constructor
  · intro equal
    have digits : Nat.toDigits 10 first = Nat.toDigits 10 second := by
      rw [← map_ofNat_decimal, equal, map_ofNat_decimal]
    rw [← Nat.ofDigitChars_ten_toDigits (n := first), digits,
      Nat.ofDigitChars_ten_toDigits]
  · rintro rfl
    rfl

/-- A 64-bit number has at most twenty decimal digits. -/
theorem length_decimal_le (number : UInt64) :
    (decimal number.toNat).length ≤ 20 := by
  rw [decimal, List.length_map,
    Nat.length_toDigits_le_iff (by decide) (by decide)]
  exact lt_trans number.toNat_lt (by decide)

end ZnsBench.Core.ByteString

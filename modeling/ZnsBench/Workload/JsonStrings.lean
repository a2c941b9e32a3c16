import Mathlib.Data.List.Infix
import ZnsBench.Workload.Json

/-!
# Strings and their escapes

`encode_string` escapes a string character by character.  `parse_string` first
looks for the closing quote and then makes up to three replacements over the
whole string, one after the other.  A string comes back as it was unless the
second replacement takes the text of an escaped backslash and a `u` behind it
for an escape of its own, which it is only made to do when the string has a
control character without a short escape.
-/

namespace ZnsBench.Workload.Json

open ZnsBench.Core.ByteString

variable {Number : Type} {lua : Lua Number}

/-- The character as `encode_string` writes it. -/
def escaped (char : UInt8) : Bytes :=
  if isSpecial char then escapeChar char else [char]

theorem encodeString_eq (text : Bytes) :
    encodeString text = 34 :: (text.flatMap escaped ++ [34]) := rfl

/-- The control characters that are written with their number. -/
def isLong (char : UInt8) : Bool :=
  isSpecial char && (escapeCharMap.lookup char).isNone

/-- The characters that are written with a backslash and a letter. -/
def isShort (char : UInt8) : Bool :=
  (escapeCharMap.lookup char).isSome

/-- The value of a hexadecimal digit. -/
def hexDigitValue (digit : UInt8) : Nat :=
  if digit ≤ 57 then digit.toNat - 48
  else if digit ≤ 70 then digit.toNat - 55
  else digit.toNat - 87

/-- The number that hexadecimal digits spell. -/
def hexValue (digits : Bytes) : Nat :=
  digits.foldl (fun value digit => 16 * value + hexDigitValue digit) 0

/-- What the manual says of `tonumber` with base 16. -/
structure ReadsHex (lua : Lua Number) : Prop where
  digits :
    ∀ digits : Bytes, digits.length = 4 → digits.all isHex = true →
      lua.tonumberHex digits = some (hexValue digits : Int)
  empty : lua.tonumberHex [] = none

/-! ## Digits and ordinary bytes -/

/-- Four hexadecimal digits, capitals or not. -/
def FourDigits (digits : Bytes) : Prop :=
  digits.length = 4 ∧ digits.all isHex = true

/-- The four digits one by one. -/
theorem FourDigits.exists_eq
    {digits : Bytes} (four : FourDigits digits) :
    ∃ first second third fourth,
      digits = [first, second, third, fourth] ∧ isHex first = true ∧
        isHex second = true ∧ isHex third = true ∧ isHex fourth = true := by
  rcases four with ⟨length, all⟩
  rcases List.length_eq_four.mp length with
    ⟨first, second, third, fourth, rfl⟩
  simp only [List.all_cons, List.all_nil, Bool.and_true,
    Bool.and_eq_true] at all
  exact ⟨first, second, third, fourth, rfl, all⟩

/-- A byte that the loop and the replacements pass. -/
def Ordinary (byte : UInt8) : Prop :=
  ¬ byte < 32 ∧ byte ≠ 34 ∧ byte ≠ 92

theorem isHex_facts :
    ∀ digit : UInt8, isHex digit = true →
      ¬ digit < 32 ∧ digit ≠ 34 ∧ digit ≠ 92 :=
  forall_byte (by decide +kernel)

theorem FourDigits.ordinary
    {digits : Bytes} (four : FourDigits digits) :
    ∀ byte ∈ digits, Ordinary byte := by
  intro byte member
  exact isHex_facts byte (List.all_eq_true.mp four.2 byte member)

/-! ## The three kinds of characters -/

/-- A character that stands for itself. -/
structure IsPlain (char : UInt8) : Prop where
  escaped : escaped char = [char]
  isLong : isLong char = false
  isShort : isShort char = false
  visible : ¬ char < 32
  notQuote : char ≠ 34
  notBackslash : char ≠ 92

/-- A character that is written with a backslash and a letter. -/
structure IsShort (char letter : UInt8) : Prop where
  escaped : escaped char = [92, letter]
  isLong : Json.isLong char = false
  isShort : Json.isShort char = true
  visible : ¬ letter < 32
  isEscape : isEscape letter = true
  notU : letter ≠ 117
  backslash : letter = 92 ↔ char = 92
  replaced : replaceEscape [92, letter] = [char]

/-- A control character that is written with its number. -/
structure IsLong (char high low : UInt8) : Prop where
  escaped : escaped char = [92, 117, 48, 48, high, low]
  isLong : Json.isLong char = true
  isShort : Json.isShort char = false
  notBackslash : char ≠ 92
  small : char.toNat ≤ 0x7f
  highHex : isHex high = true
  lowHex : isHex low = true
  value : hexValue [48, 48, high, low] = char.toNat

theorem isPlain_facts :
    ∀ char : UInt8, isSpecial char = false →
      escaped char = [char] ∧ isLong char = false ∧ isShort char = false ∧
        ¬ char < 32 ∧ char ≠ 34 ∧ char ≠ 92 :=
  forall_byte (by decide +kernel)

theorem isShort_facts :
    ∀ char : UInt8, isShort char = true →
      escaped char = [92, (escapeCharMap.lookup char).getD 0] ∧
        isLong char = false ∧
        ¬ (escapeCharMap.lookup char).getD 0 < 32 ∧
        isEscape ((escapeCharMap.lookup char).getD 0) = true ∧
        (escapeCharMap.lookup char).getD 0 ≠ 117 ∧
        ((escapeCharMap.lookup char).getD 0 = 92 ↔ char = 92) ∧
        replaceEscape [92, (escapeCharMap.lookup char).getD 0] = [char] :=
  forall_byte (by decide +kernel)

theorem isLong_facts :
    ∀ char : UInt8, isLong char = true →
      escaped char =
          [92, 117, 48, 48, hexDigit (char / 16), hexDigit (char % 16)] ∧
        isShort char = false ∧ char ≠ 92 ∧ char.toNat ≤ 0x7f ∧
        isHex (hexDigit (char / 16)) = true ∧
        isHex (hexDigit (char % 16)) = true ∧
        hexValue
            [48, 48, hexDigit (char / 16), hexDigit (char % 16)] =
          char.toNat :=
  forall_byte (by decide +kernel)

theorem char_cases (char : UInt8) :
    IsPlain char ∨ (∃ letter, IsShort char letter) ∨
      ∃ high low, IsLong char high low := by
  cases special : isSpecial char with
  | false =>
      rcases isPlain_facts char special with
        ⟨escaped, long, short, visible, quote, backslash⟩
      exact Or.inl ⟨escaped, long, short, visible, quote, backslash⟩
  | true =>
      cases short : isShort char with
      | true =>
          rcases isShort_facts char short with
            ⟨escaped, long, visible, escape, notU, backslash, replaced⟩
          exact Or.inr (Or.inl
            ⟨_, escaped, long, short, visible, escape, notU, backslash,
              replaced⟩)
      | false =>
          have long : isLong char = true := by
            rw [isLong, special, Bool.true_and]
            exact Option.isNone_iff_eq_none.mpr
              (Option.not_isSome_iff_eq_none.mp
                (Bool.eq_false_iff.mp short))
          rcases isLong_facts char long with
            ⟨escaped, short, backslash, small, high, low, value⟩
          exact Or.inr (Or.inr
            ⟨_, _, escaped, long, short, backslash, small, high, low,
              value⟩)

theorem IsLong.four
    {char high low : UInt8} (long : IsLong char high low) :
    FourDigits [48, 48, high, low] := by
  have zero : isHex 48 = true := by decide
  refine ⟨rfl, ?_⟩
  simp only [List.all_cons, zero, long.highHex, long.lowHex, List.all_nil,
    Bool.and_self]

/-! ## Finding the closing quote -/

variable {str opening : Bytes}

/-- Ordinary characters are passed. -/
theorem scan_ordinary
    {char : UInt8} (visible : ¬ char < 32) (notQuote : char ≠ 34)
    (escapes : Escapes) (rest : Bytes) :
    scan str opening false escapes (char :: rest) =
      (scan str opening (char == 92) escapes rest).map
        fun found => (found.1, char :: found.2.1, found.2.2) := by
  rw [scan]
  simp only [if_neg visible, Bool.false_eq_true, if_false, if_neg notQuote]

theorem scan_escape
    {letter : UInt8} (visible : ¬ letter < 32) (notU : letter ≠ 117)
    (known : isEscape letter = true) (escapes : Escapes) (rest : Bytes) :
    scan str opening true escapes (letter :: rest) =
      (scan str opening false { escapes with escape := true } rest).map
        fun found => (found.1, letter :: found.2.1, found.2.2) := by
  rw [scan]
  simp only [if_neg visible, if_true, if_neg notU, known, Bool.not_true,
    Bool.false_eq_true, if_false]

/-- What the loop returns that has passed a text before. -/
def passing (text : Bytes)
    (result : Except Failure (Escapes × Bytes × Bytes)) :
    Except Failure (Escapes × Bytes × Bytes) :=
  result.map fun found => (found.1, text ++ found.2.1, found.2.2)

@[simp]
theorem passing_nil
    (result : Except Failure (Escapes × Bytes × Bytes)) :
    passing [] result = result := by
  cases result with
  | error failure => rfl
  | ok found => rfl

@[simp]
theorem passing_append
    (first second : Bytes)
    (result : Except Failure (Escapes × Bytes × Bytes)) :
    passing first (passing second result) =
      passing (first ++ second) result := by
  cases result with
  | error failure => rfl
  | ok found =>
      simp only [passing, Except.map, List.append_assoc]

/-- Ordinary bytes are passed, whatever follows them. -/
theorem scan_ordinaries
    {text : Bytes} (ordinary : ∀ byte ∈ text, Ordinary byte)
    (escapes : Escapes) (rest : Bytes) :
    scan str opening false escapes (text ++ rest) =
      passing text (scan str opening false escapes rest) := by
  induction text with
  | nil => rw [List.nil_append, passing_nil]
  | cons byte text induction =>
      rcases ordinary byte List.mem_cons_self with
        ⟨visible, notQuote, notBackslash⟩
      have later := induction fun other member =>
        ordinary other (List.mem_cons_of_mem byte member)
      have split : byte :: text = [byte] ++ text := rfl
      rw [List.cons_append, scan_ordinary visible notQuote,
        beq_eq_false_iff_ne.mpr notBackslash, later, split,
        ← passing_append]
      rfl

/-- The flag that an escape sets. -/
def Escapes.noting (escapes : Escapes) (isHigh : Bool) : Escapes :=
  if isHigh then { escapes with surrogate := true }
  else { escapes with unicode := true }

/-- The loop behind `\u`. -/
theorem scan_u
    {rest : Bytes} (hex : findsHex (rest.take 5) = true)
    (escapes : Escapes) :
    scan str opening true escapes (117 :: rest) =
      passing [117]
        (scan str opening false
          (escapes.noting (findsSurrogate (rest.take 5))) rest) := by
  rw [scan]
  simp only [hex, Bool.not_true, Bool.false_eq_true, if_false, if_true]
  cases findsSurrogate (rest.take 5) with
  | true => rfl
  | false => rfl

theorem scan_noting
    {digits : Bytes} (four : FourDigits digits) (escapes : Escapes)
    (rest : Bytes) :
    scan str opening true escapes (117 :: (digits ++ rest)) =
      passing [117]
        (scan str opening false (escapes.noting (findsSurrogate digits))
          (digits ++ rest)) := by
  rcases four.exists_eq with
    ⟨first, second, third, fourth, rfl, one, two, three, four⟩
  have hex :
      findsHex (([first, second, third, fourth] ++ rest).take 5) = true := by
    simp only [List.cons_append, List.nil_append, List.take_succ_cons,
      findsHex, one, two, three, four, Bool.and_true, Bool.true_or]
  exact scan_u hex escapes

/-- An escape is passed and noted. -/
theorem scan_unit
    {digits : Bytes} (four : FourDigits digits) (escapes : Escapes)
    (rest : Bytes) :
    scan str opening false escapes (92 :: 117 :: digits ++ rest) =
      passing (92 :: 117 :: digits)
        (scan str opening false (escapes.noting (findsSurrogate digits))
          rest) := by
  have split : 92 :: 117 :: digits = [92] ++ ([117] ++ digits) := rfl
  rw [List.cons_append, List.cons_append,
    scan_ordinary (by decide) (by decide), beq_self_eq_true,
    scan_noting four, scan_ordinaries four.ordinary, split,
    ← passing_append, ← passing_append]
  rfl

/-- The flags that a string sets. -/
def Escapes.joined (escapes : Escapes) (text : Bytes) : Escapes where
  unicode := escapes.unicode || text.any isLong
  surrogate := escapes.surrogate
  escape := escapes.escape || text.any isShort

/-- The loop goes over an escaped string to the quote behind it. -/
theorem scan_escaped
    (text : Bytes) (escapes : Escapes) (rest : Bytes) :
    scan str opening false escapes
        (text.flatMap escaped ++ 34 :: rest) =
      .ok (escapes.joined text, text.flatMap escaped, rest) := by
  induction text generalizing escapes with
  | nil =>
      simp only [List.flatMap_nil, List.nil_append, Escapes.joined,
        List.any_nil, Bool.or_false]
      rw [scan]
      rfl
  | cons char text induction =>
      rw [List.flatMap_cons, List.append_assoc]
      rcases char_cases char with
        plain | ⟨letter, short⟩ | ⟨high, low, long⟩
      · have ordinary : ∀ byte ∈ [char], Ordinary byte := by
          intro byte member
          rw [List.mem_singleton.mp member]
          exact ⟨plain.visible, plain.notQuote, plain.notBackslash⟩
        rw [plain.escaped, scan_ordinaries ordinary, induction]
        simp only [passing, Except.map, Escapes.joined, List.any_cons,
          plain.isLong, plain.isShort, Bool.false_or]
      · rw [short.escaped]
        simp only [List.cons_append, List.nil_append]
        rw [scan_ordinary (by decide) (by decide)]
        simp only [beq_self_eq_true]
        rw [scan_escape short.visible short.notU short.isEscape, induction]
        simp only [Except.map, Escapes.joined, List.any_cons, short.isLong,
          short.isShort, Bool.false_or, Bool.true_or, Bool.or_true]
      · have single : findsSurrogate [48, 48, high, low] = false := rfl
        rw [long.escaped, scan_unit long.four, single, induction]
        simp only [passing, Except.map, Escapes.joined, Escapes.noting,
          List.any_cons, long.isLong, long.isShort, Bool.false_eq_true,
          if_false, Bool.false_or, Bool.true_or, Bool.or_true]

/-! ## The replacements -/

section Replacements

variable {width : Nat} {accepts : Bytes → Bool}
  {replace : Bytes → Except Failure Bytes}

/-- A character at which nothing is found is kept. -/
theorem gsub_passed
    {char : UInt8} {rest : Bytes}
    (refused : ¬ (((char :: rest).take width).length = width ∧
      accepts ((char :: rest).take width) = true)) :
    gsub width accepts replace 0 (char :: rest) =
      (gsub width accepts replace 0 rest).map (char :: ·) := by
  rw [← beq_iff_eq, ← Bool.and_eq_true] at refused
  rw [gsub]
  simp only [refused, Bool.false_eq_true, if_false]

theorem gsub_kept
    {char : UInt8} {rest : Bytes}
    (refused : accepts ((char :: rest).take width) = false) :
    gsub width accepts replace 0 (char :: rest) =
      (gsub width accepts replace 0 rest).map (char :: ·) :=
  gsub_passed fun found => Bool.noConfusion (refused.symm.trans found.2)

/-- Bytes at which nothing is found are kept, whatever follows them. -/
theorem gsub_kept_all
    {text : Bytes}
    (refused : ∀ byte ∈ text, ∀ more, accepts (byte :: more) = false)
    (rest : Bytes) :
    gsub (width + 1) accepts replace 0 (text ++ rest) =
      (gsub (width + 1) accepts replace 0 rest).map (text ++ ·) := by
  induction text with
  | nil =>
      rw [List.nil_append]
      cases gsub (width + 1) accepts replace 0 rest with
      | error failure => rfl
      | ok later => rfl
  | cons byte text induction =>
      have later := induction fun other member =>
        refused other (List.mem_cons_of_mem byte member)
      rw [List.cons_append, gsub_kept, later]
      · cases gsub (width + 1) accepts replace 0 rest with
        | error failure => rfl
        | ok later => rfl
      · exact refused byte List.mem_cons_self _

/-- A match is replaced and the rest is gone on with. -/
theorem gsub_found
    {found rest : Bytes} (whole : found.length = width)
    (some : found ≠ []) (accepted : accepts found = true) :
    gsub width accepts replace 0 (found ++ rest) =
      replace found >>= fun replaced =>
        (gsub width accepts replace 0 rest).map (replaced ++ ·) := by
  have passed (text : Bytes) :
      gsub width accepts replace text.length (text ++ rest) =
        gsub width accepts replace 0 rest := by
    induction text with
    | nil => rfl
    | cons char text induction =>
        rw [List.length_cons, List.cons_append, gsub]
        exact induction
  cases found with
  | nil => exact absurd rfl some
  | cons char text =>
      have taken : (char :: (text ++ rest)).take width = char :: text := by
        rw [← whole, ← List.cons_append, List.take_left]
      have left : width - 1 = text.length := by
        rw [← whole, List.length_cons, Nat.add_sub_cancel]
      rw [List.cons_append, gsub]
      simp only [taken, whole, beq_self_eq_true, accepted, Bool.and_self,
        if_true, left, passed]
      refine bind_congr fun replaced => ?_
      cases gsub width accepts replace 0 rest with
      | ok later => rfl
      | error failure => rfl

theorem gsub_replaced
    {found rest replaced : Bytes} (whole : found.length = width)
    (some : found ≠ []) (accepted : accepts found = true)
    (done : replace found = .ok replaced) :
    gsub width accepts replace 0 (found ++ rest) =
      (gsub width accepts replace 0 rest).map (replaced ++ ·) := by
  rw [gsub_found whole some accepted, done]
  rfl

end Replacements

/-- The string with its long escapes replaced. -/
def shortened (char : UInt8) : Bytes :=
  if isLong char then [char] else escaped char

theorem codepointToUtf8_of_le {n : Nat} (small : n ≤ 0x7f) :
    codepointToUtf8 n = .ok [UInt8.ofNat n] := by
  have natural : ¬ (n : Int) < 0 := by omega
  rw [codepointToUtf8, if_neg natural]
  simp only [Int.toNat_natCast, if_pos small]

/-- The texts that `parse_unicode_escape` takes for numbers. -/
theorem slice_pair
    {high low : Bytes} (fourHigh : high.length = 4)
    (fourLow : low.length = 4) :
    slice (92 :: 117 :: high ++ 92 :: 117 :: low) 2 4 = high ∧
      slice (92 :: 117 :: high ++ 92 :: 117 :: low) 8 4 = low := by
  rcases List.length_eq_four.mp fourHigh with ⟨_, _, _, _, rfl⟩
  rcases List.length_eq_four.mp fourLow with ⟨_, _, _, _, rfl⟩
  exact ⟨rfl, rfl⟩

theorem slice_unit {digits : Bytes} (four : digits.length = 4) :
    slice (92 :: 117 :: digits) 2 4 = digits ∧
      slice (92 :: 117 :: digits) 8 4 = [] := by
  rcases List.length_eq_four.mp four with ⟨_, _, _, _, rfl⟩
  exact ⟨rfl, rfl⟩

/-- A single escape is read as its four digits. -/
theorem parseUnicodeEscape_single
    (reads : ReadsHex lua) {digits : Bytes} (four : FourDigits digits) :
    parseUnicodeEscape lua (92 :: 117 :: digits) =
      codepointToUtf8 (hexValue digits : Int) := by
  have number := reads.digits digits four.1 four.2
  rcases slice_unit four.1 with ⟨whole, nothing⟩
  simp only [parseUnicodeEscape, whole, nothing, number, reads.empty]

theorem parseUnicodeEscape_long
    (reads : ReadsHex lua) {char high low : UInt8}
    (long : IsLong char high low) :
    parseUnicodeEscape lua [92, 117, 48, 48, high, low] = .ok [char] := by
  rw [parseUnicodeEscape_single reads long.four, long.value,
    codepointToUtf8_of_le long.small, UInt8.ofNat_toNat]

/-- No backslash has a `u` behind it. -/
def Unmistakable (text : Bytes) : Prop := ¬ [92, 117] <:+: text

theorem Unmistakable.tail
    {char : UInt8} {text : Bytes} (clear : Unmistakable (char :: text)) :
    Unmistakable text := fun found =>
  clear (found.trans (List.suffix_cons char text).isInfix)

theorem isUnicodeEscape_of_ne
    {char : UInt8} (notBackslash : char ≠ 92) (rest : Bytes) :
    isUnicodeEscape (char :: rest) = false := by
  rw [isUnicodeEscape.eq_def]
  split
  · rename_i same
    cases same
    exact absurd rfl notBackslash
  · rfl

theorem isUnicodeEscape_of_letter
    {letter : UInt8} (notU : letter ≠ 117) (rest : Bytes) :
    isUnicodeEscape (92 :: letter :: rest) = false := by
  rw [isUnicodeEscape.eq_def]
  split
  · rename_i same
    cases same
    exact absurd rfl notU
  · rfl

/-- An escaped string begins with a `u` only if the string does. -/
theorem head?_flatMap_escaped
    {text : Bytes}
    (first : (text.flatMap escaped).head? = some 117) :
    text.head? = some 117 := by
  cases text with
  | nil => cases first
  | cons char text =>
      rw [List.flatMap_cons] at first
      rcases char_cases char with
        plain | ⟨letter, short⟩ | ⟨high, low, long⟩
      · rw [plain.escaped] at first
        exact first
      · rw [short.escaped] at first
        cases first
      · rw [long.escaped] at first
        cases first

theorem isUnicodeEscape_take
    {rest : Bytes} (notU : rest.head? ≠ some 117) :
    isUnicodeEscape ((92 :: rest).take 6) = false := by
  cases rest with
  | nil => rfl
  | cons letter rest =>
      simp only [List.take_succ_cons]
      exact isUnicodeEscape_of_letter (fun same => notU (by rw [same]; rfl)) _

/-- The replacement of the long escapes takes nothing else for one. -/
theorem gsub_unicode_escaped
    (reads : ReadsHex lua) {text : Bytes} (clear : Unmistakable text) :
    gsub 6 isUnicodeEscape (parseUnicodeEscape lua) 0
        (text.flatMap escaped) =
      .ok (text.flatMap shortened) := by
  induction text with
  | nil => rfl
  | cons char text induction =>
      have later := induction clear.tail
      rw [List.flatMap_cons, List.flatMap_cons]
      rcases char_cases char with
        plain | ⟨letter, short⟩ | ⟨high, low, long⟩
      · have same : shortened char = [char] := by
          rw [shortened, plain.isLong, plain.escaped]
          rfl
        rw [plain.escaped, same, List.singleton_append, gsub_kept, later]
        · rfl
        · exact isUnicodeEscape_of_ne plain.notBackslash _
      · have same : shortened char = [92, letter] := by
          rw [shortened, short.isLong, short.escaped]
          rfl
        have second :
            isUnicodeEscape
              ((letter :: text.flatMap escaped).take 6) = false := by
          by_cases backslash : letter = 92
          · rw [backslash]
            refine isUnicodeEscape_take fun first => ?_
            have next := head?_flatMap_escaped first
            have char92 := short.backslash.mp backslash
            cases text with
            | nil => cases next
            | cons follower text =>
                cases next
                rw [char92] at clear
                exact clear (List.prefix_append [92, 117] text).isInfix
          · exact isUnicodeEscape_of_ne backslash _
        rw [short.escaped, same]
        simp only [List.cons_append, List.nil_append]
        rw [gsub_kept, gsub_kept second, later]
        · rfl
        · exact isUnicodeEscape_of_letter short.notU _
      · have same : shortened char = [char] := by
          rw [shortened, long.isLong]
          rfl
        have found :
            gsub 6 isUnicodeEscape (parseUnicodeEscape lua) 0
                ([92, 117, 48, 48, high, low] ++ text.flatMap escaped) =
              _ :=
          gsub_replaced rfl (List.cons_ne_nil _ _) rfl
            (parseUnicodeEscape_long reads long)
        rw [long.escaped, same, found, later]
        rfl

theorem isBackslash_of_ne
    {char : UInt8} (notBackslash : char ≠ 92) (rest : Bytes) :
    isBackslash (char :: rest) = false := by
  rw [isBackslash.eq_def]
  split
  · rename_i same
    cases same
    exact absurd rfl notBackslash
  · rfl

/-- The replacement of the short escapes. -/
theorem gsub_escape_shortened (text : Bytes) :
    gsub 2 isBackslash (fun found => pure (replaceEscape found)) 0
        (text.flatMap shortened) =
      .ok text := by
  induction text with
  | nil => rfl
  | cons char text induction =>
      rw [List.flatMap_cons]
      rcases char_cases char with
        plain | ⟨letter, short⟩ | ⟨high, low, long⟩
      · have same : shortened char = [char] := by
          rw [shortened, plain.isLong, plain.escaped]
          rfl
        rw [same, List.singleton_append, gsub_kept, induction]
        · rfl
        · exact isBackslash_of_ne plain.notBackslash _
      · have same : shortened char = [92, letter] := by
          rw [shortened, short.isLong, short.escaped]
          rfl
        have found :
            gsub 2 isBackslash (fun found => pure (replaceEscape found)) 0
                ([92, letter] ++ text.flatMap shortened) = _ :=
          gsub_replaced rfl (List.cons_ne_nil _ _) rfl rfl
        rw [same, found, short.replaced, induction]
        rfl
      · have same : shortened char = [char] := by
          rw [shortened, long.isLong]
          rfl
        rw [same, List.singleton_append, gsub_kept, induction]
        · rfl
        · exact isBackslash_of_ne long.notBackslash _

theorem flatMap_shortened_of_none
    {text : Bytes} (none : text.any isLong = false) :
    text.flatMap shortened = text.flatMap escaped := by
  refine List.flatMap_congr fun char member => ?_
  rw [shortened, List.any_eq_false.mp none char member |> Bool.eq_false_iff.mpr]
  rfl

theorem flatMap_shortened_of_plain
    {text : Bytes} (none : text.any isShort = false) :
    text.flatMap shortened = text := by
  induction text with
  | nil => rfl
  | cons char text induction =>
      rw [List.any_cons, Bool.or_eq_false_iff] at none
      rw [List.flatMap_cons, induction none.2]
      rcases char_cases char with
        plain | ⟨letter, short⟩ | ⟨high, low, long⟩
      · rw [shortened, plain.isLong, plain.escaped]
        rfl
      · exact Bool.noConfusion (none.1.symm.trans short.isShort)
      · rw [shortened, long.isLong]
        rfl

/-- Strings that come back as they were. -/
def Faithful (text : Bytes) : Prop :=
  text.any isLong = true → Unmistakable text

theorem unescape_escaped
    (reads : ReadsHex lua) {text : Bytes} (faithful : Faithful text) :
    unescape lua ((⟨false, false, false⟩ : Escapes).joined text)
        (text.flatMap escaped) =
      .ok text := by
  have last :
      (if text.any isShort then
          gsub 2 isBackslash (fun found => pure (replaceEscape found)) 0
            (text.flatMap shortened)
        else
          pure (text.flatMap shortened)) =
        .ok text := by
    split
    · exact gsub_escape_shortened text
    · rename_i none
      rw [flatMap_shortened_of_plain (Bool.eq_false_iff.mpr none)]
      rfl
  simp only [unescape, Escapes.joined, Bool.false_or, Bool.false_eq_true,
    if_false, pure_bind]
  cases long : text.any isLong with
  | true =>
      simp only [if_true, gsub_unicode_escaped reads (faithful long)]
      exact last
  | false =>
      rw [flatMap_shortened_of_none long] at last
      simp only [Bool.false_eq_true, if_false]
      exact last

/-- A faithful string is read back, whatever follows it. -/
theorem parseString_encodeString
    (reads : ReadsHex lua) {text : Bytes} (faithful : Faithful text)
    (str rest : Bytes) :
    parseString lua str (encodeString text ++ rest) = .ok (text, rest) := by
  have written :
      (encodeString text ++ rest).tail =
        text.flatMap escaped ++ 34 :: rest := by
    rw [encodeString_eq, List.cons_append, List.tail_cons,
      List.append_assoc, List.singleton_append]
  rw [parseString, written, scan_escaped]
  show (unescape lua _ _ >>= _) = _
  rw [unescape_escaped reads faithful]
  rfl

end ZnsBench.Workload.Json

import ZnsBench.Workload.JsonRoundTrip

/-!
# Unicode in strings

A character of a string can be spelled in several ways: by the bytes of its
UTF-8, by `\u` and four hexadecimal digits, or by two of these for a surrogate
pair.  A string spelled in any mixture of these, without short escapes, is read
as the UTF-8 of its characters.  The replacement of the pairs comes first and
leaves the other escapes alone, and no byte it writes is taken for a backslash
by the second one.  The third one, of the short escapes, is not made there: it
would take a backslash that the second one writes for the beginning of one.
-/

namespace ZnsBench.Workload.Json

open ZnsBench.Core.ByteString ZnsBench.Core.Fallible

variable {Number : Type} {lua : Lua Number}

/-- A character and how it is spelled. -/
inductive Piece where
  | raw (char : Char)
  | escape (char : Char) (digits : Bytes)
  | pair (char : Char) (high low : Bytes)

namespace Piece

/-- The character that is spelled. -/
def char : Piece → Char
  | raw char => char
  | escape char _ => char
  | pair char _ _ => char

/-- The spelling. -/
def bytes : Piece → Bytes
  | raw char => String.utf8EncodeChar char
  | escape _ digits => 92 :: 117 :: digits
  | pair _ high low => 92 :: 117 :: high ++ 92 :: 117 :: low

/-- The bytes that the character stands for. -/
def utf8 (piece : Piece) : Bytes := String.utf8EncodeChar piece.char

/-- The spelling once the surrogate pairs are replaced. -/
def paired : Piece → Bytes
  | pair char _ _ => String.utf8EncodeChar char
  | piece => piece.bytes

/-- Spelled by its bytes. -/
def isRaw : Piece → Bool
  | raw _ => true
  | _ => false

/-- Spelled by a surrogate pair. -/
def isPair : Piece → Bool
  | pair _ _ _ => true
  | _ => false

/-- The spelling is one of the character. -/
def Valid : Piece → Prop
  | raw char => 32 ≤ char.toNat ∧ char.toNat ≠ 34 ∧ char.toNat ≠ 92
  | escape char digits => FourDigits digits ∧ hexValue digits = char.toNat
  | pair char high low =>
      FourDigits high ∧ FourDigits low ∧
        0xd800 ≤ hexValue high ∧ hexValue high ≤ 0xdbff ∧
        0xdc00 ≤ hexValue low ∧ hexValue low ≤ 0xdfff ∧
        char.toNat =
          (hexValue high - 0xd800) * 0x400 + (hexValue low - 0xdc00) +
            0x10000

end Piece

/-! ## Code points -/

/-- The characters are the code points but the surrogates. -/
theorem char_range (char : Char) :
    char.toNat < 0xd800 ∨ 0xdfff < char.toNat ∧ char.toNat < 0x110000 :=
  char.valid

/-- The script's UTF-8 is the UTF-8 of the character. -/
@[simp]
theorem codepointToUtf8_char (char : Char) :
    codepointToUtf8 (char.toNat : Int) =
      .ok (String.utf8EncodeChar char) := by
  have natural : ¬ (char.toNat : Int) < 0 := by omega
  have range := char_range char
  have largest : char.toNat ≤ 0x10ffff := by omega
  have same : char.val.toNat = char.toNat := rfl
  rw [codepointToUtf8, if_neg natural, String.utf8EncodeChar]
  simp only [Int.toNat_natCast, same]
  split_ifs with one two three
  · rfl
  · have lead : char.toNat / 64 % 0x20 = char.toNat / 64 := by omega
    rw [lead]
  · have lead : char.toNat / 4096 % 0x10 = char.toNat / 4096 := by omega
    have middle : char.toNat % 4096 / 64 = char.toNat / 64 % 0x40 := by
      omega
    rw [lead, middle]
  · have lead : char.toNat / 262144 % 0x08 = char.toNat / 262144 := by omega
    have second :
        char.toNat % 262144 / 4096 = char.toNat / 4096 % 0x40 := by
      omega
    have third : char.toNat % 4096 / 64 = char.toNat / 64 % 0x40 := by
      omega
    rw [lead, second, third]

theorem ordinary_ofNat
    {value : Nat} (small : value < 256) (visible : 32 ≤ value)
    (notQuote : value ≠ 34) (notBackslash : value ≠ 92) :
    Ordinary (UInt8.ofNat value) := by
  have back : (UInt8.ofNat value).toNat = value := by
    rw [UInt8.toNat_ofNat']
    exact Nat.mod_eq_of_lt small
  refine ⟨?_, ?_, ?_⟩
  · rw [UInt8.lt_iff_toNat_lt, back]
    change ¬ value < 32
    omega
  · intro same
    rw [same] at back
    exact notQuote back.symm
  · intro same
    rw [same] at back
    exact notBackslash back.symm

/-- Visible characters but the quote and the backslash have such bytes. -/
theorem ordinary_utf8
    {char : Char} (visible : 32 ≤ char.toNat) (notQuote : char.toNat ≠ 34)
    (notBackslash : char.toNat ≠ 92) :
    ∀ byte ∈ String.utf8EncodeChar char, Ordinary byte := by
  have same : char.val.toNat = char.toNat := rfl
  rw [String.utf8EncodeChar]
  simp only [same]
  split_ifs with one two three
  · intro byte member
    rw [List.mem_singleton.mp member]
    exact ordinary_ofNat (by omega) visible notQuote notBackslash
  all_goals
    intro byte member
    simp only [List.mem_cons, List.not_mem_nil, or_false] at member
  · rcases member with rfl | rfl
    all_goals
      exact ordinary_ofNat (by omega) (by omega) (by omega) (by omega)
  · rcases member with rfl | rfl | rfl
    all_goals
      exact ordinary_ofNat (by omega) (by omega) (by omega) (by omega)
  · rcases member with rfl | rfl | rfl | rfl
    all_goals
      exact ordinary_ofNat (by omega) (by omega) (by omega) (by omega)

theorem hexDigit_facts :
    ∀ digit : UInt8, isHex digit = true →
      hexDigitValue digit < 16 ∧
        ((digit == 68 || digit == 100) = true ↔
          hexDigitValue digit = 13) ∧
        ([56, 57, 97, 65, 98, 66].contains digit = true ↔
          8 ≤ hexDigitValue digit ∧ hexDigitValue digit ≤ 11) :=
  forall_byte (by decide +kernel)

/-- The first two digits tell the high surrogates. -/
theorem isHighSurrogate_iff
    {first second third fourth : UInt8} (one : isHex first = true)
    (two : isHex second = true) (three : isHex third = true)
    (four : isHex fourth = true) :
    isHighSurrogate first second = true ↔
      0xd800 ≤ hexValue [first, second, third, fourth] ∧
        hexValue [first, second, third, fourth] ≤ 0xdbff := by
  rcases hexDigit_facts first one with ⟨_, isD, _⟩
  rcases hexDigit_facts second two with ⟨_, _, isHigh⟩
  have third16 := (hexDigit_facts third three).1
  have fourth16 := (hexDigit_facts fourth four).1
  rw [isHighSurrogate, Bool.and_eq_true, isD, isHigh]
  simp only [hexValue, List.foldl_cons, List.foldl_nil]
  omega

/-! ## Finding the closing quote -/

variable {str opening : Bytes}

/-- The flags that a spelled string sets. -/
def Escapes.spelled (escapes : Escapes) (pieces : List Piece) : Escapes where
  unicode := escapes.unicode || pieces.any fun piece => !piece.isRaw
  surrogate := escapes.surrogate || pieces.any Piece.isPair
  escape := escapes.escape

theorem findsSurrogate_of_escape
    {char : Char} {digits : Bytes} (valid : (Piece.escape char digits).Valid) :
    findsSurrogate digits = false := by
  rcases valid with ⟨four, value⟩
  have range := char_range char
  rcases four.exists_eq with
    ⟨first, second, third, fourth, rfl, one, two, three, four⟩
  refine Bool.eq_false_iff.mpr fun high => ?_
  have surrogate := (isHighSurrogate_iff one two three four).mp high
  omega

theorem findsSurrogate_of_pair
    {char : Char} {high low : Bytes}
    (valid : (Piece.pair char high low).Valid) :
    findsSurrogate high = true ∧ findsSurrogate low = false := by
  rcases valid with ⟨fourHigh, fourLow, above, below, lowAbove, _, _⟩
  constructor
  · rcases fourHigh.exists_eq with
      ⟨first, second, third, fourth, rfl, one, two, three, four⟩
    exact (isHighSurrogate_iff one two three four).mpr ⟨above, below⟩
  · rcases fourLow.exists_eq with
      ⟨first, second, third, fourth, rfl, one, two, three, four⟩
    refine Bool.eq_false_iff.mpr fun isHigh => ?_
    have surrogate := (isHighSurrogate_iff one two three four).mp isHigh
    omega

/-- The loop goes over a spelled string to the quote behind it. -/
theorem scan_pieces
    {pieces : List Piece} (valid : ∀ piece ∈ pieces, piece.Valid)
    (escapes : Escapes) (rest : Bytes) :
    scan str opening false escapes
        (pieces.flatMap Piece.bytes ++ 34 :: rest) =
      .ok (escapes.spelled pieces, pieces.flatMap Piece.bytes, rest) := by
  induction pieces generalizing escapes with
  | nil =>
      simp only [List.flatMap_nil, List.nil_append, Escapes.spelled,
        List.any_nil, Bool.or_false]
      rw [scan]
      rfl
  | cons piece pieces induction =>
      have later (escapes : Escapes) :=
        induction (fun other member =>
          valid other (List.mem_cons_of_mem piece member)) escapes
      have first := valid piece List.mem_cons_self
      rw [List.flatMap_cons, List.append_assoc]
      cases piece with
      | raw char =>
          rw [Piece.bytes,
            scan_ordinaries (ordinary_utf8 first.1 first.2.1 first.2.2),
            later]
          rfl
      | escape char digits =>
          rw [Piece.bytes, scan_unit first.1,
            findsSurrogate_of_escape first, later]
          simp only [passing, Except.map, Escapes.spelled, Escapes.noting,
            List.any_cons, Piece.isRaw, Piece.isPair, Bool.false_eq_true,
            if_false, Bool.not_false, Bool.true_or, Bool.or_true,
            Bool.false_or]
      | pair char high low =>
          rcases findsSurrogate_of_pair first with ⟨isHigh, isLow⟩
          rw [Piece.bytes, List.append_assoc, scan_unit first.1,
            scan_unit first.2.1, isHigh, isLow, later, passing_append]
          simp only [passing, Except.map, Escapes.spelled, Escapes.noting,
            List.any_cons, Piece.isRaw, Piece.isPair, Bool.false_eq_true,
            if_false, if_true, Bool.not_false, Bool.true_or, Bool.or_true]

/-! ## The replacements -/

theorem isSurrogatePair_of_ne
    {byte : UInt8} (notBackslash : byte ≠ 92) (rest : Bytes) :
    isSurrogatePair (byte :: rest) = false := by
  rw [isSurrogatePair.eq_def]
  split
  · rename_i same
    cases same
    exact absurd rfl notBackslash
  · rfl

theorem isSurrogatePair_of_single
    {first second : UInt8} (single : isHighSurrogate first second = false)
    (rest : Bytes) :
    isSurrogatePair (92 :: 117 :: first :: second :: rest) = false := by
  rw [isSurrogatePair.eq_def]
  split
  · rename_i same
    cases same
    exact single
  · rfl

/-- The pairs are looked for and an escape that is none is kept. -/
theorem gsub_pairs_escape
    {replace : Bytes → Except Failure Bytes} {digits : Bytes}
    (four : FourDigits digits) (single : findsSurrogate digits = false)
    (rest : Bytes) :
    gsub 12 isSurrogatePair replace 0 (92 :: 117 :: digits ++ rest) =
      (gsub 12 isSurrogatePair replace 0 rest).map
        (92 :: 117 :: digits ++ ·) := by
  have others :
      ∀ byte ∈ 117 :: digits, ∀ more,
        isSurrogatePair (byte :: more) = false := by
    intro byte member more
    refine isSurrogatePair_of_ne ?_ more
    rcases List.mem_cons.mp member with rfl | digit
    · decide
    · exact (four.ordinary byte digit).2.2
  have refused :
      isSurrogatePair
        ((92 :: (117 :: digits ++ rest)).take 12) = false := by
    rcases four.exists_eq with
      ⟨first, second, third, fourth, rfl, _⟩
    exact isSurrogatePair_of_single single _
  have later :
      gsub 12 isSurrogatePair replace 0 (117 :: digits ++ rest) =
        (gsub 12 isSurrogatePair replace 0 rest).map
          (117 :: digits ++ ·) :=
    gsub_kept_all others rest
  rw [List.cons_append, gsub_kept refused, later]
  cases gsub 12 isSurrogatePair replace 0 rest with
  | error failure => rfl
  | ok replaced => rfl

theorem parseUnicodeEscape_escape
    (reads : ReadsHex lua) {char : Char} {digits : Bytes}
    (valid : (Piece.escape char digits).Valid) :
    parseUnicodeEscape lua (92 :: 117 :: digits) =
      .ok (String.utf8EncodeChar char) := by
  rw [parseUnicodeEscape_single reads valid.1, valid.2]
  exact codepointToUtf8_char char

theorem parseUnicodeEscape_pair
    (reads : ReadsHex lua) {char : Char} {high low : Bytes}
    (valid : (Piece.pair char high low).Valid) :
    parseUnicodeEscape lua (92 :: 117 :: high ++ 92 :: 117 :: low) =
      .ok (String.utf8EncodeChar char) := by
  rcases valid with
    ⟨fourHigh, fourLow, above, below, lowAbove, lowBelow, value⟩
  have first := reads.digits high fourHigh.1 fourHigh.2
  have second := reads.digits low fourLow.1 fourLow.2
  have code :
      ((hexValue high : Int) - 0xd800) * 0x400 +
          ((hexValue low : Int) - 0xdc00) + 0x10000 =
        (char.toNat : Int) := by
    omega
  rcases slice_pair fourHigh.1 fourLow.1 with ⟨front, back⟩
  simp only [parseUnicodeEscape, front, back, first, second, code]
  exact codepointToUtf8_char char

theorem Piece.Valid.ordinary_pair
    {char : Char} {high low : Bytes}
    (valid : (Piece.pair char high low).Valid) :
    ∀ byte ∈ String.utf8EncodeChar char, Ordinary byte := by
  have value := valid.2.2.2.2.2.2
  exact ordinary_utf8 (by omega) (by omega) (by omega)

/-- The first replacement decodes the pairs and nothing else. -/
theorem gsub_pairs
    (reads : ReadsHex lua) {pieces : List Piece}
    (valid : ∀ piece ∈ pieces, piece.Valid) :
    gsub 12 isSurrogatePair (parseUnicodeEscape lua) 0
        (pieces.flatMap Piece.bytes) =
      .ok (pieces.flatMap Piece.paired) := by
  induction pieces with
  | nil => rfl
  | cons piece pieces induction =>
      have later := induction fun other member =>
        valid other (List.mem_cons_of_mem piece member)
      have first := valid piece List.mem_cons_self
      rw [List.flatMap_cons, List.flatMap_cons]
      cases piece with
      | raw char =>
          have kept :
              gsub 12 isSurrogatePair (parseUnicodeEscape lua) 0
                  (String.utf8EncodeChar char ++
                    pieces.flatMap Piece.bytes) = _ :=
            gsub_kept_all
              (fun byte member => isSurrogatePair_of_ne
                (ordinary_utf8 first.1 first.2.1 first.2.2 byte member).2.2)
              _
          rw [Piece.bytes, kept, later]
          rfl
      | escape char digits =>
          rw [Piece.bytes,
            gsub_pairs_escape first.1 (findsSurrogate_of_escape first),
            later]
          rfl
      | pair char high low =>
          have isHigh := (findsSurrogate_of_pair first).1
          have length :
              (92 :: 117 :: high ++ 92 :: 117 :: low).length = 12 := by
            rw [List.length_append, List.length_cons, List.length_cons,
              List.length_cons, List.length_cons, first.1.1, first.2.1.1]
          have accepted :
              isSurrogatePair (92 :: 117 :: high ++ 92 :: 117 :: low) =
                true := by
            rcases first.1.exists_eq with ⟨h1, h2, h3, h4, rfl, _⟩
            rcases first.2.1.exists_eq with ⟨l1, l2, l3, l4, rfl, _⟩
            exact isHigh
          rw [Piece.bytes,
            gsub_replaced length (List.cons_ne_nil _ _) accepted
              (parseUnicodeEscape_pair reads first),
            later]
          rfl

/-- The second replacement decodes the other escapes. -/
theorem gsub_units
    (reads : ReadsHex lua) {pieces : List Piece}
    (valid : ∀ piece ∈ pieces, piece.Valid) :
    gsub 6 isUnicodeEscape (parseUnicodeEscape lua) 0
        (pieces.flatMap Piece.paired) =
      .ok (pieces.flatMap Piece.utf8) := by
  have kept {char : Char}
      (ordinary : ∀ byte ∈ String.utf8EncodeChar char, Ordinary byte)
      (rest : Bytes) :
      gsub 6 isUnicodeEscape (parseUnicodeEscape lua) 0
          (String.utf8EncodeChar char ++ rest) =
        (gsub 6 isUnicodeEscape (parseUnicodeEscape lua) 0 rest).map
          (String.utf8EncodeChar char ++ ·) :=
    gsub_kept_all
      (fun byte member => isUnicodeEscape_of_ne (ordinary byte member).2.2)
      rest
  induction pieces with
  | nil => rfl
  | cons piece pieces induction =>
      have later := induction fun other member =>
        valid other (List.mem_cons_of_mem piece member)
      have first := valid piece List.mem_cons_self
      rw [List.flatMap_cons, List.flatMap_cons]
      cases piece with
      | raw char =>
          rw [Piece.paired, Piece.bytes,
            kept (ordinary_utf8 first.1 first.2.1 first.2.2), later]
          · rfl
          all_goals
            intro char high low same
            cases same
      | escape char digits =>
          have length : (92 :: 117 :: digits).length = 6 := by
            rw [List.length_cons, List.length_cons, first.1.1]
          rw [Piece.paired, Piece.bytes,
            gsub_replaced length (List.cons_ne_nil _ _) rfl
              (parseUnicodeEscape_escape reads first),
            later]
          · rfl
          all_goals
            intro char high low same
            cases same
      | pair char high low =>
          rw [Piece.paired, kept first.ordinary_pair, later]
          rfl

theorem paired_eq_bytes
    {pieces : List Piece} (none : pieces.any Piece.isPair = false) :
    pieces.flatMap Piece.paired = pieces.flatMap Piece.bytes := by
  refine List.flatMap_congr fun piece member => ?_
  have single := List.any_eq_false.mp none piece member
  cases piece with
  | raw char => rfl
  | escape char digits => rfl
  | pair char high low => exact absurd rfl single

theorem paired_eq_utf8
    {pieces : List Piece}
    (all : (pieces.any fun piece => !piece.isRaw) = false) :
    pieces.flatMap Piece.paired = pieces.flatMap Piece.utf8 := by
  refine List.flatMap_congr fun piece member => ?_
  have raw := List.any_eq_false.mp all piece member
  cases piece with
  | raw char => rfl
  | escape char digits => exact absurd rfl raw
  | pair char high low => rfl

theorem unescape_pieces
    (reads : ReadsHex lua) {pieces : List Piece}
    (valid : ∀ piece ∈ pieces, piece.Valid) :
    unescape lua ((⟨false, false, false⟩ : Escapes).spelled pieces)
        (pieces.flatMap Piece.bytes) =
      .ok (pieces.flatMap Piece.utf8) := by
  have last :
      (if (pieces.any fun piece => !piece.isRaw) = true then
          gsub 6 isUnicodeEscape (parseUnicodeEscape lua) 0
            (pieces.flatMap Piece.paired)
        else
          pure (pieces.flatMap Piece.paired)) =
        .ok (pieces.flatMap Piece.utf8) := by
    split
    · exact gsub_units reads valid
    · rename_i none
      rw [paired_eq_utf8 (Bool.eq_false_iff.mpr none)]
      rfl
  simp only [unescape, Escapes.spelled, Bool.false_or, Bool.false_eq_true,
    if_false, pure_bind, bind_pure]
  cases found : pieces.any Piece.isPair with
  | true =>
      simp only [if_true, gsub_pairs reads valid]
      exact last
  | false =>
      rw [paired_eq_bytes found] at last
      simp only [Bool.false_eq_true, if_false]
      exact last

theorem parseString_pieces
    (reads : ReadsHex lua) {pieces : List Piece}
    (valid : ∀ piece ∈ pieces, piece.Valid) (str rest : Bytes) :
    parseString lua str
        (34 :: (pieces.flatMap Piece.bytes ++ 34 :: rest)) =
      .ok (pieces.flatMap Piece.utf8, rest) := by
  rw [parseString, List.tail_cons, scan_pieces valid]
  show (unescape lua _ _ >>= _) = _
  rw [unescape_pieces reads valid]
  rfl

/--
However its characters are spelled, but for short escapes, a string is read as
its UTF-8: the first two replacements never disturb one another.
-/
theorem decode_yields_utf8
    (reads : ReadsHex lua) (pieces : List Piece)
    (valid : ∀ piece ∈ pieces, piece.Valid) :
    decode lua (34 :: (pieces.flatMap Piece.bytes ++ [34])) =
      .ok (.string
        ((pieces.map Piece.char).flatMap String.utf8EncodeChar)) := by
  have utf8 :
      (pieces.map Piece.char).flatMap String.utf8EncodeChar =
        pieces.flatMap Piece.utf8 := by
    rw [List.flatMap_map]
    rfl
  rw [utf8]
  refine decode_eq_ok_iff.mpr
    ⟨[], _, [], List.forall_mem_nil _, List.forall_mem_nil _, rfl, ?_⟩
  exact Reads.string
    (parseString_eq_ok_iff.mp (parseString_pieces reads valid [] []))

/-- `"a\u00E9\ud83d\uDE00"` -/
def sampleText : List Piece :=
  [.raw 'a', .escape (Char.ofNat 0xe9) (ascii "00E9"),
    .pair (Char.ofNat 0x1f600) (ascii "d83d") (ascii "DE00")]

theorem valid_sampleText : ∀ piece ∈ sampleText, piece.Valid := by
  intro piece member
  rcases List.mem_cons.mp member with rfl | member
  · exact ⟨by decide, by decide, by decide⟩
  rcases List.mem_cons.mp member with rfl | member
  · exact ⟨⟨rfl, by decide⟩, by decide⟩
  rcases List.mem_singleton.mp member with rfl
  exact ⟨⟨rfl, by decide⟩, ⟨rfl, by decide⟩, by decide, by decide,
    by decide, by decide, by decide⟩

theorem decode_yields_utf8_sample :
    decode wholeLua (34 :: (sampleText.flatMap Piece.bytes ++ [34])) =
      .ok (.string [97, 195, 169, 240, 159, 152, 128]) :=
  decode_yields_utf8 lawful_wholeLua.hex sampleText valid_sampleText

end ZnsBench.Workload.Json

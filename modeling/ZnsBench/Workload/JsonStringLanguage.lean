import Mathlib.Data.List.TakeDrop
import ZnsBench.Core.Fallible
import ZnsBench.Workload.JsonStrings

/-!
# The strings that `json.decode` reads

Rules of their own say which texts between quotes are strings, which of the
three replacements an escape calls for, and what each replacement makes of a
text: the leftmost texts of its pattern give way to what they stand for, one
behind the other.  The loop of `parse_string`, its `gsub` calls and
`codepoint_to_utf8` follow these rules and no others.
-/

namespace ZnsBench.Workload.Json

open ZnsBench.Core.ByteString ZnsBench.Core.Fallible

variable {Number : Type} {lua : Lua Number}

/-! ## The rules -/

/-- `0123456789ABCDEFabcdef` -/
def hexDigits : Bytes :=
  [48, 49, 50, 51, 52, 53, 54, 55, 56, 57, 65, 66, 67, 68, 69, 70, 97, 98,
    99, 100, 101, 102]

/-- Four hexadecimal digits stand at the beginning or one character on. -/
def DigitsAhead (text : Bytes) : Prop :=
  ∃ before digits after,
    text = before ++ (digits ++ after) ∧ before.length ≤ 1 ∧
      digits.length = 4 ∧ ∀ digit ∈ digits, digit ∈ hexDigits

/-- A text begins like the digits of a high surrogate, `[dD][89aAbB]`. -/
def BeginsHigh (text : Bytes) : Prop :=
  ∃ first second rest,
    text = first :: second :: rest ∧ first ∈ [68, 100] ∧
      second ∈ [56, 57, 65, 66, 97, 98]

/-- The letters of the short escapes and what they stand for. -/
def shortEscapes : List (UInt8 × UInt8) :=
  [(34, 34), (47, 47), (92, 92), (98, 8), (102, 12), (110, 10), (114, 13),
    (116, 9)]

/--
The text behind an opening quote holds a string: the escapes that occur in it,
its characters as they stand there and the text behind the closing quote.
-/
inductive Quoted : Bytes → Escapes → Bytes → Bytes → Prop where
  | close {rest : Bytes} :
      Quoted (34 :: rest) ⟨false, false, false⟩ [] rest
  | plain {char : UInt8} {text raw rest : Bytes} {escapes : Escapes} :
      32 ≤ char → char ≠ 34 → char ≠ 92 → Quoted text escapes raw rest →
      Quoted (char :: text) escapes (char :: raw) rest
  | short {letter char : UInt8} {text raw rest : Bytes}
      {escapes : Escapes} :
      (letter, char) ∈ shortEscapes → Quoted text escapes raw rest →
      Quoted (92 :: letter :: text) { escapes with escape := true }
        (92 :: letter :: raw) rest
  | unit {text raw rest : Bytes} {escapes : Escapes} :
      DigitsAhead text → ¬ BeginsHigh text → Quoted text escapes raw rest →
      Quoted (92 :: 117 :: text) { escapes with unicode := true }
        (92 :: 117 :: raw) rest
  | high {text raw rest : Bytes} {escapes : Escapes} :
      DigitsAhead text → BeginsHigh text → Quoted text escapes raw rest →
      Quoted (92 :: 117 :: text) { escapes with surrogate := true }
        (92 :: 117 :: raw) rest

/--
The leftmost texts of a pattern, one behind the other, give way to what they
stand for; everything else is kept.
-/
inductive Replaced (Pattern : Bytes → Prop)
    (StandsFor : Bytes → Bytes → Prop) : Bytes → Bytes → Prop where
  | done : Replaced Pattern StandsFor [] []
  | kept {char : UInt8} {text new : Bytes} :
      (∀ found rest, char :: text = found ++ rest → ¬ Pattern found) →
      Replaced Pattern StandsFor text new →
      Replaced Pattern StandsFor (char :: text) (char :: new)
  | replaced {found meaning text new : Bytes} :
      Pattern found → StandsFor found meaning →
      Replaced Pattern StandsFor text new →
      Replaced Pattern StandsFor (found ++ text) (meaning ++ new)

/-- Two escapes of which the first is a high surrogate. -/
def IsPair (found : Bytes) : Prop :=
  ∃ high low,
    found = 92 :: 117 :: high ++ 92 :: 117 :: low ∧ high.length = 4 ∧
      low.length = 4 ∧ BeginsHigh high

/-- An escape with any four characters behind the `u`. -/
def IsUnit (found : Bytes) : Prop :=
  ∃ digits, found = 92 :: 117 :: digits ∧ digits.length = 4

/-- A backslash and the character behind it. -/
def IsShortEscape (found : Bytes) : Prop :=
  ∃ letter, found = [92, letter]

/--
The code point of two texts that Lua reads as hexadecimal numbers.  The first
counts alone where the second is no number.
-/
inductive Codepoint (lua : Lua Number) : Bytes → Bytes → Int → Prop where
  | pair {high low : Bytes} {n1 n2 : Int} :
      lua.tonumberHex high = some n1 → lua.tonumberHex low = some n2 →
      Codepoint lua high low
        (0x10000 + (n1 - 0xd800) * 0x400 + (n2 - 0xdc00))
  | single {high low : Bytes} {n : Int} :
      lua.tonumberHex high = some n → lua.tonumberHex low = none →
      Codepoint lua high low n

/-- The lead byte of a code point and the bytes that continue it. -/
inductive Utf8 : Int → Bytes → Prop where
  | one {code : Nat} : code < 0x80 → Utf8 code [UInt8.ofNat code]
  | two {lead last : Nat} :
      last < 64 → 0x80 ≤ 64 * lead + last → 64 * lead + last < 0x800 →
      Utf8 (64 * lead + last : Nat)
        [UInt8.ofNat (0xc0 + lead), UInt8.ofNat (0x80 + last)]
  | three {lead next last : Nat} :
      next < 64 → last < 64 → 0x800 ≤ 64 * (64 * lead + next) + last →
      64 * (64 * lead + next) + last < 0x10000 →
      Utf8 (64 * (64 * lead + next) + last : Nat)
        [UInt8.ofNat (0xe0 + lead), UInt8.ofNat (0x80 + next),
          UInt8.ofNat (0x80 + last)]
  | four {lead second third last : Nat} :
      second < 64 → third < 64 → last < 64 →
      0x10000 ≤ 64 * (64 * (64 * lead + second) + third) + last →
      64 * (64 * (64 * lead + second) + third) + last < 0x110000 →
      Utf8 (64 * (64 * (64 * lead + second) + third) + last : Nat)
        [UInt8.ofNat (0xf0 + lead), UInt8.ofNat (0x80 + second),
          UInt8.ofNat (0x80 + third), UInt8.ofNat (0x80 + last)]

/-- Two escapes and the UTF-8 of their code point. -/
def StandsForPair (lua : Lua Number) (found meaning : Bytes) : Prop :=
  ∃ high low code,
    found = 92 :: 117 :: high ++ 92 :: 117 :: low ∧ high.length = 4 ∧
      low.length = 4 ∧ Codepoint lua high low code ∧ Utf8 code meaning

/-- An escape, with nothing for a second number, and its UTF-8. -/
def StandsForUnit (lua : Lua Number) (found meaning : Bytes) : Prop :=
  ∃ digits code,
    found = 92 :: 117 :: digits ∧ digits.length = 4 ∧
      Codepoint lua digits [] code ∧ Utf8 code meaning

/-- A short escape and its character; an unknown one stands for itself. -/
inductive StandsForShort : Bytes → Bytes → Prop where
  | known {letter char : UInt8} :
      (letter, char) ∈ shortEscapes → StandsForShort [92, letter] [char]
  | unknown {letter : UInt8} :
      letter ∉ shortEscapes.map Prod.fst →
      StandsForShort [92, letter] [92, letter]

/-- A replacement is made only if there is an escape that calls for it. -/
def MadeFor (called : Bool) (Replacement : Bytes → Bytes → Prop)
    (text new : Bytes) : Prop :=
  (called = true ∧ Replacement text new) ∨ (called = false ∧ new = text)

/-- The characters of a string and what they stand for. -/
def Unescaped (lua : Lua Number) (escapes : Escapes) (raw string : Bytes) :
    Prop :=
  ∃ paired decoded,
    MadeFor escapes.surrogate (Replaced IsPair (StandsForPair lua))
      raw paired ∧
    MadeFor escapes.unicode (Replaced IsUnit (StandsForUnit lua))
      paired decoded ∧
    MadeFor escapes.escape (Replaced IsShortEscape StandsForShort)
      decoded string

/-- The text behind an opening quote is read as a string. -/
def ReadsString (lua : Lua Number) (text string rest : Bytes) : Prop :=
  ∃ escapes raw,
    Quoted text escapes raw rest ∧ Unescaped lua escapes raw string

/-! ## Finding the closing quote -/

theorem isHex_iff :
    ∀ char : UInt8, isHex char = true ↔ char ∈ hexDigits :=
  forall_byte (by decide +kernel)

theorem isEscape_iff :
    ∀ letter : UInt8,
      isEscape letter = true ↔ letter ∈ shortEscapes.map Prod.fst :=
  forall_byte (by decide +kernel)

theorem shortEscapes_facts :
    ∀ entry ∈ shortEscapes,
      ¬ entry.1 < 32 ∧ entry.1 ≠ 117 ∧ isEscape entry.1 = true := by
  intro entry member
  simp only [shortEscapes, List.mem_cons, List.not_mem_nil,
    or_false] at member
  rcases member with rfl | rfl | rfl | rfl | rfl | rfl | rfl | rfl <;> decide

theorem isHighSurrogate_iff_mem (first second : UInt8) :
    isHighSurrogate first second = true ↔
      first ∈ [68, 100] ∧ second ∈ [56, 57, 65, 66, 97, 98] := by
  simp only [isHighSurrogate, Bool.and_eq_true, Bool.or_eq_true, beq_iff_eq,
    List.contains_iff_mem, List.mem_cons, List.not_mem_nil, or_false]
  tauto

theorem findsSurrogate_iff (text : Bytes) :
    findsSurrogate (text.take 5) = true ↔ BeginsHigh text := by
  constructor
  · intro finds
    rcases text with _ | ⟨first, _ | ⟨second, rest⟩⟩
    · cases finds
    · cases finds
    rcases (isHighSurrogate_iff_mem first second).mp finds with ⟨one, two⟩
    exact ⟨first, second, rest, rfl, one, two⟩
  · rintro ⟨first, second, rest, rfl, one, two⟩
    exact (isHighSurrogate_iff_mem first second).mpr ⟨one, two⟩

/-- Four digits, or one character and four digits, are found. -/
theorem findsHex_cons_iff
    (first second third fourth : UInt8) (rest : Bytes) :
    findsHex ((first :: second :: third :: fourth :: rest).take 5) = true ↔
      (second ∈ hexDigits ∧ third ∈ hexDigits ∧ fourth ∈ hexDigits) ∧
        (first ∈ hexDigits ∨
          ∃ fifth more, rest = fifth :: more ∧ fifth ∈ hexDigits) := by
  cases rest with
  | nil =>
      simp only [List.take_succ_cons, List.take_nil, findsHex,
        Bool.and_eq_true, Bool.or_eq_true, isHex_iff, and_assoc,
        Bool.false_eq_true, List.nil_eq, reduceCtorEq, false_and,
        exists_false]
  | cons fifth more =>
      simp only [List.take_succ_cons, List.take_zero, findsHex,
        Bool.and_eq_true, Bool.or_eq_true, isHex_iff, and_assoc,
        List.cons.injEq, exists_and_left, exists_eq_left']

theorem findsHex_iff (text : Bytes) :
    findsHex (text.take 5) = true ↔ DigitsAhead text := by
  constructor
  · intro finds
    rcases text with _ | ⟨first, _ | ⟨second, _ | ⟨third, _ | ⟨fourth,
      rest⟩⟩⟩⟩
    · cases finds
    · cases finds
    · cases finds
    · cases finds
    rcases (findsHex_cons_iff first second third fourth rest).mp finds with
      ⟨⟨two, three, four⟩, one | ⟨fifth, rest, rfl, five⟩⟩
    · refine ⟨[], [first, second, third, fourth], rest, rfl,
        Nat.zero_le 1, rfl, ?_⟩
      simp only [List.forall_mem_cons, one, two, three, four, true_and]
      exact List.forall_mem_nil _
    · refine ⟨[first], [second, third, fourth, fifth], rest, rfl,
        Nat.le_refl 1, rfl, ?_⟩
      simp only [List.forall_mem_cons, five, two, three, four, true_and]
      exact List.forall_mem_nil _
  · rintro ⟨before, digits, after, rfl, near, length, hex⟩
    rcases List.length_eq_four.mp length with ⟨one, two, three, four, rfl⟩
    simp only [List.forall_mem_cons] at hex
    rcases hex with ⟨isOne, isTwo, isThree, isFour, _⟩
    rcases before with _ | ⟨first, _ | ⟨second, more⟩⟩
    · exact (findsHex_cons_iff one two three four after).mpr
        ⟨⟨isTwo, isThree, isFour⟩, Or.inl isOne⟩
    · exact (findsHex_cons_iff first one two three (four :: after)).mpr
        ⟨⟨isOne, isTwo, isThree⟩, Or.inr ⟨four, after, rfl, isFour⟩⟩
    · rw [List.length_cons, List.length_cons] at near
      omega

/-- The flags of two parts of a string. -/
def Escapes.also (first second : Escapes) : Escapes where
  unicode := first.unicode || second.unicode
  surrogate := first.surrogate || second.surrogate
  escape := first.escape || second.escape

@[simp]
theorem Escapes.also_none (escapes : Escapes) :
    escapes.also ⟨false, false, false⟩ = escapes := by
  simp only [also, Bool.or_false]

@[simp]
theorem Escapes.none_also (escapes : Escapes) :
    (⟨false, false, false⟩ : Escapes).also escapes = escapes := by
  simp only [also, Bool.false_or]

theorem Escapes.also_escape (first second : Escapes) :
    ({ first with escape := true } : Escapes).also second =
      first.also { second with escape := true } := by
  simp only [also, Bool.true_or, Bool.or_true]

/-- The flag of an escape may be noted before or behind the others. -/
theorem Escapes.also_noting
    (first second : Escapes) (isHigh : Bool) :
    (first.noting isHigh).also second =
      first.also (second.noting isHigh) := by
  cases isHigh with
  | false => simp only [noting, also, Bool.false_eq_true, if_false,
      Bool.true_or, Bool.or_true]
  | true => simp only [noting, also, if_true, Bool.true_or, Bool.or_true]

/-- An escape of either kind is part of a string. -/
theorem Quoted.escape
    {text raw rest : Bytes} {escapes : Escapes} (ahead : DigitsAhead text)
    (quoted : Quoted text escapes raw rest) :
    Quoted (92 :: 117 :: text)
      (escapes.noting (findsSurrogate (text.take 5)))
      (92 :: 117 :: raw) rest := by
  by_cases high : BeginsHigh text
  · rw [(findsSurrogate_iff text).mpr high]
    exact Quoted.high ahead high quoted
  · rw [Bool.eq_false_iff.mpr fun found =>
      high ((findsSurrogate_iff text).mp found)]
    exact Quoted.unit ahead high quoted

theorem Quoted.shorter
    {text raw rest : Bytes} {escapes : Escapes}
    (quoted : Quoted text escapes raw rest) :
    rest.length < text.length := by
  induction quoted with
  | close => exact Nat.lt_succ_self _
  | plain _ _ _ _ shorter => exact Nat.lt_succ_of_lt shorter
  | short _ _ shorter => exact Nat.lt_succ_of_lt (Nat.lt_succ_of_lt shorter)
  | unit _ _ _ shorter =>
      exact Nat.lt_succ_of_lt (Nat.lt_succ_of_lt shorter)
  | high _ _ _ shorter =>
      exact Nat.lt_succ_of_lt (Nat.lt_succ_of_lt shorter)

variable {str opening : Bytes}

@[simp]
theorem scan_quote (escapes : Escapes) (rest : Bytes) :
    scan str opening false escapes (34 :: rest) =
      .ok (escapes, [], rest) := rfl

/-- The loop goes over a string and notes its escapes. -/
theorem Quoted.scan
    {text raw rest : Bytes} {kinds : Escapes}
    (quoted : Quoted text kinds raw rest) (escapes : Escapes) :
    scan str opening false escapes text =
      .ok (escapes.also kinds, raw, rest) := by
  induction quoted generalizing escapes with
  | close => rw [scan_quote, Escapes.also_none]
  | plain visible notQuote notBackslash _ induction =>
      rw [scan_ordinary (UInt8.not_lt.mpr visible) notQuote,
        beq_eq_false_iff_ne.mpr notBackslash, induction]
      rfl
  | @short letter char text raw rest kinds known _ induction =>
      rcases shortEscapes_facts _ known with ⟨visible, notU, isEscape⟩
      rw [scan_ordinary (by decide) (by decide), beq_self_eq_true,
        scan_escape visible notU isEscape, induction, Escapes.also_escape]
      rfl
  | @unit text raw rest kinds ahead single _ induction =>
      have notHigh : findsSurrogate (text.take 5) = false :=
        Bool.eq_false_iff.mpr fun found =>
          single ((findsSurrogate_iff text).mp found)
      rw [scan_ordinary (by decide) (by decide), beq_self_eq_true,
        scan_u ((findsHex_iff text).mpr ahead), notHigh, induction,
        Escapes.also_noting]
      rfl
  | @high text raw rest kinds ahead high _ induction =>
      rw [scan_ordinary (by decide) (by decide), beq_self_eq_true,
        scan_u ((findsHex_iff text).mpr ahead),
        (findsSurrogate_iff text).mpr high, induction, Escapes.also_noting]
      rfl

/-- What the loop finds in a text is a string, also behind a backslash. -/
structure ScanSound (str opening text : Bytes) : Prop where
  plain {escapes : Escapes} {found : Escapes × Bytes × Bytes} :
    scan str opening false escapes text = .ok found →
      ∃ kinds, Quoted text kinds found.2.1 found.2.2 ∧
        found.1 = escapes.also kinds
  escaped {escapes : Escapes} {found : Escapes × Bytes × Bytes} :
    scan str opening true escapes text = .ok found →
      ∃ kinds, Quoted (92 :: text) kinds (92 :: found.2.1) found.2.2 ∧
        found.1 = escapes.also kinds

/-- A character with nothing special before it. -/
theorem ScanSound.plain_cons
    {char : UInt8} {text : Bytes} (sound : ScanSound str opening text)
    {escapes : Escapes} {found : Escapes × Bytes × Bytes}
    (done : scan str opening false escapes (char :: text) = .ok found) :
    ∃ kinds, Quoted (char :: text) kinds found.2.1 found.2.2 ∧
      found.1 = escapes.also kinds := by
  by_cases control : char < 32
  · rw [scan, if_pos control] at done
    cases done
  by_cases quote : char = 34
  · subst quote
    rw [scan_quote] at done
    cases done
    exact ⟨_, Quoted.close, escapes.also_none.symm⟩
  rw [scan_ordinary control quote] at done
  rcases exists_of_map_eq_ok done with ⟨later, parsed, rfl⟩
  by_cases backslash : char = 92
  · subst backslash
    exact sound.escaped parsed
  · rw [beq_eq_false_iff_ne.mpr backslash] at parsed
    rcases sound.plain parsed with ⟨kinds, quoted, same⟩
    exact ⟨kinds,
      Quoted.plain (UInt8.not_lt.mp control) quote backslash quoted, same⟩

/-- A character behind a backslash. -/
theorem ScanSound.escaped_cons
    {char : UInt8} {text : Bytes} (sound : ScanSound str opening text)
    {escapes : Escapes} {found : Escapes × Bytes × Bytes}
    (done : scan str opening true escapes (char :: text) = .ok found) :
    ∃ kinds,
      Quoted (92 :: char :: text) kinds (92 :: found.2.1) found.2.2 ∧
        found.1 = escapes.also kinds := by
  by_cases control : char < 32
  · rw [scan, if_pos control] at done
    cases done
  by_cases unicode : char = 117
  · subst unicode
    cases hex : findsHex (text.take 5) with
    | false =>
        rw [scan] at done
        simp only [if_neg control, if_true, hex, Bool.not_false] at done
        cases done
    | true =>
        rw [scan_u hex] at done
        rcases exists_of_map_eq_ok done with ⟨later, parsed, rfl⟩
        rcases sound.plain parsed with ⟨kinds, quoted, same⟩
        refine ⟨_, quoted.escape ((findsHex_iff text).mp hex), ?_⟩
        rw [← Escapes.also_noting]
        exact same
  cases known : isEscape char with
  | false =>
      rw [scan] at done
      simp only [if_neg control, if_true, if_neg unicode, known,
        Bool.not_false] at done
      cases done
  | true =>
      rw [scan_escape control unicode known] at done
      rcases exists_of_map_eq_ok done with ⟨later, parsed, rfl⟩
      rcases sound.plain parsed with ⟨kinds, quoted, same⟩
      rcases List.mem_map.mp ((isEscape_iff char).mp known) with
        ⟨entry, listed, rfl⟩
      refine ⟨_, Quoted.short listed quoted, ?_⟩
      rw [← Escapes.also_escape]
      exact same

theorem scanSound (str opening text : Bytes) :
    ScanSound str opening text := by
  induction text with
  | nil =>
      refine ⟨fun done => ?_, fun done => ?_⟩
      · cases done
      · cases done
  | cons char text induction =>
      exact ⟨induction.plain_cons, induction.escaped_cons⟩

/-- The loop of `parse_string` finds the strings of the rules. -/
theorem scan_eq_ok_iff
    {text raw rest : Bytes} {kinds : Escapes} :
    scan str opening false ⟨false, false, false⟩ text =
        .ok (kinds, raw, rest) ↔
      Quoted text kinds raw rest := by
  constructor
  · intro done
    rcases (scanSound str opening text).plain done with
      ⟨found, quoted, same⟩
    rw [Escapes.none_also] at same
    cases same
    exact quoted
  · intro quoted
    rw [quoted.scan, Escapes.none_also]

/-! ## The replacements -/

section Replacements

variable {width : Nat} {accepts : Bytes → Bool}
  {replace : Bytes → Except Failure Bytes} {Pattern : Bytes → Prop}
  {StandsFor : Bytes → Bytes → Prop}

/-- `gsub` looks for the texts of a pattern and replaces them. -/
structure Follows (width : Nat) (accepts : Bytes → Bool)
    (replace : Bytes → Except Failure Bytes) (Pattern : Bytes → Prop)
    (StandsFor : Bytes → Bytes → Prop) : Prop where
  positive : 0 < width
  pattern (found : Bytes) :
    Pattern found ↔ found.length = width ∧ accepts found = true
  meaning {found : Bytes} (matched : Pattern found) (new : Bytes) :
    replace found = .ok new ↔ StandsFor found new

/-- A match at the beginning is the text of the pattern's length. -/
theorem Follows.matches_iff
    (follows : Follows width accepts replace Pattern StandsFor)
    (text : Bytes) :
    (∃ found rest, text = found ++ rest ∧ Pattern found) ↔
      Pattern (text.take width) := by
  constructor
  · rintro ⟨found, rest, rfl, matched⟩
    rw [← ((follows.pattern found).mp matched).1, List.take_left]
    exact matched
  · intro matched
    exact ⟨_, _, (List.take_append_drop width text).symm, matched⟩

theorem Follows.of_replaced
    (follows : Follows width accepts replace Pattern StandsFor)
    {text new : Bytes} (replaced : Replaced Pattern StandsFor text new) :
    gsub width accepts replace 0 text = .ok new := by
  induction replaced with
  | done => rfl
  | @kept char text new absent _ induction =>
      have refused :
          ¬ Pattern ((char :: text).take width) := fun matched =>
        absent _ _ (List.take_append_drop width _).symm matched
      rw [follows.pattern] at refused
      rw [gsub_passed refused, induction]
      rfl
  | @replaced found meaning text new matched stands _ induction =>
      rcases (follows.pattern found).mp matched with ⟨whole, accepted⟩
      have some : found ≠ [] :=
        List.ne_nil_of_length_pos (whole ▸ follows.positive)
      rw [gsub_replaced whole some accepted
        ((follows.meaning matched meaning).mpr stands), induction]
      rfl

theorem Follows.replaced
    (follows : Follows width accepts replace Pattern StandsFor)
    {text new : Bytes}
    (done : gsub width accepts replace 0 text = .ok new) :
    Replaced Pattern StandsFor text new := by
  induction size : text.length using Nat.strong_induction_on
    generalizing text new with
  | _ size induction =>
      cases text with
      | nil =>
          cases done
          exact Replaced.done
      | cons char rest =>
          by_cases matched : Pattern ((char :: rest).take width)
          · rcases (follows.pattern _).mp matched with ⟨whole, accepted⟩
            have some : (char :: rest).take width ≠ [] :=
              List.ne_nil_of_length_pos (whole.symm ▸ follows.positive)
            have split := List.take_append_drop width (char :: rest)
            have left := congrArg List.length split
            rw [List.length_append, whole] at left
            rw [← split, gsub_found whole some accepted] at done
            rcases exists_of_bind_eq_ok done with ⟨meaning, stands, later⟩
            rcases exists_of_map_eq_ok later with ⟨new, further, rfl⟩
            rw [← split]
            refine Replaced.replaced matched
              ((follows.meaning matched meaning).mp stands)
              (induction _ ?_ further rfl)
            have positive := follows.positive
            omega
          · rw [gsub_passed (mt (follows.pattern _).mpr matched)] at done
            rcases exists_of_map_eq_ok done with ⟨new, further, rfl⟩
            refine Replaced.kept (fun found more same isMatch => ?_)
              (induction rest.length ?_ further rfl)
            · exact matched ((follows.matches_iff _).mp
                ⟨found, more, same, isMatch⟩)
            · rw [← size]
              exact Nat.lt_succ_self _

theorem Follows.gsub_eq_ok_iff
    (follows : Follows width accepts replace Pattern StandsFor)
    {text new : Bytes} :
    gsub width accepts replace 0 text = .ok new ↔
      Replaced Pattern StandsFor text new :=
  ⟨follows.replaced, follows.of_replaced⟩

end Replacements

/-- `codepoint_to_utf8` follows the rules. -/
theorem Utf8.encoded
    {code : Int} {bytes : Bytes} (utf8 : Utf8 code bytes) :
    codepointToUtf8 code = .ok bytes := by
  cases utf8 with
  | one small => exact codepointToUtf8_of_le (by omega)
  | @two lead last small least most =>
      have front : (64 * lead + last) / 64 + 192 = 0xc0 + lead := by omega
      have back : (64 * lead + last) % 64 + 128 = 0x80 + last := by omega
      rw [codepointToUtf8, if_neg (by omega)]
      simp only [Int.toNat_natCast]
      rw [if_neg (by omega), if_pos (by omega), front, back]
  | @three lead next last smallNext small least most =>
      have front :
          (64 * (64 * lead + next) + last) / 4096 + 224 = 0xe0 + lead := by
        omega
      have middle :
          (64 * (64 * lead + next) + last) % 4096 / 64 + 128 =
            0x80 + next := by
        omega
      have back :
          (64 * (64 * lead + next) + last) % 64 + 128 = 0x80 + last := by
        omega
      rw [codepointToUtf8, if_neg (by omega)]
      simp only [Int.toNat_natCast]
      rw [if_neg (by omega), if_neg (by omega), if_pos (by omega), front,
        middle, back]
  | @four lead second third last smallSecond smallThird small least most =>
      have front :
          (64 * (64 * (64 * lead + second) + third) + last) / 262144 + 240 =
            0xf0 + lead := by
        omega
      have middle :
          (64 * (64 * (64 * lead + second) + third) + last) % 262144 /
              4096 + 128 =
            0x80 + second := by
        omega
      have next :
          (64 * (64 * (64 * lead + second) + third) + last) % 4096 / 64 +
              128 =
            0x80 + third := by
        omega
      have back :
          (64 * (64 * (64 * lead + second) + third) + last) % 64 + 128 =
            0x80 + last := by
        omega
      rw [codepointToUtf8, if_neg (by omega)]
      simp only [Int.toNat_natCast]
      rw [if_neg (by omega), if_neg (by omega), if_neg (by omega),
        if_pos (by omega), front, middle, next, back]

theorem utf8_of_encoded
    {code : Int} {bytes : Bytes}
    (done : codepointToUtf8 code = .ok bytes) : Utf8 code bytes := by
  rw [codepointToUtf8] at done
  split_ifs at done with negative
  rcases Int.eq_ofNat_of_zero_le (Int.not_lt.mp negative) with ⟨n, rfl⟩
  simp only [Int.toNat_natCast] at done
  split_ifs at done with one two three four
  · cases done
    exact Utf8.one (by omega)
  · cases done
    have utf8 :=
      @Utf8.two (n / 64) (n % 64) (by omega) (by omega) (by omega)
    rwa [Nat.div_add_mod, Nat.add_comm 0xc0, Nat.add_comm 0x80] at utf8
  · cases done
    have utf8 :=
      @Utf8.three (n / 4096) (n % 4096 / 64) (n % 64) (by omega) (by omega)
        (by omega) (by omega)
    have whole : 64 * (64 * (n / 4096) + n % 4096 / 64) + n % 64 = n := by
      omega
    rwa [whole, Nat.add_comm 0xe0, Nat.add_comm 0x80,
      Nat.add_comm 0x80] at utf8
  · cases done
    have utf8 :=
      @Utf8.four (n / 262144) (n % 262144 / 4096) (n % 4096 / 64) (n % 64)
        (by omega) (by omega) (by omega) (by omega) (by omega)
    have whole :
        64 * (64 * (64 * (n / 262144) + n % 262144 / 4096) +
          n % 4096 / 64) + n % 64 = n := by
      omega
    rwa [whole, Nat.add_comm 0xf0, Nat.add_comm 0x80, Nat.add_comm 0x80,
      Nat.add_comm 0x80] at utf8

@[simp]
theorem codepointToUtf8_eq_ok_iff {code : Int} {bytes : Bytes} :
    codepointToUtf8 code = .ok bytes ↔ Utf8 code bytes :=
  ⟨utf8_of_encoded, Utf8.encoded⟩

/-- `parse_unicode_escape`, by the two texts it takes for numbers. -/
theorem parseUnicodeEscape_eq_ok_iff
    {found high low new : Bytes} (front : slice found 2 4 = high)
    (back : slice found 8 4 = low) :
    parseUnicodeEscape lua found = .ok new ↔
      ∃ code, Codepoint lua high low code ∧ Utf8 code new := by
  rw [parseUnicodeEscape, front, back]
  constructor
  · intro done
    split at done
    · rename_i n1 n2 first second
      have utf8 := codepointToUtf8_eq_ok_iff.mp done
      rw [Int.add_comm] at utf8
      refine ⟨_, Codepoint.pair first second, ?_⟩
      rwa [Int.add_assoc]
    · cases done
    · rename_i first second
      exact ⟨_, Codepoint.single first second,
        codepointToUtf8_eq_ok_iff.mp done⟩
    · cases done
  · rintro ⟨code, number, utf8⟩
    cases number with
    | pair first second =>
        simp only [first, second]
        rw [Int.add_comm, ← Int.add_assoc]
        exact utf8.encoded
    | single first second =>
        simp only [first, second]
        exact utf8.encoded

/-- The first replacement decodes the surrogate pairs. -/
theorem follows_pair (lua : Lua Number) :
    Follows 12 isSurrogatePair (parseUnicodeEscape lua) IsPair
      (StandsForPair lua) where
  positive := by decide
  pattern := by
    intro found
    constructor
    · rintro ⟨high, low, rfl, four, fourLow, first, second, rest, rfl,
        one, two⟩
      refine ⟨?_, ?_⟩
      · simp only [List.length_append, List.length_cons] at four ⊢
        omega
      · rcases List.length_eq_two.mp
          (Nat.add_right_cancel (Nat.add_right_cancel four)) with
          ⟨_, _, rfl⟩
        rcases List.length_eq_four.mp fourLow with ⟨_, _, _, _, rfl⟩
        exact (isHighSurrogate_iff_mem first second).mpr ⟨one, two⟩
    · rintro ⟨_, accepted⟩
      rw [isSurrogatePair.eq_def] at accepted
      split at accepted
      · rename_i first second third fourth one two three four _
        rcases (isHighSurrogate_iff_mem first second).mp accepted with
          ⟨isHigh, isNext⟩
        exact ⟨[first, second, third, fourth], [one, two, three, four], rfl,
          rfl, rfl, first, second, [third, fourth], rfl, isHigh, isNext⟩
      · cases accepted
  meaning := by
    rintro _ ⟨high, low, rfl, fourHigh, fourLow, _⟩ new
    rcases slice_pair fourHigh fourLow with ⟨front, back⟩
    rw [parseUnicodeEscape_eq_ok_iff front back]
    constructor
    · rintro ⟨code, number, utf8⟩
      exact ⟨high, low, code, rfl, fourHigh, fourLow, number, utf8⟩
    · rintro ⟨high', low', code, same, four, _, number, utf8⟩
      have parts := List.append_inj (List.cons.inj (List.cons.inj same).2).2
        (fourHigh.trans four.symm)
      cases parts.1
      cases parts.2
      exact ⟨code, number, utf8⟩

/-- The second replacement decodes the other escapes. -/
theorem follows_unit (lua : Lua Number) :
    Follows 6 isUnicodeEscape (parseUnicodeEscape lua) IsUnit
      (StandsForUnit lua) where
  positive := by decide
  pattern := by
    intro found
    constructor
    · rintro ⟨digits, rfl, four⟩
      rw [List.length_cons, List.length_cons, four]
      exact ⟨rfl, rfl⟩
    · rintro ⟨length, accepted⟩
      rw [isUnicodeEscape.eq_def] at accepted
      split at accepted
      · rename_i digits
        exact ⟨digits, rfl,
          Nat.add_right_cancel (Nat.add_right_cancel length)⟩
      · cases accepted
  meaning := by
    rintro _ ⟨digits, rfl, four⟩ new
    rcases slice_unit four with ⟨front, back⟩
    rw [parseUnicodeEscape_eq_ok_iff front back]
    constructor
    · rintro ⟨code, number, utf8⟩
      exact ⟨digits, code, rfl, four, number, utf8⟩
    · rintro ⟨digits', code, same, _, number, utf8⟩
      cases same
      exact ⟨code, number, utf8⟩

theorem replaceEscape_known :
    ∀ entry ∈ shortEscapes, replaceEscape [92, entry.1] = [entry.2] := by
  intro entry member
  simp only [shortEscapes, List.mem_cons, List.not_mem_nil,
    or_false] at member
  rcases member with rfl | rfl | rfl | rfl | rfl | rfl | rfl | rfl <;> rfl

theorem replaceEscape_unknown :
    ∀ letter : UInt8, letter ∉ shortEscapes.map Prod.fst →
      replaceEscape [92, letter] = [92, letter] :=
  forall_byte (by decide +kernel)

theorem replaceEscape_eq_iff {letter : UInt8} {new : Bytes} :
    replaceEscape [92, letter] = new ↔ StandsForShort [92, letter] new := by
  constructor
  · rintro rfl
    by_cases listed : letter ∈ shortEscapes.map Prod.fst
    · rcases List.mem_map.mp listed with ⟨entry, member, rfl⟩
      rw [replaceEscape_known entry member]
      exact StandsForShort.known member
    · rw [replaceEscape_unknown letter listed]
      exact StandsForShort.unknown listed
  · intro stands
    cases stands with
    | known listed => exact replaceEscape_known _ listed
    | unknown absent => exact replaceEscape_unknown letter absent

/-- The last replacement decodes the short escapes. -/
theorem follows_short :
    Follows 2 isBackslash (fun found => pure (replaceEscape found))
      IsShortEscape StandsForShort where
  positive := by decide
  pattern := by
    intro found
    constructor
    · rintro ⟨letter, rfl⟩
      exact ⟨rfl, rfl⟩
    · rintro ⟨length, accepted⟩
      rcases List.length_eq_two.mp length with ⟨first, letter, rfl⟩
      by_cases backslash : first = 92
      · exact ⟨letter, by rw [backslash]⟩
      · rw [isBackslash_of_ne backslash] at accepted
        cases accepted
  meaning := by
    rintro _ ⟨letter, rfl⟩ new
    rw [← replaceEscape_eq_iff]
    exact ⟨fun done => Except.ok.inj done, fun same => by rw [same]; rfl⟩

/-! ## Whole strings -/

/-- A replacement that a flag calls for, as the script makes it. -/
theorem madeFor_iff
    {called : Bool} {Replacement : Bytes → Bytes → Prop}
    {made : Bytes → Except Failure Bytes} {text new : Bytes}
    (follows : made text = .ok new ↔ Replacement text new) :
    (if called then made text else pure text) = .ok new ↔
      MadeFor called Replacement text new := by
  cases called with
  | true =>
      rw [if_pos rfl, follows, MadeFor]
      exact ⟨fun made => Or.inl ⟨rfl, made⟩,
        fun made => made.elim And.right fun none => Bool.noConfusion none.1⟩
  | false =>
      rw [if_neg Bool.false_ne_true, MadeFor]
      constructor
      · intro same
        exact Or.inr ⟨rfl, (Except.ok.inj same).symm⟩
      · rintro (⟨none, _⟩ | ⟨_, rfl⟩)
        · exact Bool.noConfusion none
        · rfl

theorem unescape_eq (escapes : Escapes) (raw : Bytes) :
    unescape lua escapes raw =
      (if escapes.surrogate then
          gsub 12 isSurrogatePair (parseUnicodeEscape lua) 0 raw
        else
          pure raw) >>= fun paired =>
      (if escapes.unicode then
          gsub 6 isUnicodeEscape (parseUnicodeEscape lua) 0 paired
        else
          pure paired) >>= fun decoded =>
      if escapes.escape then
        gsub 2 isBackslash (fun found => pure (replaceEscape found)) 0
          decoded
      else
        pure decoded := by
  rcases escapes with ⟨_ | _, _ | _, _ | _⟩ <;> rfl

@[simp]
theorem unescape_eq_ok_iff
    {escapes : Escapes} {raw string : Bytes} :
    unescape lua escapes raw = .ok string ↔
      Unescaped lua escapes raw string := by
  constructor
  · intro done
    rw [unescape_eq] at done
    rcases exists_of_bind_eq_ok done with ⟨paired, first, done⟩
    rcases exists_of_bind_eq_ok done with ⟨decoded, second, third⟩
    exact ⟨paired, decoded,
      (madeFor_iff (follows_pair lua).gsub_eq_ok_iff).mp first,
      (madeFor_iff (follows_unit lua).gsub_eq_ok_iff).mp second,
      (madeFor_iff follows_short.gsub_eq_ok_iff).mp third⟩
  · rintro ⟨paired, decoded, first, second, third⟩
    rw [← madeFor_iff (follows_pair lua).gsub_eq_ok_iff] at first
    rw [← madeFor_iff (follows_unit lua).gsub_eq_ok_iff] at second
    rw [← madeFor_iff follows_short.gsub_eq_ok_iff] at third
    rw [unescape_eq]
    exact bind_eq_ok first (bind_eq_ok second third)

/-- `parse_string` reads the strings of the rules, whatever the whole text. -/
@[simp]
theorem parseString_eq_ok_iff {text string rest : Bytes} :
    parseString lua str (34 :: text) = .ok (string, rest) ↔
      ReadsString lua text string rest := by
  constructor
  · intro done
    rw [parseString, List.tail_cons] at done
    rcases exists_of_bind_eq_ok done with ⟨⟨kinds, raw, behind⟩, found, done⟩
    rcases exists_of_bind_eq_ok done with ⟨decoded, unescaped, ends⟩
    cases ends
    exact ⟨kinds, raw, scan_eq_ok_iff.mp found,
      unescape_eq_ok_iff.mp unescaped⟩
  · rintro ⟨kinds, raw, quoted, unescaped⟩
    rw [parseString, List.tail_cons]
    exact bind_eq_ok (scan_eq_ok_iff.mpr quoted)
      (bind_eq_ok (unescape_eq_ok_iff.mpr unescaped) rfl)

theorem ReadsString.shorter
    {text string rest : Bytes} (reads : ReadsString lua text string rest) :
    rest.length < text.length := by
  rcases reads with ⟨escapes, raw, quoted, _⟩
  exact quoted.shorter

end ZnsBench.Workload.Json

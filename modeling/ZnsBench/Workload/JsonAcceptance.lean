import ZnsBench.Workload.JsonParser

/-!
# What `json.decode` accepts

The depth given to the parser is never used up: every call leaves more than
two units for each character that its callees have left to read.  With this
the decoder accepts exactly the texts of the language, whose rules call none
of its functions, and finds the values that they denote.
-/

namespace ZnsBench.Workload.Json

open ZnsBench.Core.ByteString ZnsBench.Core.Fallible

variable {Number : Type} {lua : Lua Number}

/-! ## The depth is enough -/

/-- The depth of the model is not used up. -/
abbrev Shallow {Found : Type} (result : Except Failure Found) : Prop :=
  Avoids Failure.depth result

theorem shallow_decodeError
    {Found : Type} (str : Bytes) (idx : Nat) (message : Bytes) :
    Shallow (.error (decodeError str idx message) : Except Failure Found) := by
  refine Avoids.error ?_
  intro same
  cases same

/-- A turn of the loop fails, ends the string or goes on. -/
theorem scan_cons_cases
    (str opening : Bytes) (escaped : Bool) (escapes : Escapes)
    (char : UInt8) (rest : Bytes) :
    (∃ idx message,
      scan str opening escaped escapes (char :: rest) =
        .error (decodeError str idx message)) ∨
    scan str opening escaped escapes (char :: rest) =
      .ok (escapes, [], rest) ∨
    ∃ escaped' escapes',
      scan str opening escaped escapes (char :: rest) =
        (scan str opening escaped' escapes' rest).map
          fun found => (found.1, char :: found.2.1, found.2.2) := by
  by_cases control : char < 32
  · refine Or.inl
      ⟨idxOf str (char :: rest), ascii "control character in string", ?_⟩
    rw [scan]
    simp only [if_pos control]
  cases escaped with
  | false =>
      by_cases quote : char = 34
      · refine Or.inr (Or.inl ?_)
        rw [scan]
        simp only [if_neg control, if_false, Bool.false_eq_true, if_pos quote]
      · refine Or.inr (Or.inr ⟨char == 92, escapes, ?_⟩)
        rw [scan]
        simp only [if_neg control, if_false, Bool.false_eq_true,
          if_neg quote]
  | true =>
      by_cases unicode : char = 117
      · cases hex : findsHex (rest.take 5) with
        | false =>
            refine Or.inl
              ⟨idxOf str (char :: rest),
                ascii "invalid unicode escape in string", ?_⟩
            rw [scan]
            simp only [if_neg control, if_true, if_pos unicode, hex,
              Bool.not_false]
        | true =>
            refine Or.inr (Or.inr ⟨false, if findsSurrogate (rest.take 5)
              then { escapes with surrogate := true }
              else { escapes with unicode := true }, ?_⟩)
            rw [scan]
            simp only [if_neg control, if_false, if_true, if_pos unicode, hex,
              Bool.not_true, Bool.false_eq_true]
            split
            · rfl
            · rfl
      · cases known : isEscape char with
        | false =>
            refine Or.inl
              ⟨idxOf str (char :: rest),
                ascii "invalid escape char '" ++ [char] ++
                  ascii "' in string", ?_⟩
            rw [scan]
            simp only [if_neg control, if_true, if_neg unicode, known,
              Bool.not_false]
        | true =>
            refine Or.inr (Or.inr
              ⟨false, { escapes with escape := true }, ?_⟩)
            rw [scan]
            simp only [if_neg control, if_false, if_true, if_neg unicode, known,
              Bool.not_true, Bool.false_eq_true]

theorem scan_shallow
    (str opening : Bytes) (escaped : Bool) (escapes : Escapes)
    (text : Bytes) :
    Shallow (scan str opening escaped escapes text) := by
  induction text generalizing escaped escapes with
  | nil => exact shallow_decodeError _ _ _
  | cons char rest induction =>
      rcases scan_cons_cases str opening escaped escapes char rest with
        ⟨idx, message, fails⟩ | ends | ⟨escaped', escapes', goes⟩
      · rw [fails]
        exact shallow_decodeError _ _ _
      · rw [ends]
        exact Avoids.ok _
      · rw [goes]
        exact (induction escaped' escapes').map _

theorem codepointToUtf8_shallow (codepoint : Int) :
    Shallow (codepointToUtf8 codepoint) := by
  rw [codepointToUtf8]
  dsimp only
  split_ifs
  all_goals
    intro same
    cases same

theorem parseUnicodeEscape_shallow (found : Bytes) :
    Shallow (parseUnicodeEscape lua found) := by
  rw [parseUnicodeEscape]
  split
  · exact codepointToUtf8_shallow _
  · intro same
    cases same
  · exact codepointToUtf8_shallow _
  · intro same
    cases same

theorem gsub_shallow
    {width : Nat} {accepts : Bytes → Bool}
    {replace : Bytes → Except Failure Bytes}
    (replaces : ∀ found, Shallow (replace found))
    (passing : Nat) (text : Bytes) :
    Shallow (gsub width accepts replace passing text) := by
  induction text generalizing passing with
  | nil =>
      rw [gsub]
      exact Avoids.ok []
  | cons char rest induction =>
      cases passing with
      | succ passing =>
          rw [gsub]
          exact induction passing
      | zero =>
          rw [gsub]
          split
          · refine (replaces _).bind fun replaced _ => ?_
            refine (induction _).bind fun later _ => ?_
            exact Avoids.ok _
          · exact (induction 0).map _

theorem unescape_shallow (escapes : Escapes) (raw : Bytes) :
    Shallow (unescape lua escapes raw) := by
  have made {called : Bool} {replaced : Except Failure Bytes}
      (shallow : Shallow replaced) (text : Bytes) :
      Shallow (if called then replaced else pure text) := by
    cases called with
    | true => exact shallow
    | false => exact Avoids.ok text
  rw [unescape_eq]
  refine (made (gsub_shallow parseUnicodeEscape_shallow 0 raw) raw).bind
    fun paired _ => ?_
  refine (made (gsub_shallow parseUnicodeEscape_shallow 0 paired)
    paired).bind fun decoded _ => ?_
  exact made (gsub_shallow (fun found => Avoids.ok _) 0 decoded) decoded

theorem parseString_shallow (str text : Bytes) :
    Shallow (parseString lua str text) := by
  rw [parseString]
  refine (scan_shallow _ _ _ _ _).bind fun found _ => ?_
  refine (unescape_shallow _ _).bind fun string _ => ?_
  exact Avoids.ok _

theorem parseKey_shallow (str text : Bytes) :
    Shallow (parseKey lua str text) := by
  rw [parseKey]
  split
  · refine (parseString_shallow _ _).bind fun found _ => ?_
    split
    · exact Avoids.ok _
    · exact shallow_decodeError _ _ _
  · exact shallow_decodeError _ _ _

theorem goOn_shallow
    {Item : Type} {str message : Bytes} {close : UInt8} {item : Item}
    {further : Bytes → Except Failure (List Item × Bytes)} {rest : Bytes}
    (shallow : ∀ later, rest = 44 :: later → Shallow (further later)) :
    Shallow (goOn str close message item further rest) := by
  rw [goOn]
  split_ifs with closes comma
  · exact Avoids.ok _
  · rcases List.head?_eq_some_iff.mp comma with ⟨later, rfl⟩
    exact (shallow later rfl).map _
  · exact shallow_decodeError _ _ _

/-- No call at a depth runs out of it. -/
structure Bottomless (lua : Lua Number) (str : Bytes) (depth : Nat) :
    Prop where
  value (text : Bytes) :
    2 * text.length + 1 ≤ depth → Shallow (parse lua str depth text)
  items (text : Bytes) :
    2 * text.length + 2 ≤ depth → Shallow (parseArray lua str depth text)
  members (text : Bytes) :
    2 * text.length + 2 ≤ depth → Shallow (parseObject lua str depth text)

section Bottomless

variable {str : Bytes} {depth : Nat}

theorem parseNumber_shallow (text : Bytes) :
    Shallow (parseNumber lua str text) := by
  rw [parseNumber]
  split
  · exact Avoids.ok _
  · exact shallow_decodeError _ _ _

theorem parseLiteral_shallow (text : Bytes) :
    Shallow
      (parseLiteral str text : Except Failure (Value Number × Bytes)) := by
  rw [parseLiteral]
  split
  · exact Avoids.ok _
  · exact shallow_decodeError _ _ _

theorem Bottomless.parse_succ
    (below : Bottomless lua str depth) (text : Bytes)
    (deep : 2 * text.length + 1 ≤ depth + 1) :
    Shallow (parse lua str (depth + 1) text) := by
  cases text with
  | nil =>
      rw [parse]
      exact shallow_decodeError _ _ _
  | cons char tail =>
      rw [List.length_cons] at deep
      rw [parse]
      split_ifs
      · exact (parseString_shallow _ _).map _
      · exact parseNumber_shallow _
      · exact parseLiteral_shallow _
      · exact (below.items tail (by omega)).map _
      · exact (below.members tail (by omega)).map _
      · exact shallow_decodeError _ _ _

theorem Bottomless.parseArray_succ
    (below : Bottomless lua str depth) (text : Bytes)
    (deep : 2 * text.length + 2 ≤ depth + 1) :
    Shallow (parseArray lua str (depth + 1) text) := by
  have shorter := length_skip_le text
  rw [Json.parseArray_succ]
  split
  · exact Avoids.ok _
  · refine (below.value _ (by omega)).bind fun found parsed => ?_
    refine goOn_shallow fun later behind => below.items later ?_
    have read := ((sound lua str depth).value parsed).shorter
    have left := length_skip_le found.2
    rw [behind, List.length_cons] at left
    omega

theorem Bottomless.parseObject_succ
    (below : Bottomless lua str depth) (text : Bytes)
    (deep : 2 * text.length + 2 ≤ depth + 1) :
    Shallow (parseObject lua str (depth + 1) text) := by
  have shorter := length_skip_le text
  rw [Json.parseObject_succ]
  split
  · exact Avoids.ok _
  · refine (parseKey_shallow _ _).bind fun key named => ?_
    have name := (parseKey_eq_ok_iff.mp named).1.shorter
    refine (below.value _ (by omega)).bind fun found parsed => ?_
    refine goOn_shallow fun later behind => below.members later ?_
    have read := ((sound lua str depth).value parsed).shorter
    have left := length_skip_le found.2
    rw [behind, List.length_cons] at left
    omega

theorem bottomless (lua : Lua Number) (str : Bytes) (depth : Nat) :
    Bottomless lua str depth := by
  induction depth with
  | zero =>
      exact ⟨fun _ deep => by omega, fun _ deep => by omega,
        fun _ deep => by omega⟩
  | succ depth induction =>
      exact ⟨induction.parse_succ, induction.parseArray_succ,
        induction.parseObject_succ⟩

end Bottomless

/-! ## Whole texts -/

/-- A whole text is read as a value, with entries of tables as ruled. -/
def ReadsWhole (lua : Lua Number) (tables : Tables Number) (str : Bytes)
    (value : Value Number) : Prop :=
  ∃ gap text rest,
    Blank gap ∧ Blank rest ∧ str = gap ++ text ∧
      Reads lua tables text (.value value) rest

/-- The language: what texts denote, entries of tables in any order. -/
def Denotes (lua : Lua Number) : Bytes → Value Number → Prop :=
  ReadsWhole lua anyOrder

theorem decode_shallow (str : Bytes) : Shallow (decode lua str) := by
  have shorter := length_skip_le str
  rw [decode]
  refine Avoids.bind ((bottomless lua str _).value _ (by omega))
    fun found _ => ?_
  dsimp only
  split
  · exact shallow_decodeError _ _ _
  · exact Avoids.ok _

theorem decode_eq_ok_iff {str : Bytes} {value : Value Number} :
    decode lua str = .ok value ↔ ReadsWhole lua asEntered str value := by
  constructor
  · intro done
    rw [decode] at done
    rcases exists_of_bind_eq_ok done with ⟨found, parsed, ends⟩
    dsimp only at ends
    split_ifs at ends with garbage
    · cases ends
    · cases ends
      rcases exists_skip str with ⟨gap, blank, split⟩
      exact ⟨gap, skip str, found.2, blank,
        skip_eq_nil_iff.mp (not_not.mp garbage), split,
        (sound lua str _).value parsed⟩
  · rintro ⟨gap, text, rest, blank, blankRest, rfl, reads⟩
    have parsed := reads.accepted (gap ++ text)
      (2 * (gap ++ text).length + 2)
      (by rw [List.length_append]; omega)
    rw [decode, skip_append blank reads.visible, parsed]
    change (if skip rest ≠ [] then _ else _) = _
    rw [skip_eq_nil_iff.mpr blankRest, if_neg (not_not.mpr rfl)]
    rfl

theorem denotes_of_decode
    {str : Bytes} {value : Value Number}
    (done : decode lua str = .ok value) : Denotes lua str value := by
  rcases decode_eq_ok_iff.mp done with
    ⟨gap, text, rest, blank, blankRest, split, reads⟩
  exact ⟨gap, text, rest, blank, blankRest, split, reads.inAnyOrder⟩

theorem exists_decode_of_denotes
    {str : Bytes} {value : Value Number} (denotes : Denotes lua str value) :
    ∃ found, decode lua str = .ok found ∧ Same found value := by
  rcases denotes with ⟨gap, text, rest, blank, blankRest, split, reads⟩
  rcases reads.exists_asEntered with ⟨_, same, read⟩
  cases same with
  | value same =>
      exact ⟨_, decode_eq_ok_iff.mpr
        ⟨gap, text, rest, blank, blankRest, split, read⟩, same⟩

/--
`json.decode` accepts exactly the texts of the language, with the values they
denote up to the order of the entries of tables, and never runs out of depth.
-/
theorem decode_accepts_exactly (lua : Lua Number) (str : Bytes) :
    decode lua str ≠ .error .depth ∧
      (∀ value, decode lua str = .ok value → Denotes lua str value) ∧
      ∀ value, Denotes lua str value →
        ∃ found, decode lua str = .ok found ∧ Same found value :=
  ⟨decode_shallow str, fun _ => denotes_of_decode,
    fun _ => exists_decode_of_denotes⟩

/-- A Lua with whole numbers only. -/
def wholeLua : Lua Nat where
  tonumber text :=
    if text ≠ [] ∧ text.all (fun char => 48 ≤ char && char ≤ 57) then
      some (text.foldl (fun value char => 10 * value + (char.toNat - 48)) 0)
    else
      none
  tonumberHex digits :=
    if digits ≠ [] ∧ digits.all isHex then some (hexValue digits : Int)
    else none
  format := decimal
  tostring := decimal
  isFinite _ := true
  length entries := entries.length

/--
`{"a":1,"b":null, "a":["\n\u0041",2,]} ` denotes what is written as
`{"a":["\nA",2]}`.
-/
theorem decode_accepts_exactly_sample :
    ∃ value,
      Denotes wholeLua
          (ascii
            "\x7b\"a\":1,\"b\":null, \"a\":[\"\\n\\u0041\",2,]\x7d ")
          value ∧
        encode wholeLua value =
          .ok (ascii "\x7b\"a\":[\"\\nA\",2]\x7d") := by
  have written :
      (decode wholeLua
          (ascii
            "\x7b\"a\":1,\"b\":null, \"a\":[\"\\n\\u0041\",2,]\x7d ") >>=
        encode wholeLua) =
          .ok (ascii "\x7b\"a\":[\"\\nA\",2]\x7d") := by
    decide +kernel
  rcases exists_of_bind_eq_ok written with ⟨value, done, encoded⟩
  exact ⟨value, (decode_accepts_exactly wholeLua _).2.1 value done, encoded⟩

end ZnsBench.Workload.Json

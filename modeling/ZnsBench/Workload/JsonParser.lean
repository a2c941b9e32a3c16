import ZnsBench.Workload.JsonLanguage

/-!
# The parser and its language

Each loop of the parser is cut into the part up to an item and the part behind
it.  What `parse`, `parse_array` and `parse_object` accept is in the language,
by induction on the depth, and what is in the language they accept at every
depth of more than twice the length of the text.
-/

namespace ZnsBench.Workload.Json

open ZnsBench.Core.ByteString ZnsBench.Core.Fallible

variable {Number : Type} {lua : Lua Number}

/-! ## The loops, cut into their parts -/

/-- `parse_object` up to the value of a member. -/
def parseKey (lua : Lua Number) (str text : Bytes) :
    Except Failure (Bytes × Bytes) :=
  if text.head? = some 34 then
    parseString lua str text >>= fun found =>
      if (skip found.2).head? = some 58 then
        .ok (found.1, skip (skip found.2).tail)
      else
        .error (decodeError str (idxOf str (skip found.2))
          (ascii "expected ':' after key"))
  else
    .error (decodeError str (idxOf str text)
      (ascii "expected string for key"))

/-- The end of a turn of both loops: the bracket, a comma or an error. -/
def goOn {Item : Type} (str : Bytes) (close : UInt8) (message : Bytes)
    (item : Item) (further : Bytes → Except Failure (List Item × Bytes))
    (rest : Bytes) : Except Failure (List Item × Bytes) :=
  if rest.head? = some close then
    .ok ([item], rest.tail)
  else if rest.head? = some 44 then
    (further rest.tail).map fun found => (item :: found.1, found.2)
  else
    .error (decodeError str (idxOf str rest + 1) message)

theorem parseArray_succ (str : Bytes) (depth : Nat) (text : Bytes) :
    parseArray lua str (depth + 1) text =
      if (skip text).head? = some 93 then
        .ok ([], (skip text).tail)
      else
        parse lua str depth (skip text) >>= fun found =>
          goOn str 93 (ascii "expected ']' or ','") found.1
            (parseArray lua str depth) (skip found.2) := by
  rw [parseArray]
  refine if_congr Iff.rfl rfl ?_
  refine bind_congr fun found => ?_
  rw [goOn]
  refine if_congr Iff.rfl rfl ?_
  by_cases comma : (skip found.2).head? = some 44
  · simp only [comma, ne_eq, not_true_eq_false, if_false, if_true]
    cases parseArray lua str depth (skip found.2).tail with
    | error failure => rfl
    | ok more => rfl
  · simp only [comma, ne_eq, not_false_eq_true, if_true, if_false]
    rfl

theorem parseObject_succ (str : Bytes) (depth : Nat) (text : Bytes) :
    parseObject lua str (depth + 1) text =
      if (skip text).head? = some 125 then
        .ok ([], (skip text).tail)
      else
        parseKey lua str (skip text) >>= fun key =>
          parse lua str depth key.2 >>= fun value =>
            goOn str 125 (ascii "expected '\x7d' or ','") (key.1, value.1)
              (parseObject lua str depth) (skip value.2) := by
  rw [parseObject]
  refine if_congr Iff.rfl rfl ?_
  rw [parseKey]
  by_cases quote : (skip text).head? = some 34
  · simp only [quote, ne_eq, not_true_eq_false, if_false, if_true, bind_assoc]
    refine bind_congr fun key => ?_
    by_cases colon : (skip key.2).head? = some 58
    · simp only [colon, not_true_eq_false, if_false, if_true]
      refine bind_congr fun value => ?_
      rw [goOn]
      refine if_congr Iff.rfl rfl ?_
      by_cases comma : (skip value.2).head? = some 44
      · simp only [comma, not_true_eq_false, if_false, if_true]
        cases parseObject lua str depth (skip value.2).tail with
        | error failure => rfl
        | ok more => rfl
      · simp only [comma, not_false_eq_true, if_true, if_false]
        rfl
    · simp only [colon, not_false_eq_true, if_true, if_false]
      rfl
  · simp only [quote, ne_eq, not_false_eq_true, if_true, if_false]
    rfl

/-- The key of a member, as the parser reads it. -/
theorem parseKey_eq_ok_iff {str text key rest : Bytes} :
    parseKey lua str text = .ok (key, rest) ↔
      ReadsKey lua text key rest ∧ Visible rest := by
  constructor
  · intro done
    rw [parseKey] at done
    split_ifs at done with quote
    rcases List.head?_eq_some_iff.mp quote with ⟨quoted, rfl⟩
    rcases exists_of_bind_eq_ok done with ⟨found, parsed, named⟩
    split_ifs at named with colon
    cases named
    rcases List.head?_eq_some_iff.mp colon with ⟨tail, behind⟩
    rcases exists_skip found.2 with ⟨before, blankBefore, split⟩
    rcases exists_skip tail with ⟨after, blankAfter, splitAfter⟩
    refine ⟨⟨quoted, before, after, rfl, blankBefore, blankAfter, ?_⟩,
      visible_skip _⟩
    rw [behind, List.tail_cons, ← splitAfter, ← behind, ← split]
    exact parseString_eq_ok_iff.mp parsed
  · rintro ⟨⟨quoted, before, after, rfl, blankBefore, blankAfter, parsed⟩,
      visible⟩
    have colon : skip (before ++ 58 :: (after ++ rest)) =
        58 :: (after ++ rest) :=
      skip_append blankBefore (visible_cons rfl _)
    rw [parseKey, List.head?_cons, if_pos rfl,
      parseString_eq_ok_iff.mpr parsed]
    change (if (skip (before ++ 58 :: (after ++ rest))).head? = some 58
      then _ else _) = _
    rw [colon, List.head?_cons, if_pos rfl, List.tail_cons,
      skip_append blankAfter visible]

section GoOn

variable {Item : Type} {str message : Bytes} {close : UInt8} {item : Item}
  {further : Bytes → Except Failure (List Item × Bytes)}

theorem goOn_eq_ok_iff
    {rest left : Bytes} {items : List Item} (differs : close ≠ 44) :
    goOn str close message item further rest = .ok (items, left) ↔
      (rest = close :: left ∧ items = [item]) ∨
        ∃ later more, rest = 44 :: later ∧
          further later = .ok (more, left) ∧ items = item :: more := by
  constructor
  · intro done
    rw [goOn] at done
    split_ifs at done with closes comma
    · rcases List.head?_eq_some_iff.mp closes with ⟨tail, rfl⟩
      cases done
      exact Or.inl ⟨rfl, rfl⟩
    · rcases List.head?_eq_some_iff.mp comma with ⟨later, rfl⟩
      rw [List.tail_cons] at done
      rcases exists_of_map_eq_ok done with ⟨found, parsed, same⟩
      cases same
      exact Or.inr ⟨later, found.1, rfl, parsed, rfl⟩
  · rintro (⟨rfl, rfl⟩ | ⟨later, more, rfl, parsed, rfl⟩)
    · exact if_pos rfl
    · have opened : ¬ (44 :: later).head? = some close := fun same =>
        differs (Option.some.inj same).symm
      rw [goOn, if_neg opened, List.head?_cons, if_pos rfl, List.tail_cons,
        parsed]
      rfl

end GoOn

/-! ## What is accepted is in the language -/

/-- What the parser accepts at a depth is in the language. -/
structure Sound (lua : Lua Number) (str : Bytes) (depth : Nat) : Prop where
  value {text rest : Bytes} {value : Value Number} :
    parse lua str depth text = .ok (value, rest) →
      Reads lua asEntered text (.value value) rest
  items {text rest : Bytes} {items : List (Value Number)} :
    parseArray lua str depth text = .ok (items, rest) →
      Reads lua asEntered text (.items items) rest
  members {text rest : Bytes} {members : List (Bytes × Value Number)} :
    parseObject lua str depth text = .ok (members, rest) →
      Reads lua asEntered text (.members members) rest

section Sound

variable {str : Bytes} {depth : Nat}

theorem parseNumber_sound
    {char : UInt8} {tail rest : Bytes} {value : Value Number}
    (starts : startsNumber char = true)
    (done : parseNumber lua str (char :: tail) = .ok (value, rest)) :
    Reads lua asEntered (char :: tail) (.value value) rest := by
  rcases word_spec (char :: tail) with ⟨inside, ends, split⟩
  have first := head?_word (startsNumber_facts char starts).2 tail
  rw [parseNumber] at done
  split at done
  · rename_i number found
    cases done
    have reads : Reads lua asEntered _ _ _ :=
      Reads.number first ((startsNumber_iff char).mp starts) inside ends
        found
    rwa [← split] at reads
  · cases done

theorem parseLiteral_sound
    {text rest : Bytes} {value : Value Number}
    (done : parseLiteral str text = .ok (value, rest)) :
    Reads lua asEntered text (.value value) rest := by
  rcases word_spec text with ⟨_, ends, split⟩
  rw [parseLiteral] at done
  split at done
  · rename_i found
    cases done
    have reads : Reads lua asEntered _ _ _ :=
      Reads.literal (literal_eq_some_iff.mp found) ends
    rwa [← split] at reads
  · cases done

theorem Sound.parse_succ
    (sound : Sound lua str depth) {text rest : Bytes}
    {value : Value Number}
    (done : parse lua str (depth + 1) text = .ok (value, rest)) :
    Reads lua asEntered text (.value value) rest := by
  cases text with
  | nil =>
      rw [parse] at done
      cases done
  | cons char tail =>
      rw [parse] at done
      split_ifs at done with quote number literal bracket brace
      · rcases exists_of_map_eq_ok done with ⟨found, parsed, same⟩
        cases same
        rw [quote] at parsed ⊢
        exact Reads.string (parseString_eq_ok_iff.mp parsed)
      · exact parseNumber_sound number done
      · exact parseLiteral_sound done
      · rcases exists_of_map_eq_ok done with ⟨found, parsed, same⟩
        cases same
        rw [bracket]
        exact Reads.array (sound.items parsed) rfl
      · rcases exists_of_map_eq_ok done with ⟨found, parsed, same⟩
        cases same
        rw [brace]
        exact Reads.object (sound.members parsed) rfl

theorem Sound.parseArray_succ
    (sound : Sound lua str depth) {text rest : Bytes}
    {items : List (Value Number)}
    (done : parseArray lua str (depth + 1) text = .ok (items, rest)) :
    Reads lua asEntered text (.items items) rest := by
  rcases exists_skip text with ⟨gap, blank, split⟩
  rw [Json.parseArray_succ] at done
  rw [split]
  split_ifs at done with closes
  · rcases List.head?_eq_some_iff.mp closes with ⟨tail, same⟩
    rw [same] at done ⊢
    cases done
    exact Reads.noItem blank
  · rcases exists_of_bind_eq_ok done with ⟨found, parsed, goes⟩
    rcases exists_skip found.2 with ⟨after, blankAfter, splitAfter⟩
    have item := sound.value parsed
    rcases (goOn_eq_ok_iff (by decide)).mp goes with
      ⟨behind, rfl⟩ | ⟨later, more, behind, others, rfl⟩
    · rw [splitAfter, behind] at item
      exact Reads.lastItem blank item blankAfter
    · rw [splitAfter, behind] at item
      exact Reads.nextItem blank item blankAfter (sound.items others)

theorem Sound.parseObject_succ
    (sound : Sound lua str depth) {text rest : Bytes}
    {members : List (Bytes × Value Number)}
    (done : parseObject lua str (depth + 1) text = .ok (members, rest)) :
    Reads lua asEntered text (.members members) rest := by
  rcases exists_skip text with ⟨gap, blank, split⟩
  rw [Json.parseObject_succ] at done
  rw [split]
  split_ifs at done with closes
  · rcases List.head?_eq_some_iff.mp closes with ⟨tail, same⟩
    rw [same] at done ⊢
    cases done
    exact Reads.noMember blank
  · rcases exists_of_bind_eq_ok done with ⟨key, named, reads⟩
    rcases exists_of_bind_eq_ok reads with ⟨found, parsed, goes⟩
    rcases exists_skip found.2 with ⟨after, blankAfter, splitAfter⟩
    have name := (parseKey_eq_ok_iff.mp named).1
    have value := sound.value parsed
    rcases (goOn_eq_ok_iff (by decide)).mp goes with
      ⟨behind, rfl⟩ | ⟨later, more, behind, others, rfl⟩
    · rw [splitAfter, behind] at value
      exact Reads.lastMember blank name value blankAfter
    · rw [splitAfter, behind] at value
      exact Reads.nextMember blank name value blankAfter
        (sound.members others)

theorem sound (lua : Lua Number) (str : Bytes) (depth : Nat) :
    Sound lua str depth := by
  induction depth with
  | zero =>
      refine ⟨fun done => ?_, fun done => ?_, fun done => ?_⟩
      · rw [parse] at done
        cases done
      · rw [parseArray] at done
        cases done
      · rw [parseObject] at done
        cases done
  | succ depth induction =>
      exact ⟨induction.parse_succ, induction.parseArray_succ,
        induction.parseObject_succ⟩

end Sound

/-! ## What is in the language is accepted -/

/-- The parser reads a text so, at every sufficient depth. -/
def Accepted (lua : Lua Number) (str text : Bytes) (rest : Bytes) :
    Parsed Number → Prop
  | .value value => ∀ depth, 2 * text.length + 1 ≤ depth →
      parse lua str depth text = .ok (value, rest)
  | .items items => ∀ depth, 2 * text.length + 2 ≤ depth →
      parseArray lua str depth text = .ok (items, rest)
  | .members members => ∀ depth, 2 * text.length + 2 ≤ depth →
      parseObject lua str depth text = .ok (members, rest)

section Accepted

variable {str : Bytes} {depth : Nat}

theorem parse_number
    {char : UInt8} (starts : startsNumber char = true) (tail : Bytes) :
    parse lua str (depth + 1) (char :: tail) =
      parseNumber lua str (char :: tail) := by
  rw [parse, if_neg (startsNumber_facts char starts).1, if_pos starts]

theorem parse_literal
    {char : UInt8} (starts : startsLiteral char = true) (tail : Bytes) :
    parse lua str (depth + 1) (char :: tail) =
      parseLiteral str (char :: tail) := by
  rcases startsLiteral_facts char starts with ⟨quote, number⟩
  rw [parse, if_neg quote, if_neg (Bool.eq_false_iff.mp number),
    if_pos starts]

/-- The first item is read and the loop goes on behind it. -/
theorem parseArray_item
    {gap text after : Bytes} {item : Value Number}
    (blank : Blank gap) (reads : Reads lua asEntered text (.value item) after)
    (accepted : parse lua str depth text = .ok (item, after)) :
    parseArray lua str (depth + 1) (gap ++ text) =
      goOn str 93 (ascii "expected ']' or ','") item
        (parseArray lua str depth) (skip after) := by
  rcases reads.starts with ⟨char, tail, rfl, starts⟩
  have opened : ¬ (char :: tail).head? = some 93 := fun same =>
    (starts_facts char starts).2.1 (Option.some.inj same)
  rw [parseArray_succ, skip_append blank reads.visible, if_neg opened,
    accepted]
  rfl

theorem parseObject_member
    {gap text key valueText after : Bytes} {value : Value Number}
    (blank : Blank gap) (named : ReadsKey lua text key valueText)
    (reads : Reads lua asEntered valueText (.value value) after)
    (accepted : parse lua str depth valueText = .ok (value, after)) :
    parseObject lua str (depth + 1) (gap ++ text) =
      goOn str 125 (ascii "expected '\x7d' or ','") (key, value)
        (parseObject lua str depth) (skip after) := by
  have parsed : parseKey lua str text = .ok (key, valueText) :=
    parseKey_eq_ok_iff.mpr ⟨named, reads.visible⟩
  rcases List.head?_eq_some_iff.mp named.quote with ⟨quoted, rfl⟩
  have opened : ¬ (34 :: quoted).head? = some 125 := by
    rw [List.head?_cons]
    decide
  rw [parseObject_succ, skip_append blank (visible_cons rfl _),
    if_neg opened, parsed]
  change (parse lua str depth valueText >>= _) = _
  rw [accepted]
  rfl

theorem skip_token
    {gap : Bytes} {char : UInt8} (blank : Blank gap)
    (visible : isSpace char = false) (rest : Bytes) :
    skip (gap ++ char :: rest) = char :: rest :=
  skip_append blank (visible_cons visible rest)

/-- The depth that a step of the parser leaves. -/
theorem exists_succ {size depth : Nat} (deep : size + 1 ≤ depth) :
    ∃ below, depth = below + 1 ∧ size ≤ below :=
  ⟨depth - 1, by omega, by omega⟩

theorem Reads.accepted
    {text rest : Bytes} {parsed : Parsed Number}
    (reads : Reads lua asEntered text parsed rest) (str : Bytes) :
    Accepted lua str text rest parsed := by
  induction reads with
  | string parsed =>
      intro depth deep
      rcases exists_succ deep with ⟨below, rfl, _⟩
      rw [parse, if_pos rfl, parseString_eq_ok_iff.mpr parsed]
      rfl
  | @number char text rest value first starts inside ends found =>
      intro depth deep
      rcases exists_succ deep with ⟨below, rfl, _⟩
      rcases List.head?_eq_some_iff.mp first with ⟨tail, rfl⟩
      have isNumber := (startsNumber_iff char).mpr starts
      rw [List.cons_append, parse_number isNumber, ← List.cons_append,
        parseNumber, word_append inside ends]
      simp only [found]
  | literal found ends =>
      intro depth deep
      rcases exists_succ deep with ⟨below, rfl, _⟩
      rcases found.facts with ⟨inside, char, tail, rfl, starts⟩
      rw [List.cons_append, parse_literal starts, ← List.cons_append,
        parseLiteral, word_append inside ends]
      simp only [literal_eq_some_iff.mpr found]
  | array _ entered accepted =>
      intro depth deep
      rcases exists_succ deep with ⟨below, rfl, enough⟩
      rw [List.length_cons] at enough
      have items := accepted below (by omega)
      rw [parse, items, entered]
      rfl
  | object _ entered accepted =>
      intro depth deep
      rcases exists_succ deep with ⟨below, rfl, enough⟩
      rw [List.length_cons] at enough
      have members := accepted below (by omega)
      rw [parse, members, entered]
      rfl
  | noItem blank =>
      intro depth deep
      rcases exists_succ deep with ⟨below, rfl, _⟩
      rw [parseArray_succ, skip_token blank rfl]
      rfl
  | lastItem blank reads blankAfter accepted =>
      intro depth deep
      rcases exists_succ deep with ⟨below, rfl, enough⟩
      rw [List.length_append] at enough
      rw [parseArray_item blank reads (accepted below (by omega)),
        skip_token blankAfter rfl]
      exact (goOn_eq_ok_iff (by decide)).mpr (Or.inl ⟨rfl, rfl⟩)
  | nextItem blank reads blankAfter _ accepted further =>
      intro depth deep
      rcases exists_succ deep with ⟨below, rfl, enough⟩
      have shorter := reads.shorter
      rw [List.length_append, List.length_cons] at shorter
      rw [List.length_append] at enough
      rw [parseArray_item blank reads (accepted below (by omega)),
        skip_token blankAfter rfl]
      exact (goOn_eq_ok_iff (by decide)).mpr
        (Or.inr ⟨_, _, rfl, further below (by omega), rfl⟩)
  | noMember blank =>
      intro depth deep
      rcases exists_succ deep with ⟨below, rfl, _⟩
      rw [parseObject_succ, skip_token blank rfl]
      rfl
  | lastMember blank key reads blankAfter accepted =>
      intro depth deep
      rcases exists_succ deep with ⟨below, rfl, enough⟩
      have behind := key.shorter
      rw [List.length_append] at enough
      rw [parseObject_member blank key reads (accepted below (by omega)),
        skip_token blankAfter rfl]
      exact (goOn_eq_ok_iff (by decide)).mpr (Or.inl ⟨rfl, rfl⟩)
  | nextMember blank key reads blankAfter _ accepted further =>
      intro depth deep
      rcases exists_succ deep with ⟨below, rfl, enough⟩
      have behind := key.shorter
      have shorter := reads.shorter
      rw [List.length_append, List.length_cons] at shorter
      rw [List.length_append] at enough
      rw [parseObject_member blank key reads (accepted below (by omega)),
        skip_token blankAfter rfl]
      exact (goOn_eq_ok_iff (by decide)).mpr
        (Or.inr ⟨_, _, rfl, further below (by omega), rfl⟩)

end Accepted

end ZnsBench.Workload.Json

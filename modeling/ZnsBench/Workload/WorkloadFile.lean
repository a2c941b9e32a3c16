import ZnsBench.Workload.ConsistencyWorkload

/-!
# Workload files

A workload file has one request a line: a method, a URL and possibly the size
of the body, with white space between them.  Blank lines and lines of a single
word may stand anywhere.  The types of this module can only be built from
well-formed parts, so that every `Line` has a text and every text of lines is
a workload file.

The pattern of `init` is neither anchored nor does it say where a field ends.
It still reads every line back exactly, because a greedy run of a class cannot
be continued by a symbol of another class; and a line that holds a single word
has no second word for it to find.
-/

namespace ZnsBench.Workload.WorkloadFile

open ZnsBench.Core.ByteString
open ZnsBench.Core.GreedyPattern
open ZnsBench.Core.IntegerDouble
open ZnsBench.Workload.ConsistencyWorkload

/-! ## Fields and lines -/

/-- A word: at least one byte, none of them white space. -/
structure Token where
  text : Bytes
  nonempty : text ≠ []
  solid : Admitted isSolid text

/-- Blanks, tabs and any other white space inside a line. -/
structure Blanks where
  text : Bytes
  blank : Admitted isSpace text
  inLine : newline ∉ text

/-- The white space between two fields. -/
structure Gap extends Blanks where
  nonempty : text ≠ []

/-- A decimal numeral below `2 ^ 31`. -/
structure Numeral where
  digits : Bytes
  nonempty : digits ≠ []
  decimal : Admitted isDigit digits
  small : numeralValue digits < 2 ^ 31

/-- A request of the workload. -/
structure Entry where
  method : Token
  url : Token
  size : Option Numeral

/-- The size of an entry, zero when there is none. -/
def Entry.bytes (entry : Entry) : Nat :=
  match entry.size with
  | some numeral => numeralValue numeral.digits
  | none => 0

/-- The entry as a Lua table. -/
def Entry.parsed (entry : Entry) : Parsed :=
  ⟨entry.method.text, entry.url.text, .finite entry.bytes⟩

/-- The white space of an entry's line. -/
structure Layout where
  before : Blanks
  afterMethod : Gap
  beforeSize : Gap
  after : Blanks

/-- A line of a workload file. -/
inductive Line where
  | request (entry : Entry) (layout : Layout)
  | blank (white : Blanks)
  | oneToken (before : Blanks) (token : Token) (after : Blanks)

/-- What follows the URL. -/
def Entry.sizeText (entry : Entry) (layout : Layout) : Bytes :=
  match entry.size with
  | some numeral =>
      layout.beforeSize.text ++ (numeral.digits ++ layout.after.text)
  | none => layout.after.text

/-- The bytes of a line. -/
def Line.text : Line → Bytes
  | .request entry layout =>
      layout.before.text ++
        (entry.method.text ++
          (layout.afterMethod.text ++
            (entry.url.text ++ entry.sizeText layout)))
  | .blank white => white.text
  | .oneToken before token after =>
      before.text ++ (token.text ++ after.text)

/-- The entry of a line that has one. -/
def Line.toEntry : Line → Option Entry
  | .request entry _ => some entry
  | .blank _ => none
  | .oneToken _ _ _ => none

/-- The entries of a file in order. -/
def entries (lines : List Line) : List Entry := lines.filterMap Line.toEntry

/-- The text of a file; the last line may lack its newline. -/
def fileText (lines : List Line) (closed : Bool) : Bytes :=
  [newline].intercalate (lines.map Line.text) ++
    if closed then [newline] else []

/-! ## Classes of bytes -/

theorem isSpace_of_isSolid {byte : UInt8} (solid : isSolid byte = true) :
    isSpace byte = false := by
  simpa [isSolid] using solid

theorem isSolid_of_isSpace {byte : UInt8} (space : isSpace byte = true) :
    isSolid byte = false := by
  rw [isSolid, space]
  rfl

theorem isDigit_of_isSpace {byte : UInt8} (space : isSpace byte = true) :
    isDigit byte = false := by
  simp only [isSpace, isDigit, decide_eq_true_eq, decide_eq_false_iff_not,
    UInt8.le_iff_toNat_le, ← UInt8.toNat_inj, UInt8.reduceToNat] at space ⊢
  omega

theorem isSpace_of_isDigit {byte : UInt8} (digit : isDigit byte = true) :
    isSpace byte = false := by
  cases space : isSpace byte with
  | false => rfl
  | true => exact absurd digit (by rw [isDigit_of_isSpace space]; simp)

/-- A run of one class stops another one. -/
theorem stops_of_forall
    {admits : UInt8 → Bool} {rest : Bytes}
    (refused : ∀ byte ∈ rest, admits byte = false) :
    Stops admits rest :=
  fun byte member => refused byte (List.mem_of_mem_head? member)

theorem stops_append
    {admits : UInt8 → Bool} {run : Bytes} (nonempty : run ≠ [])
    (refused : ∀ byte ∈ run, admits byte = false) (rest : Bytes) :
    Stops admits (run ++ rest) := by
  cases run with
  | nil => exact absurd rfl nonempty
  | cons byte run =>
      intro first member
      cases member
      exact refused byte List.mem_cons_self

/-! ## Lines with an entry -/

/-- White space, then digits, at the end of a line. -/
theorem matchItems_size
    {white digits rest : Bytes}
    (blank : Admitted isSpace white) (decimal : Admitted isDigit digits)
    (whiteStops : Stops isSpace (digits ++ rest))
    (digitsStop : Stops isDigit rest) :
    matchItems [⟨isSpace, .star, false⟩, ⟨isDigit, .star, true⟩]
        (white ++ (digits ++ rest)) =
      some [digits] := by
  have size :
      matchItems [⟨isDigit, .star, true⟩] (digits ++ rest) =
        some [digits] :=
    matchItems_cons_of_stops decimal (by simp) digitsStop rfl
  exact matchItems_cons_of_stops blank (by simp) whiteStops size

/-- The digits of the size, or none, are what is captured behind the URL. -/
@[simp]
theorem matchItems_sizeText (entry : Entry) (layout : Layout) :
    matchItems [⟨isSpace, .star, false⟩, ⟨isDigit, .star, true⟩]
        (entry.sizeText layout) =
      some [(entry.size.map Numeral.digits).getD []] := by
  unfold Entry.sizeText
  cases entry.size with
  | none =>
      have whole := matchItems_size layout.after.blank (admitted_nil isDigit)
        (stops_nil isSpace) (stops_nil isDigit)
      rwa [List.append_nil, List.append_nil] at whole
  | some numeral =>
      exact matchItems_size layout.beforeSize.blank numeral.decimal
        (stops_append numeral.nonempty
          (fun byte member => isSpace_of_isDigit (numeral.decimal byte member))
          _)
        (stops_of_forall fun byte member =>
          isDigit_of_isSpace (layout.after.blank byte member))

/-- The URL ends where the size text begins. -/
theorem stops_sizeText (entry : Entry) (layout : Layout) :
    Stops isSolid (entry.sizeText layout) := by
  unfold Entry.sizeText
  cases entry.size with
  | none =>
      exact stops_of_forall fun byte member =>
        isSolid_of_isSpace (layout.after.blank byte member)
  | some numeral =>
      exact stops_append layout.beforeSize.nonempty
        (fun byte member =>
          isSolid_of_isSpace (layout.beforeSize.blank byte member)) _

@[simp]
theorem search_request (entry : Entry) (layout : Layout) :
    search linePattern (Line.request entry layout).text =
      some
        [entry.method.text, entry.url.text,
          (entry.size.map Numeral.digits).getD []] := by
  -- The fields are matched from the last one to the first.
  have url :
      matchItems
          [⟨isSolid, .plus, true⟩, ⟨isSpace, .star, false⟩,
            ⟨isDigit, .star, true⟩]
          (entry.url.text ++ entry.sizeText layout) =
        some [entry.url.text, (entry.size.map Numeral.digits).getD []] :=
    matchItems_cons_of_stops entry.url.solid (fun _ => entry.url.nonempty)
      (stops_sizeText entry layout) (matchItems_sizeText entry layout)
  have gapStops :
      Stops isSpace (entry.url.text ++ entry.sizeText layout) :=
    stops_append entry.url.nonempty
      (fun byte member => isSpace_of_isSolid (entry.url.solid byte member)) _
  have gap :
      matchItems
          [⟨isSpace, .plus, false⟩, ⟨isSolid, .plus, true⟩,
            ⟨isSpace, .star, false⟩, ⟨isDigit, .star, true⟩]
          (layout.afterMethod.text ++
            (entry.url.text ++ entry.sizeText layout)) =
        some [entry.url.text, (entry.size.map Numeral.digits).getD []] :=
    matchItems_cons_of_stops layout.afterMethod.blank
      (fun _ => layout.afterMethod.nonempty) gapStops url
  have methodStops :
      Stops isSolid
        (layout.afterMethod.text ++
          (entry.url.text ++ entry.sizeText layout)) :=
    stops_append layout.afterMethod.nonempty
      (fun byte member =>
        isSolid_of_isSpace (layout.afterMethod.blank byte member)) _
  have method :
      matchItems linePattern
          (entry.method.text ++
            (layout.afterMethod.text ++
              (entry.url.text ++ entry.sizeText layout))) =
        some
          [entry.method.text, entry.url.text,
            (entry.size.map Numeral.digits).getD []] :=
    matchItems_cons_of_stops entry.method.solid
      (fun _ => entry.method.nonempty) methodStops gap
  rw [Line.text, linePattern,
    search_append_of_refused rfl fun byte member =>
      isSolid_of_isSpace (layout.before.blank byte member)]
  exact search_of_matchItems method

/-! ## Lines without an entry -/

/-- The pattern finds two words with white space between them. -/
theorem search_linePattern_sound
    {line : Bytes} {captures : List Bytes}
    (found : search linePattern line = some captures) :
    ∃ skipped first gap second rest,
      line = skipped ++ (first ++ (gap ++ (second ++ rest))) ∧
        (first ≠ [] ∧ Admitted isSolid first) ∧
          (gap ≠ [] ∧ Admitted isSpace gap) ∧
            (second ≠ [] ∧ Admitted isSolid second) := by
  rcases search_sound found with ⟨skipped, subject, rfl, matched⟩
  rcases matchItems_cons_sound matched with
    ⟨first, subject, _, rfl, firstSolid, firstNonempty, matched⟩
  rcases matchItems_cons_sound matched with
    ⟨gap, subject, _, rfl, gapBlank, gapNonempty, matched⟩
  rcases matchItems_cons_sound matched with
    ⟨second, rest, _, rfl, secondSolid, secondNonempty, _⟩
  exact
    ⟨skipped, first, gap, second, rest, rfl,
      ⟨firstNonempty rfl, firstSolid⟩, ⟨gapNonempty rfl, gapBlank⟩,
      ⟨secondNonempty rfl, secondSolid⟩⟩

/-- In white space around one word, only the word is no white space. -/
theorem isSolid_iff_inside
    {before word after : Bytes}
    (beforeBlank : Admitted isSpace before) (solid : Admitted isSolid word)
    (afterBlank : Admitted isSpace after)
    {position : Nat} {byte : UInt8}
    (standing : (before ++ (word ++ after))[position]? = some byte) :
    isSolid byte = true ↔
      before.length ≤ position ∧
        position < before.length + word.length := by
  rcases Nat.lt_or_ge position before.length with early | late
  · rw [List.getElem?_append_left early] at standing
    have space := beforeBlank byte (List.mem_of_getElem? standing)
    rw [isSolid_of_isSpace space]
    simp only [Bool.false_eq_true, false_iff, not_and_or]
    exact Or.inl (Nat.not_le_of_lt early)
  · rw [List.getElem?_append_right late] at standing
    rcases Nat.lt_or_ge (position - before.length) word.length with
      inside | behind
    · rw [List.getElem?_append_left inside] at standing
      have isWord := solid byte (List.mem_of_getElem? standing)
      simp only [isWord, true_iff]
      omega
    · rw [List.getElem?_append_right behind] at standing
      have space := afterBlank byte (List.mem_of_getElem? standing)
      rw [isSolid_of_isSpace space]
      simp only [Bool.false_eq_true, false_iff, not_and_or]
      right
      omega

/-- A byte of a non-empty run, where the run begins. -/
theorem exists_getElem?_append
    {admits : UInt8 → Bool} {run : Bytes} (nonempty : run ≠ [])
    (admitted : Admitted admits run) (front rest : Bytes) :
    ∃ byte,
      (front ++ (run ++ rest))[front.length]? = some byte ∧
        admits byte = true := by
  cases run with
  | nil => exact absurd rfl nonempty
  | cons byte run =>
      refine ⟨byte, ?_, (admitted_cons.mp admitted).1⟩
      rw [List.getElem?_append_right (Nat.le_refl _), Nat.sub_self]
      rfl

/-- A line of one word, or of none, is passed over. -/
theorem search_oneWord
    {before word after : Bytes}
    (beforeBlank : Admitted isSpace before) (solid : Admitted isSolid word)
    (afterBlank : Admitted isSpace after) :
    search linePattern (before ++ (word ++ after)) = none := by
  rw [Option.eq_none_iff_forall_ne_some]
  intro captures found
  rcases search_linePattern_sound found with
    ⟨skipped, first, gap, second, rest, line,
      ⟨firstNonempty, firstSolid⟩, ⟨gapNonempty, gapBlank⟩,
      ⟨secondNonempty, secondSolid⟩⟩
  rcases exists_getElem?_append firstNonempty firstSolid skipped
      (gap ++ (second ++ rest)) with
    ⟨_, firstByte, firstIs⟩
  rcases exists_getElem?_append gapNonempty gapBlank (skipped ++ first)
      (second ++ rest) with
    ⟨_, gapByte, gapIs⟩
  rcases exists_getElem?_append secondNonempty secondSolid
      (skipped ++ first ++ gap) rest with
    ⟨_, secondByte, secondIs⟩
  simp only [List.append_assoc, ← line] at firstByte gapByte secondByte
  rw [isSolid_iff_inside beforeBlank solid afterBlank firstByte] at firstIs
  rw [isSolid_iff_inside beforeBlank solid afterBlank secondByte] at secondIs
  have outside := isSolid_of_isSpace gapIs
  rw [Bool.eq_false_iff, ne_eq,
    isSolid_iff_inside beforeBlank solid afterBlank gapByte] at outside
  simp only [List.length_append] at secondIs outside
  omega

/-! ## Files -/

/-- Every line is read back, and the others are passed over. -/
@[simp]
theorem parseLine_text (line : Line) :
    parseLine line.text = line.toEntry.map Entry.parsed := by
  cases line with
  | request entry layout =>
      rw [parseLine, search_request, Line.toEntry, Option.map_some,
        Entry.parsed, Entry.bytes]
      cases entry.size with
      | none => rfl
      | some numeral =>
          have exact : numeralValue numeral.digits ≤ exactBound :=
            Nat.le_of_lt (numeral.small.trans (by decide))
          simp only [Option.map_some, Option.getD_some, tonumber,
            numeral.nonempty, ↓reduceIte, Number.ofNat_of_le exact]
  | blank white =>
      have whole :=
        search_oneWord white.blank (admitted_nil isSolid)
          (admitted_nil isSpace)
      rw [List.append_nil, List.append_nil] at whole
      rw [parseLine, Line.text, whole]
      rfl
  | oneToken before token after =>
      rw [parseLine, Line.text,
        search_oneWord before.blank token.solid after.blank]
      rfl

theorem newline_notMem_of_admitted
    {admits : UInt8 → Bool} {run : Bytes} (admitted : Admitted admits run)
    (refused : admits newline = false) :
    newline ∉ run := by
  intro member
  rw [admitted newline member] at refused
  exact Bool.noConfusion refused

theorem newline_notMem_text (line : Line) : newline ∉ line.text := by
  have token : ∀ token : Token, newline ∉ token.text := fun token =>
    newline_notMem_of_admitted token.solid (by decide)
  cases line with
  | request entry layout =>
      have size : newline ∉ entry.sizeText layout := by
        unfold Entry.sizeText
        cases entry.size with
        | none => exact layout.after.inLine
        | some numeral =>
            simp only [List.mem_append, not_or]
            exact
              ⟨layout.beforeSize.inLine,
                newline_notMem_of_admitted numeral.decimal (by decide),
                layout.after.inLine⟩
      simp only [Line.text, List.mem_append, not_or]
      exact
        ⟨layout.before.inLine, token entry.method,
          layout.afterMethod.inLine, token entry.url, size⟩
  | blank white => exact white.inLine
  | oneToken before word after =>
      simp only [Line.text, List.mem_append, not_or]
      exact ⟨before.inLine, token word, after.inLine⟩

/-- The loop of `init` adds the entries of the lines in order. -/
@[simp]
theorem foldl_loadLine (texts : List Bytes) (workload : List Parsed) :
    texts.foldl loadLine workload =
      workload ++ texts.filterMap parseLine := by
  induction texts generalizing workload with
  | nil => simp
  | cons text texts induction =>
      rw [List.foldl_cons, induction, loadLine]
      cases parsed : parseLine text with
      | none => rw [List.filterMap_cons_none parsed]
      | some entry =>
          simp only [List.filterMap_cons_some parsed, List.append_assoc,
            List.singleton_append]

/-- It makes no difference whether an empty last piece counts as a line. -/
theorem filterMap_lines (contents : Bytes) :
    (lines contents).filterMap parseLine =
      (contents.splitOn newline).filterMap parseLine := by
  unfold lines
  dsimp only
  split
  · rename_i last
    have pieces := List.dropLast_append_getLast? [] last
    conv_rhs => rw [← pieces]
    rw [List.filterMap_append]
    exact (List.append_nil _).symm
  · rfl

theorem splitOn_fileText
    {lines : List Line} (nonempty : lines ≠ []) (closed : Bool) :
    (fileText lines closed).splitOn newline =
      lines.map Line.text ++ if closed then [[]] else [] := by
  have joined :
      ([newline].intercalate (lines.map Line.text)).splitOn newline =
        lines.map Line.text := by
    apply List.splitOn_intercalate
    · intro text member
      rcases List.mem_map.mp member with ⟨line, _, rfl⟩
      exact newline_notMem_text line
    · simpa using nonempty
  cases closed with
  | false => simpa [fileText] using joined
  | true =>
      simp only [fileText, ↓reduceIte]
      rw [List.splitOn_append_cons_self, joined, List.splitOn_nil]

/-- Reading a workload file gives exactly its entries, in order. -/
theorem foldl_loadLine_fileText
    {lines : List Line} (nonempty : lines ≠ []) (closed : Bool) :
    (ConsistencyWorkload.lines (fileText lines closed)).foldl loadLine [] =
      (entries lines).map Entry.parsed := by
  have read :
      (lines.map Line.text).filterMap parseLine =
        (entries lines).map Entry.parsed := by
    rw [List.filterMap_map, entries, List.map_filterMap]
    congr 1
    funext line
    exact parseLine_text line
  rw [foldl_loadLine, List.nil_append, filterMap_lines,
    splitOn_fileText nonempty, List.filterMap_append, read]
  cases closed with
  | false => exact List.append_nil _
  | true => exact List.append_nil _

end ZnsBench.Workload.WorkloadFile

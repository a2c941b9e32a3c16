import ZnsBench.Workload.JsonStringLanguage
import ZnsBench.Workload.JsonTables

/-!
# The language of `json.decode`

A relation says which texts are read as which values and what text is left
behind them, without a depth, a position or an order of tests: white space may
stand around every token, a comma may stand before a closing bracket, and a
word reaches to the next delimiter.  What the tables of arrays and objects are
is a parameter: in the language their entries stand in any order, and the
decoder enters them in one of these orders.
-/

namespace ZnsBench.Workload.Json

open ZnsBench.Core.ByteString ZnsBench.Core.Fallible

variable {Number : Type} {lua : Lua Number}

/-- Space, tab, carriage return and line feed. -/
def whiteSpace : Bytes := [32, 9, 13, 10]

/-- What ends a word: white space, a closing bracket or a comma. -/
def delimiters : Bytes := [32, 9, 13, 10, 93, 125, 44]

/-- What a number begins with: a digit or a minus sign. -/
def numberStarts : Bytes :=
  [45, 48, 49, 50, 51, 52, 53, 54, 55, 56, 57]

/-- White space and nothing else. -/
def Blank (gap : Bytes) : Prop :=
  ∀ char ∈ gap, char ∈ whiteSpace

/-- The end of a word. -/
def Ends (rest : Bytes) : Prop :=
  ∀ char ∈ rest.head?, char ∈ delimiters

/-- The characters of a word. -/
def Undelimited (text : Bytes) : Prop :=
  ∀ char ∈ text, char ∉ delimiters

/-- A text does not begin with white space. -/
def Visible (text : Bytes) : Prop :=
  ∀ char ∈ text.head?, isSpace char = false

/-- What a part of a text is read as. -/
inductive Parsed (Number : Type) where
  | value (value : Value Number)
  /-- The items of an array up to its closing bracket. -/
  | items (items : List (Value Number))
  /-- The members of an object up to its closing bracket. -/
  | members (members : List (Bytes × Value Number))

/-- The three words and what they stand for. -/
inductive Literal : Bytes → Value Number → Prop where
  | isTrue : Literal (ascii "true") (.boolean true)
  | isFalse : Literal (ascii "false") (.boolean false)
  | isNull : Literal (ascii "null") .null

/-- What the tables of arrays and objects are. -/
structure Tables (Number : Type) where
  array : List (Value Number) → List (Key × Value Number) → Prop
  object : List (Bytes × Value Number) → List (Key × Value Number) → Prop

/-- The entries stand in any order. -/
def anyOrder : Tables Number where
  array := ArrayEntries
  object := ObjectEntries

/-- The entries stand in the order in which the decoder enters them. -/
def asEntered : Tables Number where
  array items entries := entries = arrayTable items
  object members entries := entries = objectTable members

/-- A key is read, with the white space around the colon behind it. -/
def ReadsKey (lua : Lua Number) (text key rest : Bytes) : Prop :=
  ∃ quoted before after,
    text = 34 :: quoted ∧ Blank before ∧ Blank after ∧
      ReadsString lua quoted key (before ++ 58 :: (after ++ rest))

/-- A text is read as something, and a rest is left. -/
inductive Reads (lua : Lua Number) (tables : Tables Number) :
    Bytes → Parsed Number → Bytes → Prop where
  | string {text string rest : Bytes} :
      ReadsString lua text string rest →
      Reads lua tables (34 :: text) (.value (.string string)) rest
  | number {char : UInt8} {word rest : Bytes} {value : Number} :
      word.head? = some char → char ∈ numberStarts →
      Undelimited word → Ends rest → lua.tonumber word = some value →
      Reads lua tables (word ++ rest) (.value (.number value)) rest
  | literal {word rest : Bytes} {value : Value Number} :
      Literal word value → Ends rest →
      Reads lua tables (word ++ rest) (.value value) rest
  | array {text rest : Bytes} {items : List (Value Number)}
      {entries : List (Key × Value Number)} :
      Reads lua tables text (.items items) rest →
      tables.array items entries →
      Reads lua tables (91 :: text) (.value (.table entries)) rest
  | object {text rest : Bytes} {members : List (Bytes × Value Number)}
      {entries : List (Key × Value Number)} :
      Reads lua tables text (.members members) rest →
      tables.object members entries →
      Reads lua tables (123 :: text) (.value (.table entries)) rest
  | noItem {gap rest : Bytes} :
      Blank gap → Reads lua tables (gap ++ 93 :: rest) (.items []) rest
  | lastItem {gap text after rest : Bytes} {item : Value Number} :
      Blank gap → Reads lua tables text (.value item) (after ++ 93 :: rest) →
      Blank after → Reads lua tables (gap ++ text) (.items [item]) rest
  | nextItem {gap text after later rest : Bytes} {item : Value Number}
      {items : List (Value Number)} :
      Blank gap → Reads lua tables text (.value item) (after ++ 44 :: later) →
      Blank after → Reads lua tables later (.items items) rest →
      Reads lua tables (gap ++ text) (.items (item :: items)) rest
  | noMember {gap rest : Bytes} :
      Blank gap → Reads lua tables (gap ++ 125 :: rest) (.members []) rest
  | lastMember {gap text key valueText after rest : Bytes}
      {value : Value Number} :
      Blank gap → ReadsKey lua text key valueText →
      Reads lua tables valueText (.value value) (after ++ 125 :: rest) →
      Blank after →
      Reads lua tables (gap ++ text) (.members [(key, value)]) rest
  | nextMember {gap text key valueText after later rest : Bytes}
      {value : Value Number} {members : List (Bytes × Value Number)} :
      Blank gap → ReadsKey lua text key valueText →
      Reads lua tables valueText (.value value) (after ++ 44 :: later) →
      Blank after → Reads lua tables later (.members members) rest →
      Reads lua tables (gap ++ text) (.members ((key, value) :: members)) rest

variable {tables : Tables Number}

/-! ## White space and words -/

theorem isSpace_iff :
    ∀ char : UInt8, isSpace char = true ↔ char ∈ whiteSpace :=
  forall_byte (by decide +kernel)

theorem isDelim_iff :
    ∀ char : UInt8, isDelim char = true ↔ char ∈ delimiters :=
  forall_byte (by decide +kernel)

theorem isDelim_eq_false_iff (char : UInt8) :
    isDelim char = false ↔ char ∉ delimiters := by
  rw [← isDelim_iff, Bool.not_eq_true]

theorem startsNumber_iff :
    ∀ char : UInt8, startsNumber char = true ↔ char ∈ numberStarts :=
  forall_byte (by decide +kernel)

theorem visible_cons
    {char : UInt8} (visible : isSpace char = false) (rest : Bytes) :
    Visible (char :: rest) := by
  rintro _ ⟨⟩
  exact visible

theorem visible_skip (text : Bytes) : Visible (skip text) := by
  have first := List.head?_dropWhile_not isSpace text
  intro char member
  rw [skip] at member
  rw [Option.mem_def.mp member] at first
  exact first

/-- White space is passed and nothing else. -/
theorem exists_skip (text : Bytes) :
    ∃ gap, Blank gap ∧ text = gap ++ skip text :=
  ⟨text.takeWhile isSpace,
    fun char member => (isSpace_iff char).mp (List.mem_takeWhile_imp member),
    List.takeWhile_append_dropWhile.symm⟩

theorem skip_append
    {gap text : Bytes} (blank : Blank gap) (visible : Visible text) :
    skip (gap ++ text) = text := by
  rw [skip, List.dropWhile_append_of_pos fun char member =>
    (isSpace_iff char).mpr (blank char member)]
  cases text with
  | nil => rfl
  | cons char text =>
      exact List.dropWhile_cons_of_neg
        (Bool.eq_false_iff.mp (visible char rfl))

@[simp]
theorem skip_eq_nil_iff {text : Bytes} : skip text = [] ↔ Blank text := by
  rw [skip, List.dropWhile_eq_nil_iff]
  exact forall₂_congr fun char _ => isSpace_iff char

theorem length_skip_le (text : Bytes) :
    (skip text).length ≤ text.length :=
  (List.dropWhile_suffix isSpace).length_le

theorem word_spec (text : Bytes) :
    Undelimited (word text).1 ∧ Ends (word text).2 ∧
      text = (word text).1 ++ (word text).2 := by
  rw [word, List.span_eq_takeWhile_dropWhile]
  refine ⟨fun char member => ?_, fun char member => ?_, ?_⟩
  · have inside := List.mem_takeWhile_imp member
    exact (isDelim_eq_false_iff char).mp ((Bool.not_eq_true' _).mp inside)
  · have first := List.head?_dropWhile_not (fun char => !isDelim char) text
    rw [Option.mem_def.mp member] at first
    exact (isDelim_iff char).mp (Bool.not_eq_false' .. |>.mp first)
  · exact List.takeWhile_append_dropWhile.symm

theorem word_append
    {text rest : Bytes} (inside : Undelimited text) (ends : Ends rest) :
    word (text ++ rest) = (text, rest) := by
  have all : ∀ char ∈ text, (!isDelim char) = true := fun char member => by
    rw [(isDelim_eq_false_iff char).mpr (inside char member)]
    rfl
  rw [word, List.span_eq_takeWhile_dropWhile,
    List.takeWhile_append_of_pos all, List.dropWhile_append_of_pos all]
  cases rest with
  | nil => rw [List.takeWhile_nil, List.dropWhile_nil, List.append_nil]
  | cons char rest =>
      have stops : ¬ (!isDelim char) = true := by
        rw [(isDelim_iff char).mpr (ends char rfl)]
        decide
      rw [List.takeWhile_cons, List.dropWhile_cons, if_neg stops,
        if_neg stops, List.append_nil]

theorem head?_word
    {char : UInt8} (inside : isDelim char = false) (rest : Bytes) :
    (word (char :: rest)).1.head? = some char := by
  rw [word, List.span_eq_takeWhile_dropWhile]
  dsimp only
  rw [List.takeWhile_cons, inside]
  rfl

/-! ## The first character -/

/-- The characters in `char_func_map`. -/
def Starts (char : UInt8) : Prop :=
  char = 34 ∨ startsNumber char = true ∨ startsLiteral char = true ∨
    char = 91 ∨ char = 123

theorem starts_facts :
    ∀ char : UInt8, Starts char →
      isSpace char = false ∧ char ≠ 93 ∧ char ≠ 125 := by
  refine forall_byte ?_
  unfold Starts
  decide +kernel

theorem startsNumber_facts :
    ∀ char : UInt8, startsNumber char = true →
      char ≠ 34 ∧ isDelim char = false :=
  forall_byte (by decide +kernel)

theorem startsLiteral_facts :
    ∀ char : UInt8, startsLiteral char = true →
      char ≠ 34 ∧ startsNumber char = false :=
  forall_byte (by decide +kernel)

theorem undelimited_of_all
    {text : Bytes} (all : (text.all fun char => !isDelim char) = true) :
    Undelimited text := by
  intro char member
  have inside := List.all_eq_true.mp all char member
  exact (isDelim_eq_false_iff char).mp ((Bool.not_eq_true' _).mp inside)

@[simp]
theorem literal_eq_some_iff {text : Bytes} {value : Value Number} :
    literal text = some value ↔ Literal text value := by
  constructor
  · intro found
    rw [literal] at found
    split_ifs at found with isTrue isFalse isNull
    · cases found
      rw [isTrue]
      exact Literal.isTrue
    · cases found
      rw [isFalse]
      exact Literal.isFalse
    · cases found
      rw [isNull]
      exact Literal.isNull
  · intro found
    cases found with
    | isTrue => rfl
    | isFalse => rfl
    | isNull => rfl

/-- The words reach to the next delimiter and begin like words. -/
theorem Literal.facts
    {text : Bytes} {value : Value Number} (found : Literal text value) :
    Undelimited text ∧
      ∃ char rest, text = char :: rest ∧ startsLiteral char = true := by
  cases found with
  | isTrue => exact ⟨undelimited_of_all rfl, _, _, rfl, rfl⟩
  | isFalse => exact ⟨undelimited_of_all rfl, _, _, rfl, rfl⟩
  | isNull => exact ⟨undelimited_of_all rfl, _, _, rfl, rfl⟩

theorem Reads.starts
    {text rest : Bytes} {value : Value Number}
    (reads : Reads lua tables text (.value value) rest) :
    ∃ char tail, text = char :: tail ∧ Starts char := by
  cases reads with
  | string parsed => exact ⟨_, _, rfl, Or.inl rfl⟩
  | number first starts _ _ _ =>
      rcases List.head?_eq_some_iff.mp first with ⟨tail, rfl⟩
      exact ⟨_, _, rfl, Or.inr (Or.inl ((startsNumber_iff _).mpr starts))⟩
  | literal found _ =>
      rcases found.facts.2 with ⟨char, tail, same, starts⟩
      rw [same]
      exact ⟨_, _, rfl, Or.inr (Or.inr (Or.inl starts))⟩
  | array _ _ =>
      exact ⟨_, _, rfl, Or.inr (Or.inr (Or.inr (Or.inl rfl)))⟩
  | object _ _ =>
      exact ⟨_, _, rfl, Or.inr (Or.inr (Or.inr (Or.inr rfl)))⟩

theorem Reads.visible
    {text rest : Bytes} {value : Value Number}
    (reads : Reads lua tables text (.value value) rest) : Visible text := by
  rcases reads.starts with ⟨char, tail, rfl, starts⟩
  exact visible_cons (starts_facts char starts).1 tail

/-! ## The rest is shorter -/

theorem ReadsKey.shorter
    {text key rest : Bytes} (reads : ReadsKey lua text key rest) :
    rest.length < text.length := by
  rcases reads with ⟨quoted, before, after, rfl, _, _, parsed⟩
  have shorter := parsed.shorter
  rw [List.length_append, List.length_cons, List.length_append] at shorter
  rw [List.length_cons]
  omega

theorem ReadsKey.quote
    {text key rest : Bytes} (reads : ReadsKey lua text key rest) :
    text.head? = some 34 := by
  rcases reads with ⟨quoted, before, after, rfl, _⟩
  rfl

theorem Reads.shorter
    {text rest : Bytes} {parsed : Parsed Number}
    (reads : Reads lua tables text parsed rest) :
    rest.length < text.length := by
  induction reads with
  | string parsed => exact Nat.lt_succ_of_lt parsed.shorter
  | number first _ _ _ _ =>
      rcases List.head?_eq_some_iff.mp first with ⟨tail, rfl⟩
      rw [List.length_append, List.length_cons]
      omega
  | literal found _ =>
      rcases found.facts.2 with ⟨char, tail, rfl, _⟩
      rw [List.length_append, List.length_cons]
      omega
  | array _ _ shorter => exact Nat.lt_succ_of_lt shorter
  | object _ _ shorter => exact Nat.lt_succ_of_lt shorter
  | noItem _ =>
      rw [List.length_append, List.length_cons]
      omega
  | lastItem _ _ _ shorter =>
      rw [List.length_append, List.length_cons] at shorter
      rw [List.length_append]
      omega
  | nextItem _ _ _ _ shorter further =>
      rw [List.length_append, List.length_cons] at shorter
      rw [List.length_append]
      omega
  | noMember _ =>
      rw [List.length_append, List.length_cons]
      omega
  | lastMember _ key _ _ shorter =>
      have behind := key.shorter
      rw [List.length_append, List.length_cons] at shorter
      rw [List.length_append]
      omega
  | nextMember _ key _ _ _ shorter further =>
      have behind := key.shorter
      rw [List.length_append, List.length_cons] at shorter
      rw [List.length_append]
      omega

/-! ## The order of the entries -/

/-- What the decoder reads is in the language. -/
theorem Reads.inAnyOrder
    {text rest : Bytes} {parsed : Parsed Number}
    (reads : Reads lua asEntered text parsed rest) :
    Reads lua anyOrder text parsed rest := by
  induction reads with
  | string read => exact Reads.string read
  | number first starts inside ends found =>
      exact Reads.number first starts inside ends found
  | literal found ends => exact Reads.literal found ends
  | array _ entered items =>
      rw [entered]
      exact Reads.array items (arrayEntries_arrayTable _)
  | object _ entered members =>
      rw [entered]
      exact Reads.object members (objectEntries_objectTable _)
  | noItem blank => exact Reads.noItem blank
  | lastItem blank _ blankAfter item =>
      exact Reads.lastItem blank item blankAfter
  | nextItem blank _ blankAfter _ item items =>
      exact Reads.nextItem blank item blankAfter items
  | noMember blank => exact Reads.noMember blank
  | lastMember blank key _ blankAfter value =>
      exact Reads.lastMember blank key value blankAfter
  | nextMember blank key _ blankAfter _ value members =>
      exact Reads.nextMember blank key value blankAfter members

/-- The same but for the order of the entries of tables. -/
inductive SameParsed : Parsed Number → Parsed Number → Prop where
  | value {value other : Value Number} :
      Same value other → SameParsed (.value value) (.value other)
  | items {items others : List (Value Number)} :
      List.Forall₂ Same items others →
      SameParsed (.items items) (.items others)
  | members {members others : List (Bytes × Value Number)} :
      List.Forall₂ SameMember members others →
      SameParsed (.members members) (.members others)

/-- What is in the language is read with entries in the decoder's order. -/
theorem Reads.exists_asEntered
    {text rest : Bytes} {parsed : Parsed Number}
    (reads : Reads lua anyOrder text parsed rest) :
    ∃ found, SameParsed found parsed ∧
      Reads lua asEntered text found rest := by
  induction reads with
  | string read =>
      exact ⟨_, SameParsed.value (Same.refl _), Reads.string read⟩
  | number first starts inside ends found =>
      exact ⟨_, SameParsed.value (Same.refl _),
        Reads.number first starts inside ends found⟩
  | literal found ends =>
      exact ⟨_, SameParsed.value (Same.refl _), Reads.literal found ends⟩
  | array _ entries induction =>
      rcases induction with ⟨_, same, read⟩
      cases same with
      | items same =>
          have table := same_table (sameEntry_arrayTable same)
            (entries.perm (arrayEntries_arrayTable _))
          exact ⟨_, SameParsed.value table, Reads.array read rfl⟩
  | object _ entries induction =>
      rcases induction with ⟨_, same, read⟩
      cases same with
      | members same =>
          have table := same_table (sameEntry_objectTable same)
            (entries.perm (objectEntries_objectTable _))
          exact ⟨_, SameParsed.value table, Reads.object read rfl⟩
  | noItem blank =>
      exact ⟨_, SameParsed.items List.Forall₂.nil, Reads.noItem blank⟩
  | lastItem blank _ blankAfter induction =>
      rcases induction with ⟨_, same, read⟩
      cases same with
      | value same =>
          exact ⟨_, SameParsed.items (.cons same .nil),
            Reads.lastItem blank read blankAfter⟩
  | nextItem blank _ blankAfter _ induction further =>
      rcases induction with ⟨_, same, read⟩
      rcases further with ⟨_, others, later⟩
      cases same with
      | value same =>
          cases others with
          | items others =>
              exact ⟨_, SameParsed.items (.cons same others),
                Reads.nextItem blank read blankAfter later⟩
  | noMember blank =>
      exact ⟨_, SameParsed.members List.Forall₂.nil, Reads.noMember blank⟩
  | lastMember blank key _ blankAfter induction =>
      rcases induction with ⟨_, same, read⟩
      cases same with
      | value same =>
          refine ⟨_, SameParsed.members (.cons ?_ .nil),
            Reads.lastMember blank key read blankAfter⟩
          exact ⟨rfl, same⟩
  | nextMember blank key _ blankAfter _ induction further =>
      rcases induction with ⟨_, same, read⟩
      rcases further with ⟨_, others, later⟩
      cases same with
      | value same =>
          cases others with
          | members others =>
              refine ⟨_, SameParsed.members (.cons ?_ others),
                Reads.nextMember blank key read blankAfter later⟩
              exact ⟨rfl, same⟩

end ZnsBench.Workload.Json
